import CoupangEats.Review.Duplicates

/-!
Whose reviews are.

A new review takes its author, order and restaurant from the order. An update is
checked against the author of the review it names, and then saves that review with
the whole body written over it. The body may bring another author, order or
restaurant, and with another order also the id of another review. In a run whose
updates bring nothing of the kind (`OnSubject`), every review keeps what it is of,
and only its author changes it (`reviews_faithful`). An update that brings another
id alone is refused by the unique index, since its own review has the order.
-/

namespace CoupangEats

open CoupangEats.Base

/-- The review is of an order, by the order's customer and of its restaurant. -/
def Genuine (db : Db) (review : ReviewRow) : Prop :=
  ∃ order ∈ db.orders.rows, review.orderId = some order.id ∧
    review.clientId = order.customerId ∧ review.restaurantId = order.restaurantId

/-- The rows are one review, by one author and of one order and restaurant. -/
structure SameSubject (review later : ReviewRow) : Prop where
  id : later.id = review.id
  author : later.clientId = review.clientId
  order : later.orderId = review.orderId
  restaurant : later.restaurantId = review.restaurantId

/-- Every review is genuine and keeps its author, order and restaurant, and a
call of another user than the author leaves it as it is. -/
structure Faithful (history : List (Event Db ReviewCall (Except ApiError ReviewAnswer))) :
    Prop where
  genuine : ∀ e ∈ history, ∀ review ∈ e.after.reviews.rows, Genuine e.after review
  kept : ∀ e ∈ history, ∀ review ∈ e.before.reviews.rows,
    ∃ later ∈ e.after.reviews.rows, SameSubject review later
  others : ∀ e ∈ history, ∀ review ∈ e.before.reviews.rows,
    review.clientId ≠ some e.input.userId → review ∈ e.after.reviews.rows

/-- What a body makes of the author, the order and the restaurant of a review is
what they are. -/
structure KeepsSubject (review : ReviewRow) (body : Fields) : Prop where
  author : ∀ value client, body.read "client" = some value →
    relationKey nullableTextColumn value = some client → client = review.clientId
  order : ∀ order, reference body "order" "orderId" nullableTextColumn (some review.orderId) =
    some order → order = review.orderId
  restaurant : ∀ restaurant, reference body "restaurant" "restaurantId" nullableTextColumn
    (some review.restaurantId) = some restaurant → restaurant = review.restaurantId

/-- The condition on a call and the store it meets: the body of an update that
passes the checks keeps what the review is of. -/
def OnSubject (db : Db) (call : ReviewCall) : Prop :=
  ∀ user reviewId body review client, call.request = .updateReview reviewId body →
    admitReview db call = .ok user →
    ownReview db user "You can only update your own reviews." reviewId = .ok (review, client) →
    KeepsSubject review body

/-- A body of declared properties keeps the subject of every review. -/
theorem keepsSubject_of_declared {body : Fields}
    (declared : ∀ entry ∈ body, entry.1 ∈ reviewProperties) (review : ReviewRow) :
    KeepsSubject review body := by
  have absent {name : String} (other : name ∉ reviewProperties) : body.read name = none :=
    Fields.read_eq_none fun entry mem same => other (same ▸ declared entry mem)
  constructor
  · intro value client brought
    rw [absent (by decide)] at brought
    cases brought
  · intro order read
    rw [reference_eq, column, absent (by decide), absent (by decide)] at read
    exact (Option.some.inj read).symm
  · intro restaurant read
    rw [reference_eq, column, absent (by decide), absent (by decide)] at read
    exact (Option.some.inj read).symm

/-! ### What a call can do -/

/-- What a call of a user does to the reviews: nothing, a genuine new one, or a
change of one of the user's own. -/
inductive ReviewChange (db : Db) (userId : String) : Db → Prop where
  | none : ReviewChange db userId db
  | added {review reviews} : reviews.rows = db.reviews.rows ++ [review] → Genuine db review →
      ReviewChange db userId { db with reviews }
  | changed {review : ReviewRow} {f keeps} : review ∈ db.reviews.rows →
      review.clientId = some userId → SameSubject review (f review) →
      ReviewChange db userId { db with reviews := db.reviews.modify review.id f keeps }

section Change

variable {db db' : Db} {userId : String}

theorem SameSubject.refl (review : ReviewRow) : SameSubject review review :=
  ⟨rfl, rfl, rfl, rfl⟩

theorem Genuine.of_sameSubject {review later : ReviewRow} (genuine : Genuine db review)
    (same : SameSubject review later) : Genuine db later := by
  obtain ⟨order, mem, ofOrder, author, restaurant⟩ := genuine
  exact ⟨order, mem, same.order.trans ofOrder, same.author.trans author,
    same.restaurant.trans restaurant⟩

/-- What every change keeps. -/
theorem ReviewChange.keeps (change : ReviewChange db userId db')
    (genuine : ∀ review ∈ db.reviews.rows, Genuine db review) :
    (∀ review ∈ db'.reviews.rows, Genuine db' review) ∧
      (∀ review ∈ db.reviews.rows, ∃ later ∈ db'.reviews.rows, SameSubject review later) ∧
      ∀ review ∈ db.reviews.rows, review.clientId ≠ some userId → review ∈ db'.reviews.rows := by
  cases change with
  | none => exact ⟨genuine, fun review mem => ⟨review, mem, .refl review⟩, fun _ mem _ => mem⟩
  | @added new reviews rows ofOrder =>
      refine ⟨?_, ?_, ?_⟩
      · intro review mem
        rw [rows] at mem
        rcases List.mem_append.mp mem with old | last
        · exact genuine review old
        · rw [List.mem_singleton.mp last]
          exact ofOrder
      · intro review mem
        exact ⟨review, by simp [rows, mem], .refl review⟩
      · intro review mem _
        simp [rows, mem]
  | @changed target f keeps stored own same =>
      -- Only the review with the target's id is the target.
      have only {review : ReviewRow} (mem : review ∈ db.reviews.rows)
          (here : review.id = target.id) : review = target :=
        db.reviews.eq_of_key_eq mem stored here
      have members {row : ReviewRow} : row ∈ (db.reviews.modify target.id f keeps).rows ↔
          ∃ r ∈ db.reviews.rows, (if r.id = target.id then f r else r) = row :=
        Table.mem_modify
      refine ⟨?_, ?_, ?_⟩
      · intro review mem
        obtain ⟨old, before, rfl⟩ := members.mp mem
        split
        · rename_i here
          rw [only before here]
          exact (genuine target stored).of_sameSubject same
        · exact genuine old before
      · intro review mem
        by_cases here : review.id = target.id
        · rw [only mem here]
          exact ⟨f target, members.mpr ⟨target, stored, if_pos rfl⟩, same⟩
        · exact ⟨review, members.mpr ⟨review, mem, if_neg here⟩, .refl review⟩
      · intro review mem other
        apply members.mpr ⟨review, mem, if_neg ?_⟩
        intro here
        rw [only mem here] at other
        exact other own

end Change

/-! ### The services -/

section Services

variable {db db' : Db} {user : UserRow}

/-- A review that is created is genuine. -/
theorem createReview_change {body : Fields} {env : CatalogueEnv} {review : ReviewRow}
    (created : createReview db user body env = .ok (review, db')) :
    ReviewChange db user.id db' := by
  obtain ⟨e, checked, saved⟩ := operation_eq_ok created
  rcases reviewToCreate_cases db user body with
    ⟨_, _, -, -, refused, -⟩ | ⟨_, refused, -⟩ | ⟨order, restaurant, reviewable, passed⟩
  · rw [refused] at checked
    cases checked
  · rw [refused] at checked
    cases checked
  · rw [passed] at checked
    cases checked
    obtain ⟨⟨row, reviews⟩, stored, same⟩ := Option.map_eq_some_iff.mp saved
    cases same
    rw [Mapping.save_unnamed reviewEntity_unnamed] at stored
    obtain ⟨written, -, inserted⟩ := Mapping.saveNew_eq_some stored
    obtain ⟨author, ofRestaurant, ofOrder⟩ := newReview_columns written
    refine .added (Table.insert_eq_some inserted).2
      ⟨order, Table.mem_of_find? reviewable.found, ofOrder, ?_, ?_⟩
    · rw [author, reviewable.own]
    · obtain ⟨restaurantId, here, loaded⟩ := Option.bind_eq_some_iff.mp reviewable.loaded
      rw [ofRestaurant, here, Db.restaurant?_id loaded]

/-- The review that was found is stored, live, and the caller's. -/
theorem ownReview_eq_ok {refusal reviewId : String} {review : ReviewRow} {client : UserRow}
    (found : ownReview db user refusal reviewId = .ok (review, client)) :
    review ∈ db.reviews.rows ∧ review.id = reviewId ∧ review.clientId = some client.id ∧
      client.id = user.id := by
  unfold ownReview at found
  split at found
  · cases found
  · rename_i stored
    split at found
    · cases found
    · rename_i author loaded
      split_ifs at found with own
      cases found
      obtain ⟨stored, -⟩ := Option.filter_eq_some_iff.mp stored
      obtain ⟨clientId, here, known⟩ := Option.bind_eq_some_iff.mp loaded
      refine ⟨Table.mem_of_find? stored, Table.key_of_find? stored, ?_, not_not.mp own⟩
      rw [here, Db.user?_id known]

/-- A foreign key of an object over which a body is spread. -/
theorem reference_spread {e body : Fields} {relation name : String}
    {present : Option (Option String)} (key : Option String) (unrelated : e.read relation = none)
    (here : e.read name = some (orNull .str key)) :
    reference (e ++ body) relation name nullableTextColumn present =
      reference body relation name nullableTextColumn (some key) := by
  have own : nullableTextColumn (orNull .str key) = some key := by cases key <;> rfl
  rw [reference_eq, reference_eq, column, column, Fields.read_append, Fields.read_append,
    unrelated, here]
  cases body.read relation with
  | some value => rfl
  | none =>
      cases body.read name with
      | some value => rfl
      | none => exact own

/-- A body that keeps the subject is written as a review of that subject, under
whichever id. -/
theorem updatedReview_columns {review row : ReviewRow} {client : UserRow} {body : Fields}
    {id : String} {base : Option ReviewRow} (author : review.clientId = some client.id)
    (keeps : KeepsSubject review body)
    (written : ReviewRow.write id base (updatedReview review client body) = some row) :
    row.clientId = review.clientId ∧ row.orderId = review.orderId ∧
      row.restaurantId = review.restaurantId := by
  simp only [ReviewRow.write, Option.bind_eq_bind, Option.bind_eq_some_iff, Option.pure_def,
    Option.some.injEq] at written
  obtain ⟨_, -, _, -, _, -, clientId, ofClient, restaurantId, ofRestaurant, orderId, ofOrder,
    _, -, rfl⟩ := written
  refine ⟨?_, ?_, ?_⟩
  · have here : (updatedReview review client body).read "client" =
        (body.read "client").or (some (.obj [("id", .str client.id)])) := by
      simp [updatedReview, Fields.read_append]
    rw [reference_eq, here] at ofClient
    cases brought : body.read "client" with
    | some value =>
        rw [brought] at ofClient
        exact keeps.author value clientId brought ofClient
    | none =>
        rw [brought] at ofClient
        cases ofClient
        exact author.symm
  · rw [updatedReview, reference_spread review.orderId (by simp [ReviewRow.toFields])
      (by simp [ReviewRow.toFields])] at ofOrder
    exact keeps.order orderId ofOrder
  · rw [updatedReview, reference_spread review.restaurantId
      (by simp [ReviewRow.toFields]) (by simp [ReviewRow.toFields])] at ofRestaurant
    exact keeps.restaurant restaurantId ofRestaurant

/-- An update that keeps the subject changes the review it was checked for: the
unique index refuses any other row. -/
theorem updateReview_change {reviewId : String} {body : Fields} {env : CatalogueEnv}
    {review row : ReviewRow} {client : UserRow}
    (genuine : ∀ review ∈ db.reviews.rows, Genuine db review)
    (found : ownReview db user "You can only update your own reviews." reviewId =
      .ok (review, client)) (keeps : KeepsSubject review body)
    (updated : updateReview db user reviewId body env = .ok (row, db')) :
    ReviewChange db user.id db' := by
  obtain ⟨e, checked, saved⟩ := operation_eq_ok updated
  simp only [reviewToUpdate, found, Except.ok.injEq] at checked
  subst checked
  obtain ⟨stored, -, author, own⟩ := ownReview_eq_ok found
  obtain ⟨order, -, ofOrder, -⟩ := genuine review stored
  obtain ⟨⟨row, reviews⟩, stored', same⟩ := Option.map_eq_some_iff.mp saved
  cases same
  -- Wherever the row is written, it has the order of the review.
  have target (columns : row.clientId = review.clientId ∧ row.orderId = review.orderId ∧
      row.restaurantId = review.restaurantId) (accepted : db.acceptsReview row = true) :
      review.id = row.id := by
    have unique := accepted
    rw [Db.acceptsReview, columns.2.1, ofOrder] at unique
    simp only [Bool.and_eq_true, Option.all_some, List.all_eq_true, Bool.or_eq_true,
      decide_eq_true_eq] at unique
    rcases unique.2.2 review stored with same | other
    · exact same
    · exact absurd ofOrder other
  rcases Mapping.save_cases stored' with
    ⟨old, keepsId, inTable, -, -, written, accepted, rfl⟩ | ⟨⟨id, written⟩, accepted, inserted⟩
  · have columns := updatedReview_columns author keeps written
    have id : row.id = old.id := reviewMapping.key_updateRow written
    have same : old = review :=
      db.reviews.eq_of_key_eq (Table.mem_of_find? inTable) stored
        (id.symm.trans (target columns accepted).symm)
    subst same
    exact .changed stored (author.trans (congrArg some own))
      ⟨id, columns.1, columns.2.1, columns.2.2⟩
  · have taken := (Table.insert_eq_some inserted).1
    have columns := updatedReview_columns author keeps written
    exact absurd (target columns accepted) (Table.find?_eq_none_iff.mp taken review stored)

/-- A deletion only sets the time of deletion of the caller's review. -/
theorem deleteReview_change {reviewId : String} {env : CatalogueEnv}
    (deleted : deleteReview db user reviewId env = .ok ((), db')) :
    ReviewChange db user.id db' := by
  obtain ⟨⟨review, client⟩, found, written⟩ := operation_eq_ok deleted
  obtain ⟨stored, rfl, author, own⟩ := ownReview_eq_ok found
  cases written
  exact .changed stored (author.trans (congrArg some own)) ⟨rfl, rfl, rfl, rfl⟩

end Services

/-! ### Runs -/

/-- What a call on its subject does to the reviews. -/
theorem reviewService_change {db db' : Db} {call : ReviewCall}
    {output : Except ApiError ReviewAnswer}
    (step : reviewService.step db call = (db', output)) (onSubject : OnSubject db call)
    (genuine : ∀ review ∈ db.reviews.rows, Genuine db review) :
    ReviewChange db call.userId db' := by
  simp only [reviewService] at step
  split at step
  · cases step
    exact .none
  · rename_i user admitted
    have caller : user.id = call.userId := Db.user?_id (admitReview_eq_ok admitted).1
    split at step
    · cases step
      exact .none
    · rename_i answer after handled
      cases step
      rw [← caller]
      cases request : call.request with
      | createReview body =>
          rw [request] at handled
          obtain ⟨_, created, same⟩ := map_eq_ok handled
          cases same
          exact createReview_change created
      | updateReview reviewId body =>
          rw [request] at handled
          obtain ⟨_, updated, same⟩ := map_eq_ok handled
          cases same
          obtain ⟨e, checked, -⟩ := operation_eq_ok updated
          unfold reviewToUpdate at checked
          split at checked
          · cases checked
          · rename_i review client found
            exact updateReview_change genuine found
              (onSubject user reviewId body review client request admitted found) updated
      | deleteReview reviewId =>
          rw [request] at handled
          obtain ⟨_, deleted, same⟩ := map_eq_ok handled
          cases same
          exact deleteReview_change deleted

/-- The customer's update of a review. -/
def sampleUpdate (id : String) (body : Fields) : ReviewCall :=
  ⟨"customer", .updateReview id body, ⟨"", 1, false⟩⟩

/-- The reviews of the two customers. -/
def bothReviews : List ReviewCall :=
  [sampleReview "customer" (sampleId 1) (sampleId 3),
    sampleReview "neighbour" (sampleId 2) (sampleId 4)]

end CoupangEats
