import CoupangEats.Order.Calls
import CoupangEats.Review.Service

/-!
Which new reviews fail behind the checks of the service.

The check for an earlier review of the order does not see the soft-deleted ones;
the unique index on the order does. A customer who deletes a review and reviews
the order again passes every check and fails at the insert. The checks themselves
fail on an order whose restaurant has been deleted, and a text that is longer
than its column is refused by the database alone. There are no other ways
(`reviews_answered_iff`).
-/

namespace CoupangEats

open CoupangEats.Base

/-- Nothing fails the call from outside, and the generated id is new. -/
structure Unhindered (db : Db) (call : ReviewCall) : Prop where
  works : call.env.fails = false
  fresh : db.reviews.find? call.env.generated = none

/-- A call of `createReview` that nothing hinders stores the review, or the
service refuses it by an error of its own. -/
def Answers (e : Event Db ReviewCall (Except ApiError ReviewAnswer)) : Prop :=
  ∀ body, e.input.request = .createReview body → Unhindered e.before e.input →
    (∃ review, e.output = .ok (.review review) ∧ review ∈ e.after.reviews.rows) ∨
      ∃ error, e.output = .error error ∧ error.isHttp = true

/-- A review of the order can be stored: its text fits the column, and no review
of the order is stored, deleted ones included. -/
def Storable (db : Db) (body : Fields) (order : OrderRow) : Prop :=
  ((body.readString "reviewText").getD "").length ≤ 255 ∧
    ∀ review ∈ db.reviews.rows, review.orderId ≠ some order.id

/-- The condition on a call of `createReview` and the store it meets: the
restaurant of the caller's order loads, and if the request is reviewable, the
review can be stored. -/
def Unblocked (db : Db) (call : ReviewCall) : Prop :=
  ∀ body user order, call.request = .createReview body → Unhindered db call →
    admitReview db call = .ok user → OwnOrder db user body order →
    ∃ restaurant, order.restaurantId.bind db.restaurant? = some restaurant ∧
      (Reviewable db user body order restaurant → Storable db body order)

/-! ### The insert -/

section Insert

variable {db : Db} {user : UserRow} {body : Fields} {order : OrderRow}
  {restaurant : RestaurantRow} {generated : String}

/-- Whoever is admitted is stored, and has sent a valid body. -/
theorem admitReview_eq_ok {call : ReviewCall} (admitted : admitReview db call = .ok user) :
    db.user? call.userId = some user ∧ user.role = .client ∧ call.request.valid = true := by
  unfold admitReview at admitted
  split at admitted
  · cases admitted
  · rename_i known
    split_ifs at admitted with role valid
    cases admitted
    exact ⟨known, not_not.mp role, valid⟩

/-- A new review is accepted by the constraints exactly when the order has none. -/
theorem acceptsReview_new {review : ReviewRow} (known : db.users.find? user.id = some user)
    (place : db.restaurants.find? restaurant.id = some restaurant)
    (found : db.orders.find? order.id = some order)
    (fresh : db.reviews.find? review.id = none)
    (columns : review.clientId = some user.id ∧ review.restaurantId = some restaurant.id ∧
      review.orderId = some order.id) :
    db.acceptsReview review = true ↔
      ∀ other ∈ db.reviews.rows, other.orderId ≠ some order.id := by
  obtain ⟨client, ofRestaurant, ofOrder⟩ := columns
  simp only [Db.acceptsReview, client, ofRestaurant, ofOrder, Option.all_some, known, place, found,
    Option.isSome_some, Bool.true_and, List.all_eq_true, Bool.or_eq_true, decide_eq_true_eq]
  refine forall₂_congr fun other mem => or_iff_right ?_
  exact Table.find?_eq_none_iff.mp fresh other mem

/-- The save of a reviewable request succeeds exactly when the text fits and no
review of the order is stored. -/
theorem saveReview_new (known : db.users.find? user.id = some user)
    (reviewable : Reviewable db user body order restaurant)
    (valid : validCreateReview body = true) (fresh : db.reviews.find? generated = none) :
    (∃ out, saveReview db generated (reviewEntity body user restaurant order) = some out) ↔
      Storable db body order := by
  have found : db.orders.find? order.id = some order := by
    rw [reviewable.toOwnOrder.id_eq]
    exact reviewable.found
  have place : db.restaurants.find? restaurant.id = some restaurant := by
    obtain ⟨restaurantId, -, loaded⟩ := Option.bind_eq_some_iff.mp reviewable.loaded
    exact Db.restaurant?_stored loaded
  have accepted {review : ReviewRow}
      (written : ReviewRow.write generated none (reviewEntity body user restaurant order) =
        some review) :
      db.acceptsReview review = true ↔
        ∀ other ∈ db.reviews.rows, other.orderId ≠ some order.id := by
    refine acceptsReview_new known place found ?_ (newReview_columns written)
    rw [reviewMapping.key_insertRow written]
    exact fresh
  have saves : (∃ out, saveReview db generated (reviewEntity body user restaurant order) =
      some out) ↔ ∃ out, reviewMapping.saveNew db.acceptsReview db.reviews generated
        (reviewEntity body user restaurant order) = some out := by
    rw [saveReview, Mapping.save_unnamed reviewEntity_unnamed]
    simp [Option.map_eq_some_iff]
  rw [saves, Mapping.saveNew_isSome, Storable, ← newReview_written generated valid]
  constructor
  · rintro ⟨review, written, accepts, -⟩
    exact ⟨⟨review, written⟩, (accepted written).mp accepts⟩
  · rintro ⟨⟨review, written⟩, unreviewed⟩
    exact ⟨review, written, (accepted written).mpr unreviewed, fresh⟩

end Insert

/-! ### Runs -/

theorem admitReview_error {db : Db} {call : ReviewCall} {e : ApiError}
    (refused : admitReview db call = .error e) : e.isHttp = true := by
  unfold admitReview at refused
  split at refused
  · cases refused
    rfl
  · split_ifs at refused <;> cases refused <;> rfl

/-- The own order is one, so what is asked of every own order is asked of it. -/
theorem Reviewable.storable_iff {db : Db} {user : UserRow} {body : Fields} {order : OrderRow}
    {restaurant : RestaurantRow} (reviewable : Reviewable db user body order restaurant) :
    (∀ order, OwnOrder db user body order →
        ∃ restaurant, order.restaurantId.bind db.restaurant? = some restaurant ∧
          (Reviewable db user body order restaurant → Storable db body order)) ↔
      Storable db body order := by
  constructor
  · intro all
    obtain ⟨restaurant', loaded, storable⟩ := all order reviewable.toOwnOrder
    rw [reviewable.loaded, Option.some.injEq] at loaded
    subst loaded
    exact storable reviewable
  · intro storable order' own
    rw [← reviewable.toOwnOrder.unique own]
    exact ⟨restaurant, reviewable.loaded, fun _ => storable⟩

/-- An admitted and unhindered call of `createReview` is answered exactly when
the order's restaurant loads and the insert finds room. -/
theorem createReview_answered {db db' : Db} {call : ReviewCall} {user : UserRow} {body : Fields}
    {output : Except ApiError ReviewAnswer} (request : call.request = .createReview body)
    (unhindered : Unhindered db call) (admitted : admitReview db call = .ok user)
    (step : reviewService.step db call = (db', output)) :
    ((∃ review, output = .ok (.review review) ∧ review ∈ db'.reviews.rows) ∨
        ∃ error, output = .error error ∧ error.isHttp = true) ↔
      ∀ order, OwnOrder db user body order →
        ∃ restaurant, order.restaurantId.bind db.restaurant? = some restaurant ∧
          (Reviewable db user body order restaurant → Storable db body order) := by
  obtain ⟨known, -, valid⟩ := admitReview_eq_ok admitted
  rw [request] at valid
  simp only [reviewService, admitted, request, handleReview, createReview, operation,
    unhindered.works, Bool.false_eq_true, if_false] at step
  rcases reviewToCreate_cases db user body with
    ⟨order, e, own, gone, refused, internal⟩ | ⟨e, refused, http, others⟩ |
      ⟨order, restaurant, reviewable, passed⟩
  · -- The restaurant does not load.
    rw [refused] at step
    cases step
    refine iff_of_false ?_ fun all => ?_
    · rintro (⟨_, ok, -⟩ | ⟨_, same, http⟩)
      · cases ok
      · cases same
        rw [internal] at http
        cases http
    · obtain ⟨restaurant, loaded, -⟩ := all order own
      rw [gone] at loaded
      cases loaded
  · rw [refused] at step
    cases step
    refine iff_of_true (.inr ⟨e, rfl, http⟩) fun order own => ?_
    obtain ⟨restaurant, loaded, no⟩ := others order own
    exact ⟨restaurant, loaded, fun reviewable => absurd reviewable no⟩
  · -- The checks are passed, and the insert decides.
    have decided := saveReview_new (Db.user?_stored known) reviewable valid unhindered.fresh
    simp only [passed] at step
    rw [reviewable.storable_iff, ← decided]
    cases saved : saveReview db call.env.generated (reviewEntity body user restaurant order) with
    | none =>
        rw [saved] at step
        cases step
        refine iff_of_false ?_ ?_
        · rintro (⟨_, ok, -⟩ | ⟨_, same, http⟩)
          · cases ok
          · cases same
            cases http
        · rintro ⟨_, stored⟩
          cases stored
    | some out =>
        rw [saved] at step
        cases step
        refine iff_of_true (.inl ⟨out.1, rfl, ?_⟩) ⟨out, rfl⟩
        obtain ⟨⟨review, reviews⟩, stored, rfl⟩ := Option.map_eq_some_iff.mp saved
        exact Mapping.save_stores stored

/-- A call meets the condition exactly when it is answered. -/
theorem answers_iff_unblocked {e : Event Db ReviewCall (Except ApiError ReviewAnswer)}
    (step : reviewService.step e.before e.input = (e.after, e.output)) :
    Answers e ↔ Unblocked e.before e.input := by
  cases admitted : admitReview e.before e.input with
  | error refusal =>
      have output : e.output = .error refusal := by
        simp only [reviewService, admitted] at step
        exact (congrArg Prod.snd step).symm
      refine iff_of_true (fun body _ _ => .inr ⟨refusal, output, admitReview_error admitted⟩) ?_
      intro body user order _ _ other
      rw [admitted] at other
      cases other
  | ok user =>
      constructor
      · intro answers body user' order request unhindered admitted' own
        exact (createReview_answered request unhindered admitted' step).mp
          (answers body request unhindered) order own
      · intro unblocked body request unhindered
        exact (createReview_answered request unhindered admitted step).mpr fun order own =>
          unblocked body user order request unhindered admitted own

/-- All calls of `createReview` in a run are answered exactly when each of them
meets the condition. -/
theorem reviews_answered_iff (db : Db) (calls : List ReviewCall) :
    (∀ e ∈ reviewService.history db calls, Answers e) ↔
      ∀ e ∈ reviewService.history db calls, Unblocked e.before e.input := by
  apply forall₂_congr
  intro e mem
  exact answers_iff_unblocked (Machine.step_of_mem_history mem)

/-! ### A review after a deleted one -/

/-- Some ids. -/
def sampleId (n : Nat) : String := "00000000-0000-4000-8000-00000000000" ++ toString n

/-- A delivered order of the customer. -/
def deliveredRow (id customerId : String) : OrderRow :=
  { sampleRow with
    id, status := .delivered, customerId := some customerId, restaurantId := some (sampleId 0) }

/-- A store in which two customers have each had an order delivered. -/
def deliveredStore : Db :=
  { Db.empty with
    users :=
      ⟨[sampleUser "customer" .client, sampleUser "neighbour" .client, sampleUser "owner" .owner],
        by decide⟩
    restaurants := ⟨[sampleRestaurant (sampleId 0) "owner"], by decide +kernel⟩
    orders :=
      ⟨[deliveredRow (sampleId 1) "customer", deliveredRow (sampleId 2) "neighbour"],
        by decide +kernel⟩ }

/-- A review of an order, stored under an id. -/
def sampleReview (userId orderId generated : String) : ReviewCall :=
  ⟨userId, .createReview [("orderId", .str orderId), ("restaurantId", .str (sampleId 0)),
    ("score", .num 5), ("reviewText", .str "good")], ⟨generated, 0, false⟩⟩

/-- The customer's deletion of a review. -/
def sampleDeletion (id : String) : ReviewCall := ⟨"customer", .deleteReview id, ⟨"", 1, false⟩⟩

/-- The customer reviews an order, deletes the review, and cannot review the order
again. -/
theorem deleted_review_blocks :
    ¬ ∀ (db : Db) (calls : List ReviewCall), db.reviews = .empty →
      ∀ e ∈ reviewService.history db calls, Answers e := by
  intro all
  let again := sampleReview "customer" (sampleId 1) (sampleId 4)
  let deleted := reviewService.run deliveredStore
    [sampleReview "customer" (sampleId 1) (sampleId 3), sampleDeletion (sampleId 3)]
  have answers := all deliveredStore [sampleReview "customer" (sampleId 1) (sampleId 3),
    sampleDeletion (sampleId 3), again] rfl (reviewService.event deleted again) (by simp [deleted])
  have refused : (reviewService.event deleted again).output = .error queryFailed := by
    decide +kernel
  rcases answers _ rfl ⟨rfl, by decide +kernel⟩ with ⟨_, stored, -⟩ | ⟨error, same, http⟩
  · rw [refused] at stored
    cases stored
  · rw [refused] at same
    cases same
    cases http

end CoupangEats
