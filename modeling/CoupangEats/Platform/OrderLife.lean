import CoupangEats.Order.Life
import CoupangEats.Platform.Integrity

/-!
Every order lives its own life.

The server answers requests about all orders on one store, between changes of accounts and
of the catalogue. `Lives` relates the store to the life of one order as `Order.Life` has it:
from the creation of the order on, the requests about it are answered as this life
decides, and change it as it says, whatever else the server is asked; only the cleanup
job ends it, while the order is pending and not paid for (`order_lives`). So an order that
has been started or paid for is never lost (`order_stays`).
-/

namespace CoupangEats

open CoupangEats.Base

/-! ### The life in the store -/

/-- The order is there, is between the parties, and is so far in its life. -/
structure Lives (parties : Parties) (orderId : String) (life : OrderLife) (db : Db) : Prop where
  order : ∃ order, db.orders.find? orderId = some order ∧
    order.customerId = some parties.customer ∧ order.restaurantId = some parties.restaurantId ∧
    order.status = life.status ∧ order.driverId = life.driver
  owner : ∃ restaurant, db.restaurants.find? parties.restaurantId = some restaurant ∧
    restaurant.ownerId = parties.owner
  paid : life.paid = true ↔ ∃ payment ∈ db.payments.rows, payment.orderId = orderId
  reviewed : life.reviewed = true ↔ ∃ review ∈ db.reviews.rows, review.orderId = some orderId

/-- The request about the order that a member's request is, if it passes the pipes. -/
def MemberRequest.about (orderId : String) (user : UserRow) : MemberRequest → Option LifeRequest
  | .editOrderStatus id status _ =>
      if id = orderId then some (.edit user.id user.role status) else none
  | .createPayment body _ =>
      if validPayment body = true ∧ body.readString "orderId" = some orderId then
        some (.pay user.id)
      else none
  | .review (.createReview body) _ =>
      if validCreateReview body = true ∧ body.readString "orderId" = some orderId then
        some (.review user.id ((body.readString "restaurantId").getD ""))
      else none
  | _ => none

section Asks

variable (deployment : Deployment) (parties : Parties) (orderId : String)

/-- The request about the order that an event is. -/
def asks (e : ServerEvent) : Option LifeRequest :=
  match e.input with
  | .member now authHeader request =>
      match admitMember deployment e.before now authHeader request with
      | .error _ => none
      | .ok user => request.about orderId user
  | _ => none

/-- The life behind an event: accepted requests about the order change it. -/
def OrderLife.behind (life : OrderLife) (e : ServerEvent) : OrderLife :=
  match asks deployment orderId e, e.output.result with
  | some request, .ok _ => (life.next parties request).getD life
  | _, _ => life

/-- The life of the order behind the events since it was placed. -/
def lived (past : List ServerEvent) : OrderLife :=
  past.foldl (OrderLife.behind deployment parties orderId) .placed

end Asks

/-- The life has decided about the request: what is accepted it allows, and what the server
refuses, and not a failure behind it, it refuses. -/
def Decides (parties : Parties) (life : OrderLife) (request : LifeRequest)
    (result : Except ApiError ServerAnswer) : Prop :=
  match result with
  | .ok _ => (life.next parties request).isSome
  | .error error => error.isHttp = true → life.next parties request = none

/-! ### What leaves a life alone -/

section Frame

variable {parties : Parties} {orderId : String} {life : OrderLife} {db db' : Db}

/-- The owners of restaurants stay. -/
def KeepsOwners (db db' : Db) : Prop :=
  ∀ id restaurant, db.restaurants.find? id = some restaurant →
    ∃ after, db'.restaurants.find? id = some after ∧ after.ownerId = restaurant.ownerId

theorem keepsOwners_of_same (same : db'.restaurants = db.restaurants) : KeepsOwners db db' :=
  fun _ restaurant found => ⟨restaurant, by rw [same, found], rfl⟩

theorem KeepsOwners.of_write {user : UserRow} (write : Write db user db') : KeepsOwners db db' := by
  cases write with
  | @restaurant row restaurants role owner live category own puts =>
      intro id restaurant found
      rw [puts]
      split
      · rename_i same
        subst same
        exact ⟨row, rfl, owner.trans (own restaurant found).symm⟩
      · exact ⟨restaurant, found, rfl⟩
  | none => exact keepsOwners_of_same rfl
  | dish => exact keepsOwners_of_same rfl
  | order => exact keepsOwners_of_same rfl
  | status => exact keepsOwners_of_same rfl
  | payment => exact keepsOwners_of_same rfl
  | review => exact keepsOwners_of_same rfl
  | changedReview => exact keepsOwners_of_same rfl

/-- A store with the order, its payment and its review as before. -/
theorem Lives.transfer (lives : Lives parties orderId life db)
    (orders : db'.orders.find? orderId = db.orders.find? orderId) (owners : KeepsOwners db db')
    (payments : (∃ payment ∈ db'.payments.rows, payment.orderId = orderId) ↔
      ∃ payment ∈ db.payments.rows, payment.orderId = orderId)
    (reviews : (∃ review ∈ db'.reviews.rows, review.orderId = some orderId) ↔
      ∃ review ∈ db.reviews.rows, review.orderId = some orderId) :
    Lives parties orderId life db' := by
  obtain ⟨restaurant, found, own⟩ := lives.owner
  obtain ⟨after, there, same⟩ := owners _ _ found
  exact ⟨by rw [orders]; exact lives.order, ⟨after, there, same.trans own⟩,
    lives.paid.trans payments.symm, lives.reviewed.trans reviews.symm⟩

/-- A store with other accounts and categories only. -/
theorem Lives.idle (lives : Lives parties orderId life db) (orders : db'.orders = db.orders)
    (restaurants : db'.restaurants = db.restaurants) (payments : db'.payments = db.payments)
    (reviews : db'.reviews = db.reviews) : Lives parties orderId life db' := by
  refine lives.transfer (by rw [orders]) (keepsOwners_of_same restaurants) ?_ ?_
  · rw [payments]
  · rw [reviews]

end Frame

/-! ### Requests about the order -/

/-- The request is answered as the life decides, and the store is left so. -/
def LivesOn {α : Type} (parties : Parties) (orderId : String) (life : OrderLife)
    (request : LifeRequest) (result : Except ApiError α) (db : Db) : Prop :=
  match result with
  | .ok _ => ∃ after, life.next parties request = some after ∧ Lives parties orderId after db
  | .error error => Lives parties orderId life db ∧
      (error.isHttp = true → life.next parties request = none)

theorem LivesOn.map {α β : Type} {parties : Parties} {orderId : String} {life : OrderLife}
    {request : LifeRequest} {result : Except ApiError α} {db : Db} (f : α → β)
    (on : LivesOn parties orderId life request result db) :
    LivesOn parties orderId life request (result.map f) db := by
  cases result with
  | ok a => exact on
  | error e => exact on

section Edit

variable {parties : Parties} {orderId : String} {life : OrderLife} {db db' : Db} {user : UserRow}
  {order edited : LoadedOrder} {status : OrderStatus}

/-- What the life says about a status change that it allows. -/
theorem next_of_edit (sound : Sound db) (lives : Lives parties orderId life db)
    (loaded : loadOrder db orderId = some order) (edit : Edit user order status edited) :
    life.next parties (.edit user.id user.role status) =
      some { life with
        status
        driver := if status = .pickedUp then some user.id else life.driver } := by
  obtain ⟨row, found, -, place, -, driver⟩ := lives.order
  have same : order.row = row := Option.some.inj ((loadOrder_row loaded).symm.trans found)
  cases edit with
  | owner role loads own asked =>
      obtain ⟨restaurant, stored, owner⟩ := lives.owner
      rw [loadOrder_restaurant loaded, same, place, Option.bind_some, sound.restaurant? stored,
        Option.some.injEq] at loads
      subst loads
      rw [role, OrderLife.next, if_pos ⟨own.symm.trans owner, asked⟩]
      rcases asked with rfl | rfl <;> rfl
  | pickedUp role =>
      rw [role]
      rfl
  | delivered role mine =>
      rw [sound.linked.driver_id loaded, same, driver] at mine
      rw [role, OrderLife.next, if_pos mine]
      rfl

/-- A status change that the life allows passes the checks. -/
theorem edit_of_next (sound : Sound db) (lives : Lives parties orderId life db)
    (loaded : loadOrder db orderId = some order)
    (allowed : (life.next parties (.edit user.id user.role status)).isSome) :
    ∃ edited, Edit user order status edited := by
  obtain ⟨row, found, -, place, -, driver⟩ := lives.order
  have same : order.row = row := Option.some.inj ((loadOrder_row loaded).symm.trans found)
  cases role : user.role with
  | client =>
      rw [role] at allowed
      cases allowed
  | owner =>
      rw [role, OrderLife.next, Option.isSome_ite] at allowed
      obtain ⟨restaurant, stored, owner⟩ := lives.owner
      have loads : order.restaurant = some restaurant := by
        rw [loadOrder_restaurant loaded, same, place, Option.bind_some, sound.restaurant? stored]
      exact ⟨_, .owner role loads (owner.trans allowed.1.symm) allowed.2⟩
  | delivery =>
      rw [role] at allowed
      cases status with
      | pickedUp => exact ⟨_, .pickedUp role⟩
      | delivered =>
          rw [OrderLife.next, Option.isSome_ite] at allowed
          refine ⟨_, .delivered role ?_⟩
          rw [sound.linked.driver_id loaded, same, driver, allowed]
      | pending | cooking | cooked => cases allowed

/-- The order behind a status change. -/
theorem Lives.behindEdit (sound : Sound db) (lives : Lives parties orderId life db)
    (loaded : loadOrder db orderId = some order) (edit : Edit user order status edited) :
    Lives parties orderId
      { life with status, driver := if status = .pickedUp then some user.id else life.driver }
      (saveOrder db order.row edited.columns) := by
  obtain ⟨row, found, customer, place, -, driver⟩ := lives.order
  have same : order.row = row := Option.some.inj ((loadOrder_row loaded).symm.trans found)
  refine ⟨⟨row.edited user.id status, ?_, customer, place, rfl, ?_⟩, lives.owner, lives.paid,
    lives.reviewed⟩
  · rw [edited_find? sound.linked loaded edit, if_pos rfl, same]
  · simp only [OrderRow.edited, driver]

/-- A status change that passes the checks fails with the database only. -/
theorem editOrderStatus_failed {faults : Faults} {e : ApiError}
    (loaded : loadOrder db orderId = some order) (edit : Edit user order status edited)
    (failed : (editOrderStatus db user orderId status faults).result = .error e) :
    e = queryFailed := by
  simp only [editOrderStatus, transactional, editOrderStatusBody, loaded,
    applyEdit_eq_ok.mpr edit] at failed
  cases saves : faults.save with
  | true => simpa [saves, eq_comm] using failed
  | false =>
      cases commits : faults.commit with
      | true => simpa [saves, commits, eq_comm] using failed
      | false => simp [saves, commits] at failed

/-- A request for a status change of the order. -/
theorem Lives.answersEdit {faults : Faults} (sound : Sound db)
    (lives : Lives parties orderId life db) (known : db.user? user.id = some user) :
    LivesOn parties orderId life (.edit user.id user.role status)
      (orderStep db (.editOrderStatus user.id orderId status faults)).2.result
      (orderStep db (.editOrderStatus user.id orderId status faults)).1 := by
  obtain ⟨row, found, -⟩ := lives.order
  obtain ⟨order, loaded, -⟩ := loadOrder_of_find found
  have effect := orderStep_effect db (.editOrderStatus user.id orderId status faults)
  generalize answered : (orderStep db (.editOrderStatus user.id orderId status faults)).2.result =
    result at effect
  generalize (orderStep db (.editOrderStatus user.id orderId status faults)).1 = db' at effect
  cases effect with
  | edited known' loaded' edit =>
      rw [known, Option.some.injEq] at known'
      subst known'
      exact ⟨_, next_of_edit sound lives loaded' edit, lives.behindEdit sound loaded' edit⟩
  | @refused _ e =>
      refine ⟨lives, fun http => ?_⟩
      by_contra allowed
      obtain ⟨edited, edit⟩ :=
        edit_of_next sound lives loaded (Option.isSome_iff_ne_none.mpr allowed)
      simp only [orderStep, known] at answered
      cases failed : (editOrderStatus db user orderId status faults).result with
      | ok value =>
          rw [failed] at answered
          cases answered
      | error error =>
          rw [failed] at answered
          cases answered
          rw [editOrderStatus_failed loaded edit failed] at http
          cases http

/-- Other orders, and status changes of them. -/
theorem Lives.otherOrder {call : OrderCall} (sound : Sound db)
    (lives : Lives parties orderId life db)
    (other : ∀ userId status faults, call ≠ .editOrderStatus userId orderId status faults) :
    Lives parties orderId life (orderStep db call).1 := by
  have effect := orderStep_effect db call
  generalize (orderStep db call).1 = db' at effect ⊢
  generalize (orderStep db call).2.result = result at effect
  cases effect with
  | refused => exact lives
  | created known assembled saved =>
      obtain ⟨total, orders, orderItems, rfl, inserted, -⟩ := saveNewOrder_eq_some saved
      refine lives.transfer ?_ (keepsOwners_of_same rfl) Iff.rfl Iff.rfl
      rw [Table.find?_insert inserted, if_neg]
      rintro same
      obtain ⟨row, found, -⟩ := lives.order
      rw [same, (Table.insert_eq_some inserted).1] at found
      cases found
  | edited known loaded edit =>
      refine lives.transfer ?_ (keepsOwners_of_same rfl) Iff.rfl Iff.rfl
      rw [edited_find? sound.linked loaded edit, if_neg]
      rintro rfl
      exact other _ _ _ rfl

end Edit

section Payment

variable {parties : Parties} {orderId generated : String} {life : OrderLife} {db : Db}
  {user : UserRow} {body : Fields}

/-- Whether the order is paid for, behind a payment. -/
theorem paid_behind {row : PaymentRow} {order : OrderRow}
    {payments : Table String PaymentRow PaymentRow.id}
    (adds : AddsPayment db user body row order payments) :
    (∃ payment ∈ payments.rows, payment.orderId = orderId) ↔
      order.id = orderId ∨ ∃ payment ∈ db.payments.rows, payment.orderId = orderId := by
  rw [(Table.insert_eq_some adds.inserted).2]
  simp [adds.ofOrder, or_comm]

/-- A payment that passes the checks fails with the database only. -/
theorem createPayment_failed {order : OrderRow} {e : ApiError}
    (admitted : Admitted db ⟨user.id, body, generated⟩ user order)
    (failed : createPayment db ⟨user.id, body, generated⟩ = .error e) : e = queryFailed := by
  simp only [createPayment, admitted.known, admitted.role, admitted.valid, processPayment,
    admitted.found, admitted.own, admitted.unpaid, ne_eq, not_true_eq_false, if_false,
    if_true] at failed
  split at failed
  · cases failed
    rfl
  · cases failed

/-- A request for a payment of the order. -/
theorem Lives.answersPayment (lives : Lives parties orderId life db)
    (known : db.user? user.id = some user) (client : user.role = .client)
    (declared : Declared body) (valid : validPayment body = true)
    (of : body.readString "orderId" = some orderId) :
    LivesOn parties orderId life (.pay user.id)
      (paymentService.step db ⟨user.id, body, generated⟩).2
      (paymentService.step db ⟨user.id, body, generated⟩).1 := by
  obtain ⟨order, found, customer, place⟩ := lives.order
  simp only [paymentService]
  cases paid : createPayment db ⟨user.id, body, generated⟩ with
  | ok out =>
      obtain ⟨row, db'⟩ := out
      obtain ⟨order', payments, adds, rfl⟩ := payment_added known declared paid
      have found' := adds.found
      rw [of, Option.getD_some, found, Option.some.injEq] at found'
      subst found'
      have id : order.id = orderId := Table.key_of_find? found
      have mine : user.id = parties.customer := by
        have own := adds.own
        rw [customer, Option.some.injEq] at own
        exact own.symm
      have unpaid : life.paid = false := by
        rw [← Bool.not_eq_true, lives.paid]
        rintro ⟨payment, mem, here⟩
        exact adds.unpaid payment mem (by rw [here, adds.ofOrder, id])
      refine ⟨{ life with paid := true }, if_pos ⟨mine, unpaid⟩, ?_⟩
      refine ⟨lives.order, lives.owner, ?_, lives.reviewed⟩
      simpa [paid_behind adds] using Or.inl id
  | error e =>
      refine ⟨lives, fun http => ?_⟩
      by_contra allowed
      obtain ⟨mine, unpaid⟩ := Option.isSome_ite.mp (Option.isSome_iff_ne_none.mpr allowed)
      have none : db.paymentOf? orderId = none := by
        rw [Db.paymentOf?, List.find?_eq_none]
        intro payment mem here
        simp only [Bool.and_eq_true, decide_eq_true_eq] at here
        rw [lives.paid.mpr ⟨payment, mem, here.2⟩] at unpaid
        cases unpaid
      have id : order.id = orderId := Table.key_of_find? found
      have admitted : Admitted db ⟨user.id, body, generated⟩ user order :=
        ⟨known, client, valid, by rw [of, Option.getD_some, found], by rw [customer, mine],
          by rw [id, none]⟩
      rw [createPayment_failed admitted paid] at http
      cases http

/-- Payments of other orders. -/
theorem Lives.otherPayment (lives : Lives parties orderId life db)
    (known : db.user? user.id = some user) (declared : Declared body)
    (other : ¬ (validPayment body = true ∧ body.readString "orderId" = some orderId)) :
    Lives parties orderId life (paymentService.step db ⟨user.id, body, generated⟩).1 := by
  simp only [paymentService]
  cases paid : createPayment db ⟨user.id, body, generated⟩ with
  | error e => exact lives
  | ok out =>
      obtain ⟨row, db'⟩ := out
      have valid : validPayment body = true := by
        obtain ⟨_, _, admitted, -⟩ := createPayment_eq_ok.mp paid
        exact admitted.valid
      obtain ⟨order, payments, adds, rfl⟩ := payment_added known declared paid
      refine lives.transfer rfl (keepsOwners_of_same rfl) ?_ Iff.rfl
      rw [paid_behind adds, or_iff_right]
      rintro rfl
      apply other
      simp only [validPayment, Bool.and_eq_true] at valid
      obtain ⟨id, read⟩ := Option.isSome_iff_exists.mp valid.2
      have here := Table.key_of_find? adds.found
      rw [read, Option.getD_some] at here
      simp [validPayment, valid.1, read, here]

end Payment

section Review

variable {parties : Parties} {orderId : String} {life : OrderLife} {db db' : Db}
  {user : UserRow} {body : Fields} {env : CatalogueEnv}

/-- Whether the order is reviewed, behind a review. -/
theorem reviewed_behind {row : ReviewRow} {order : OrderRow}
    {reviews : Table String ReviewRow ReviewRow.id}
    (adds : AddsReview db user body row order reviews) :
    (∃ review ∈ reviews.rows, review.orderId = some orderId) ↔
      order.id = orderId ∨ ∃ review ∈ db.reviews.rows, review.orderId = some orderId := by
  rw [(Table.insert_eq_some adds.inserted).2]
  simp [adds.ofOrder, or_comm]

/-- A review that the life allows fails with the database only. -/
theorem createReview_failed {e : ApiError} (sound : Sound db)
    (lives : Lives parties orderId life db) (of : body.readString "orderId" = some orderId)
    (allowed : (life.next parties
      (.review user.id ((body.readString "restaurantId").getD ""))).isSome)
    (failed : createReview db user body env = .error e) : e.isHttp = false := by
  obtain ⟨mine, place, delivered, unreviewed⟩ := Option.isSome_ite.mp allowed
  obtain ⟨order, found, customer, restaurantId, status, -⟩ := lives.order
  obtain ⟨restaurant, stored, -⟩ := lives.owner
  have id : order.id = orderId := Table.key_of_find? found
  have own : OwnOrder db user body order :=
    ⟨by rw [of, Option.getD_some, found], by rw [customer, mine]⟩
  have loaded : order.restaurantId.bind db.restaurant? = some restaurant := by
    rw [restaurantId, Option.bind_some, sound.restaurant? stored]
  have none : db.reviewOf? order.id = none := by
    rw [Db.reviewOf?, List.find?_eq_none]
    intro review mem here
    simp only [Bool.and_eq_true, decide_eq_true_eq] at here
    rw [lives.reviewed.mpr ⟨review, mem, by rw [here.2, id]⟩] at unreviewed
    cases unreviewed
  have reviewable : Reviewable db user body order restaurant :=
    ⟨own, loaded, (Table.key_of_find? stored).trans place.symm, by rw [status, delivered], none⟩
  rcases reviewToCreate_own own loaded with ⟨_, -, -, no⟩ | ⟨-, passed⟩
  · exact absurd reviewable no
  · simp only [createReview, operation, passed] at failed
    split at failed
    · cases failed
      rfl
    · cases failed

/-- A request for a review of the order. -/
theorem Lives.answersReview (sound : Sound db) (lives : Lives parties orderId life db)
    (known : db.user? user.id = some user) (client : user.role = .client)
    (valid : validCreateReview body = true) (of : body.readString "orderId" = some orderId) :
    LivesOn parties orderId life (.review user.id ((body.readString "restaurantId").getD ""))
      (reviewService.step db ⟨user.id, .createReview body, env⟩).2
      (reviewService.step db ⟨user.id, .createReview body, env⟩).1 := by
  have admitted : admitReview db ⟨user.id, .createReview body, env⟩ = .ok user := by
    simp [admitReview, known, client, ReviewRequest.valid, valid]
  obtain ⟨order, found, customer, place, status, -⟩ := lives.order
  simp only [reviewService, admitted, handleReview]
  cases created : createReview db user body env with
  | ok out =>
      obtain ⟨row, db'⟩ := out
      obtain ⟨order', reviews, adds, rfl⟩ := review_added created
      have found' := adds.found
      rw [of, Option.getD_some, found, Option.some.injEq] at found'
      subst found'
      have id : order.id = orderId := Table.key_of_find? found
      have mine : user.id = parties.customer := by
        have own := adds.own
        rw [customer, Option.some.injEq] at own
        exact own.symm
      have named : (body.readString "restaurantId").getD "" = parties.restaurantId := by
        have named := adds.named
        rw [place, Option.some.injEq] at named
        exact named.symm
      have unreviewed : life.reviewed = false := by
        rw [← Bool.not_eq_true, lives.reviewed]
        rintro ⟨review, mem, here⟩
        exact adds.unreviewed review mem (by rw [here, adds.ofOrder, id])
      refine ⟨{ life with reviewed := true },
        if_pos ⟨mine, named, status.symm.trans adds.delivered, unreviewed⟩, ?_⟩
      exact ⟨lives.order, lives.owner, lives.paid,
        iff_of_true rfl ((reviewed_behind adds).mpr (.inl id))⟩
  | error e =>
      refine ⟨lives, fun http => ?_⟩
      by_contra allowed
      rw [createReview_failed sound lives of (Option.isSome_iff_ne_none.mpr allowed) created]
        at http
      cases http

theorem readString_of_isId {name : String} (valid : required body (name, isId) = true) :
    ∃ id, body.readString name = some id := by
  obtain ⟨value, read, text⟩ := (Option.any_eq_true _ _).mp valid
  cases value with
  | str id => exact ⟨id, Fields.readString_eq_some.mpr read⟩
  | _ => simp [isId] at text

/-- Reviews of other orders, and changes of reviews. -/
theorem Lives.otherReview {request : ReviewRequest} (lives : Lives parties orderId life db)
    (known : db.user? user.id = some user) (declared : request.Declared)
    (other : ∀ body, request = .createReview body →
      ¬ (validCreateReview body = true ∧ body.readString "orderId" = some orderId)) :
    Lives parties orderId life (reviewService.step db ⟨user.id, request, env⟩).1 := by
  generalize step : reviewService.step db ⟨user.id, request, env⟩ = out
  have effect := review_effect known declared (step : _ = (out.1, out.2))
  clear step
  generalize out.1 = db' at effect ⊢
  cases effect with
  | none => exact lives
  | @added body row order reviews role valid adds =>
      refine lives.transfer rfl (keepsOwners_of_same rfl) Iff.rfl ?_
      rw [reviewed_behind adds, or_iff_right]
      rintro rfl
      refine other body rfl ⟨valid, ?_⟩
      simp only [validCreateReview, List.cons_append, List.all_cons, Bool.and_eq_true] at valid
      obtain ⟨id, read⟩ := readString_of_isId valid.1.1
      have here := Table.key_of_find? adds.found
      rw [read, Option.getD_some] at here
      rw [read, here]
  | @changed _ old row reviews role stored author same puts =>
      refine lives.transfer rfl (keepsOwners_of_same rfl) Iff.rfl ?_
      constructor
      · rintro ⟨review, mem, here⟩
        rcases puts.mem.mp mem with rfl | ⟨mem, -⟩
        · exact ⟨old, stored, same.order.symm.trans here⟩
        · exact ⟨review, mem, here⟩
      · rintro ⟨review, mem, here⟩
        by_cases changed : review.id = row.id
        · refine ⟨row, puts.mem.mpr (.inl rfl), ?_⟩
          rw [db.reviews.eq_of_key_eq mem stored (changed.trans same.id)] at here
          rw [same.order, here]
        · exact ⟨review, puts.mem.mpr (.inr ⟨mem, changed⟩), here⟩

end Review

/-! ### Everything else -/

section Rest

variable {parties : Parties} {orderId : String} {life : OrderLife} {db db' : Db} {user : UserRow}

/-- A catalogue request is beside orders, payments and reviews. -/
theorem catalogue_beside {call : CatalogueCall} {output : Except ApiError CatalogueAnswer}
    (step : catalogue.step db call = (db', output)) :
    db'.orders = db.orders ∧ db'.payments = db.payments ∧ db'.reviews = db.reviews := by
  simp only [catalogue] at step
  split at step
  · cases step
    exact ⟨rfl, rfl, rfl⟩
  · split at step
    · cases step
      exact ⟨rfl, rfl, rfl⟩
    · rename_i handled
      cases step
      cases handleCatalogue_effect handled with
      | restaurant saves saved =>
          obtain ⟨_, _, rfl, -⟩ := saveRestaurant_eq_some saved
          exact ⟨rfl, rfl, rfl⟩
      | dish saves saved =>
          obtain ⟨_, -, same⟩ := Option.map_eq_some_iff.mp saved
          cases same
          exact ⟨rfl, rfl, rfl⟩
      | softDelete mem own deleted =>
          rw [deleted]
          exact ⟨rfl, rfl, rfl⟩

theorem Lives.besideCatalogue {request : CatalogueRequest} {env : CatalogueEnv}
    {output : Except ApiError CatalogueAnswer} (lives : Lives parties orderId life db)
    (known : db.user? user.id = some user) (declared : request.Declared)
    (step : catalogue.step db ⟨user.id, request, env⟩ = (db', output)) :
    Lives parties orderId life db' := by
  obtain ⟨orders, payments, reviews⟩ := catalogue_beside step
  refine lives.transfer (by rw [orders]) (.of_write (write_of_catalogue known declared step)) ?_ ?_
  · rw [payments]
  · rw [reviews]

theorem Lives.account {actor : Option String} (lives : Lives parties orderId life db)
    (write : AccountWrite db actor db') : Lives parties orderId life db' := by
  cases write <;> exact lives.idle rfl rfl rfl rfl

/-- The cleanup job, if it keeps the order. -/
theorem Lives.cron {dayBefore : Time → Time} {now : Time} (sound : Sound db)
    (lives : Lives parties orderId life db) (deleted : handleCron dayBefore now db = .ok db')
    (kept : (db'.orders.find? orderId).isSome) : Lives parties orderId life db' := by
  obtain ⟨-, -, restaurants, -, payments⟩ := deleteOrders_static deleted
  have stays := deleteOrders_find? deleted orderId
  obtain ⟨order, found, -⟩ := lives.order
  rw [found, Option.filter_some] at stays
  refine lives.transfer ?_ (keepsOwners_of_same restaurants) ?_ ?_
  · split at stays
    · rw [stays, found]
    · rw [stays] at kept
      cases kept
  · rw [payments]
  · rw [sound.cron_reviews deleted]

/-- The cleanup job ends the life of an order that is pending and not paid for. -/
theorem Lives.ends {dayBefore : Time → Time} {now : Time}
    (lives : Lives parties orderId life db) (deleted : handleCron dayBefore now db = .ok db')
    (gone : db'.orders.find? orderId = none) : life.status = .pending ∧ life.paid = false := by
  obtain ⟨order, found, -, -, status, -⟩ := lives.order
  have stale : Stale dayBefore now order = true := by
    have stays := deleteOrders_find? deleted orderId
    rw [gone, found, Option.filter_some] at stays
    split at stays
    · cases stays
    · rename_i stale
      simpa using stale
  refine ⟨status.symm.trans (stale_iff.mp stale).1, ?_⟩
  rw [← Bool.not_eq_true, lives.paid]
  rintro ⟨payment, mem, here⟩
  unfold handleCron deleteOrders at deleted
  split at deleted
  · cases deleted
  · rename_i unreferred
    exact unreferred ⟨payment, mem, order, Table.mem_of_find? found, stale,
      (Table.key_of_find? found).trans here.symm⟩

end Rest

/-! ### One step -/

section Step

variable {deployment : Deployment} {parties : Parties} {orderId : String} {life : OrderLife}
  {e : ServerEvent}

/-- The request about the order is answered as the life decides. -/
theorem Lives.answers {s : ServerState} {user : UserRow} {authHeader : Option String} {now : Time}
    {request : MemberRequest} {asked : LifeRequest} (sound : Sound s.db)
    (lives : Lives parties orderId life s.db)
    (admitted : admitMember deployment s now authHeader request = .ok user)
    (declared : (ServerCall.member now authHeader request).Declared)
    (about : request.about orderId user = some asked) :
    LivesOn parties orderId life asked (serveMember deployment s user authHeader request).2.result
      (serveMember deployment s user authHeader request).1.db := by
  obtain ⟨known, role, -⟩ := admitMember_eq_ok admitted
  cases request with
  | editOrderStatus id status faults =>
      obtain ⟨rfl, same⟩ := Option.ite_none_right_eq_some.mp about
      cases same
      exact (lives.answersEdit sound known).map ServerAnswer.order
  | createPayment body generated =>
      obtain ⟨⟨valid, of⟩, same⟩ := Option.ite_none_right_eq_some.mp about
      cases same
      have client := rolesGuard_client.mp role
      exact (lives.answersPayment known client declared valid of).map ServerAnswer.payment
  | review request env =>
      cases request with
      | createReview body =>
          obtain ⟨⟨valid, of⟩, same⟩ := Option.ite_none_right_eq_some.mp about
          cases same
          have client := rolesGuard_client.mp role
          exact (lives.answersReview sound known client valid of).map ServerAnswer.review
      | updateReview | deleteReview => cases about
  | signOut | updateUser | getUser | createCategory | catalogue | createOrder => cases about

/-- No other request of a member changes the life. -/
theorem Lives.others {s : ServerState} {user : UserRow} {authHeader : Option String} {now : Time}
    {request : MemberRequest} (sound : Sound s.db) (lives : Lives parties orderId life s.db)
    (admitted : admitMember deployment s now authHeader request = .ok user)
    (declared : (ServerCall.member now authHeader request).Declared)
    (beside : request.about orderId user = none) :
    Lives parties orderId life (serveMember deployment s user authHeader request).1.db := by
  obtain ⟨known, -⟩ := admitMember_eq_ok admitted
  cases request with
  | signOut time => exact lives
  | updateUser dto env => exact lives.account (updateProfile_write ⟨s.db, s.redis⟩ user.id dto env)
  | getUser userId env =>
      simp only [serveMember]
      split <;> exact lives
  | createCategory call => exact lives.idle rfl rfl rfl rfl
  | catalogue request env => exact lives.besideCatalogue known declared rfl
  | createOrder dto env => exact lives.otherOrder sound (by simp)
  | editOrderStatus id status faults =>
      refine lives.otherOrder sound fun userId status' faults' same => ?_
      cases same
      simp [MemberRequest.about] at beside
  | createPayment body generated =>
      refine lives.otherPayment known declared fun about => ?_
      rw [MemberRequest.about, if_pos about] at beside
      cases beside
  | review request env =>
      refine lives.otherReview known declared ?_
      rintro body rfl about
      rw [MemberRequest.about, if_pos about] at beside
      cases beside

/-- What an event is to the life: a request about it, something beside it, or its end. -/
inductive LifeStep (deployment : Deployment) (parties : Parties) (orderId : String)
    (life : OrderLife) (e : ServerEvent) : Prop
  | asked {request} (asks : asks deployment orderId e = some request)
      (on : LivesOn parties orderId life request e.output.result e.after.db)
  | beside (asks : asks deployment orderId e = none) (lives : Lives parties orderId life e.after.db)
  | ended {now} (job : e.input = .cron now) (gone : e.after.db.orders.find? orderId = none)
      (pending : life.status = .pending) (unpaid : life.paid = false)

theorem Lives.step (step : (server deployment).step e.before e.input = (e.after, e.output))
    (declared : e.input.Declared) (sound : ServerSound e.before)
    (lives : Lives parties orderId life e.before.db) :
    LifeStep deployment parties orderId life e := by
  obtain ⟨s, call, reply, s'⟩ := e
  change (server deployment).step s call = (s', reply) at step
  cases call with
  | signUp body env =>
      cases step
      exact .beside rfl (lives.account (signUp_write s.redis declared))
  | verifyEmail token env =>
      cases step
      exact .beside rfl (lives.account (verifyEmail_write ⟨s.db, s.redis⟩ token env))
  | signIn email password clock =>
      cases step
      exact .beside rfl lives
  | refresh guarded clock cookie =>
      cases step
      exact .beside rfl lives
  | member now authHeader request =>
      simp only [server] at step
      split at step
      · rename_i refused
        cases step
        exact .beside (by simp only [asks, refused]) lives
      · rename_i user admitted
        have same : asks deployment orderId ⟨s, .member now authHeader request, reply, s'⟩ =
            request.about orderId user := by
          simp only [asks, admitted]
        cases about : request.about orderId user with
        | none =>
            refine .beside (same.trans about) ?_
            have others := lives.others sound.db admitted declared about
            rwa [step] at others
        | some asked =>
            refine .asked (same.trans about) ?_
            have answers := lives.answers sound.db admitted declared about
            rwa [step] at answers
  | cron now =>
      simp only [server] at step
      split at step
      · cases step
        exact .beside rfl lives
      · rename_i db deleted
        cases step
        cases kept : db.orders.find? orderId with
        | none =>
            obtain ⟨pending, unpaid⟩ := lives.ends deleted kept
            exact .ended rfl kept pending unpaid
        | some order => exact .beside rfl (lives.cron sound.db deleted (by rw [kept]; rfl))

/-- The life behind the event. -/
theorem LifeStep.lives (step : LifeStep deployment parties orderId life e)
    (there : (e.after.db.orders.find? orderId).isSome) :
    Lives parties orderId (life.behind deployment parties orderId e) e.after.db := by
  cases step with
  | asked asks on =>
      unfold OrderLife.behind
      cases result : e.output.result with
      | ok answer =>
          rw [result] at on
          obtain ⟨after, next, lives⟩ := on
          simpa only [asks, next, Option.getD_some] using lives
      | error error =>
          rw [result] at on
          simpa only [asks] using on.1
  | beside asks lives => simpa only [OrderLife.behind, asks] using lives
  | ended job gone =>
      rw [gone] at there
      cases there

theorem LifeStep.decides {request : LifeRequest}
    (step : LifeStep deployment parties orderId life e)
    (asking : CoupangEats.asks deployment orderId e = some request) :
    Decides parties life request e.output.result := by
  cases step with
  | asked asks on =>
      rw [asks, Option.some.injEq] at asking
      subst asking
      unfold Decides
      unfold LivesOn at on
      split
      · rename_i accepted
        rw [accepted] at on
        obtain ⟨after, next, -⟩ := on
        rw [next]
        rfl
      · rename_i refused
        rw [refused] at on
        exact on.2
  | beside asks =>
      rw [asks] at asking
      cases asking
  | ended job =>
      rw [CoupangEats.asks, job] at asking
      cases asking

/-- Only the cleanup job ends a life. -/
theorem LifeStep.ends (step : LifeStep deployment parties orderId life e)
    (gone : e.after.db.orders.find? orderId = none) :
    (∃ now, e.input = .cron now) ∧ life.status = .pending ∧ life.paid = false := by
  have there {after : OrderLife} (lives : Lives parties orderId after e.after.db) : False := by
    obtain ⟨order, found, -⟩ := lives.order
    rw [gone] at found
    cases found
  cases step with
  | asked asks on =>
      unfold LivesOn at on
      split at on
      · obtain ⟨_, -, lives⟩ := on
        exact (there lives).elim
      · exact (there on.1).elim
  | beside asks lives => exact (there lives).elim
  | ended job _ pending unpaid => exact ⟨⟨_, job⟩, pending, unpaid⟩

end Step

/-! ### The whole life -/

section Life

variable {deployment : Deployment}

/-- A new order lives: nobody has paid for it or reviewed it. -/
theorem lives_created {db db' : Db} {customer : UserRow} {dto : CreateOrderDto}
    {env : CreateOrderEnv} {order : NewOrder} (sound : Sound db)
    (assembled : assembleOrder db customer dto = .ok order)
    (saved : saveNewOrder db env order = some db') :
    ∃ restaurant, db.restaurant? dto.restaurantId = some restaurant ∧
      Lives ⟨customer.id, dto.restaurantId, restaurant.ownerId⟩ env.orderId .placed db' := by
  obtain ⟨restaurant, made, found, -, rfl⟩ := assembleOrder_eq_ok.mp assembled
  obtain ⟨total, orders, orderItems, rfl, inserted, -⟩ := saveNewOrder_eq_some saved
  have new : db.orders.find? env.orderId = none := (Table.insert_eq_some inserted).1
  have id := Db.restaurant?_id found
  refine ⟨restaurant, found, ?_, ⟨restaurant, ?_, rfl⟩, ?_, ?_⟩
  · exact ⟨_, (Table.puts_insert inserted).stored, rfl, congrArg some id, rfl, rfl⟩
  · exact (Db.restaurant?_eq_some.mp found).1
  · refine iff_of_false (by simp [OrderLife.placed]) ?_
    rintro ⟨payment, mem, here⟩
    obtain ⟨order, stored, -⟩ := sound.payments payment mem env.orderId (congrArg some here)
    rw [new] at stored
    cases stored
  · refine iff_of_false (by simp [OrderLife.placed]) ?_
    rintro ⟨review, mem, here⟩
    obtain ⟨order, stored, -⟩ := sound.reviews review mem env.orderId here
    rw [new] at stored
    cases stored

/-- The parties of an order: who places it, and the owner of the restaurant that it names. -/
structure Engages (deployment : Deployment) (e : ServerEvent) (dto : CreateOrderDto)
    (parties : Parties) : Prop where
  customer : ∃ user, actor deployment e.before e.input = some user ∧ user.id = parties.customer
  place : dto.restaurantId = parties.restaurantId
  owner : ∃ restaurant, e.before.db.restaurant? dto.restaurantId = some restaurant ∧
    restaurant.ownerId = parties.owner

/-- An accepted order is placed. -/
theorem lives_placed {e : ServerEvent} {now : Time} {authHeader : Option String}
    {dto : CreateOrderDto} {env : CreateOrderEnv} {answer : ServerAnswer}
    (step : (server deployment).step e.before e.input = (e.after, e.output))
    (sound : ServerSound e.before)
    (placed : e.input = .member now authHeader (.createOrder dto env))
    (accepted : e.output.result = .ok answer) :
    ∃ parties, Engages deployment e dto parties ∧
      Lives parties env.orderId .placed e.after.db := by
  obtain ⟨s, call, reply, s'⟩ := e
  change (server deployment).step s call = (s', reply) at step
  cases placed
  simp only [server] at step
  split at step
  · cases step
    cases accepted
  · rename_i user admitted
    cases step
    obtain ⟨known, -⟩ := admitMember_eq_ok admitted
    have effect := orderStep_effect s.db (.createOrder user.id dto env)
    obtain ⟨created, result, -⟩ := map_eq_ok accepted
    rw [show (orderStep s.db (.createOrder user.id dto env)).2.result = _ from result] at effect
    generalize after : (orderStep s.db (.createOrder user.id dto env)).1 = db' at effect
    cases effect with
    | created known' assembled saved =>
        rw [known, Option.some.injEq] at known'
        subst known'
        obtain ⟨restaurant, found, lives⟩ := lives_created sound.db assembled saved
        exact ⟨_, ⟨⟨user, actor_of_admitted admitted, rfl⟩, rfl, ⟨restaurant, found, rfl⟩⟩,
          after ▸ lives⟩

/-- Every order of a sound store is in some life. -/
theorem Sound.lives {db : Db} {orderId : String} {order : OrderRow} (sound : Sound db)
    (stored : db.orders.find? orderId = some order) :
    ∃ parties life, Lives parties orderId life db ∧
      order.customerId = some parties.customer ∧
      order.restaurantId = some parties.restaurantId := by
  have mem := Table.mem_of_find? stored
  obtain ⟨customer, place⟩ := sound.complete order mem
  obtain ⟨customer, ordered⟩ := Option.isSome_iff_exists.mp customer
  obtain ⟨place, located⟩ := Option.isSome_iff_exists.mp place
  obtain ⟨restaurant, found, -⟩ := sound.places order mem place located
  refine ⟨⟨customer, place, restaurant.ownerId⟩,
    ⟨order.status, order.driverId, db.payments.rows.any fun payment => payment.orderId = orderId,
      db.reviews.rows.any fun review => review.orderId = some orderId⟩,
    ⟨⟨order, stored, ordered, located, rfl, rfl⟩, ⟨restaurant, found, rfl⟩, ?_, ?_⟩,
    ordered, located⟩
  · simp
  · simp

/-- An order is underway in the store when its life is. -/
theorem Lives.underway_iff {parties : Parties} {orderId : String} {life : OrderLife} {db : Db}
    {order : OrderRow} (lives : Lives parties orderId life db)
    (stored : db.orders.find? orderId = some order) :
    life.Underway ↔
      order.status ≠ .pending ∨ ∃ payment ∈ db.payments.rows, payment.orderId = orderId := by
  obtain ⟨row, found, -, -, status, -⟩ := lives.order
  rw [stored, Option.some.injEq] at found
  rw [OrderLife.Underway, found, status, lives.paid]

/-- An order that is underway lives on, and stays underway. -/
theorem LifeStep.underway {parties : Parties} {orderId : String} {life : OrderLife}
    {e : ServerEvent} (step : LifeStep deployment parties orderId life e)
    (underway : life.Underway) :
    ∃ after : OrderLife, after.Underway ∧ Lives parties orderId after e.after.db := by
  cases step with
  | asked asks on =>
      unfold LivesOn at on
      split at on
      · obtain ⟨after, next, lives⟩ := on
        exact ⟨after, OrderLife.next_underway underway next, lives⟩
      · exact ⟨life, underway, on.1⟩
  | beside asks lives => exact ⟨life, underway, lives⟩
  | ended job gone pending unpaid =>
      rcases underway with started | paid
      · exact absurd pending started
      · rw [unpaid] at paid
        cases paid

/-- An order that has been started or paid for is there for good, of the same customer and
restaurant. -/
theorem order_stays {s : ServerState} {calls : List ServerCall} {first rest : List ServerEvent}
    {e : ServerEvent} {orderId : String} {order : OrderRow} (start : ServerSound s)
    (declared : ∀ call ∈ calls, call.Declared)
    (split : (server deployment).history s calls = first ++ e :: rest)
    (stored : e.after.db.orders.find? orderId = some order)
    (underway : order.status ≠ .pending ∨
      ∃ payment ∈ e.after.db.payments.rows, payment.orderId = orderId) :
    ∀ f ∈ rest, ∃ later, f.after.db.orders.find? orderId = some later ∧
      later.customerId = order.customerId ∧ later.restaurantId = order.restaurantId ∧
      (later.status ≠ .pending ∨
        ∃ payment ∈ f.after.db.payments.rows, payment.orderId = orderId) := by
  obtain ⟨-, -, -, sound⟩ := start.along declared e (by rw [split]; simp)
  obtain ⟨parties, life, lives, customer, place⟩ := sound.db.lives stored
  obtain ⟨_, late, inputs, -, -, later⟩ := Machine.history_split split
  intro f mem
  rw [later] at mem
  obtain ⟨-, after, alive, on⟩ := ((Machine.history_invariant
    (fun s => ServerSound s ∧ ∃ life : OrderLife, life.Underway ∧ Lives parties orderId life s.db)
    (fun e => e.input.Declared)
    (fun e taken declared ⟨sound, life, underway, lives⟩ =>
      ⟨sound.step taken declared, (lives.step taken declared sound).underway underway⟩)
    ⟨sound, life, (lives.underway_iff stored).mpr underway, lives⟩
    (fun e mem => declared _ (by simp [inputs, Machine.input_mem mem]))).2 f mem).2
  obtain ⟨row, found, customer', place', -⟩ := on.order
  exact ⟨row, found, customer'.trans customer.symm, place'.trans place.symm,
    (on.underway_iff found).mp alive⟩

end Life

/-! ### A lunch -/

def clientSignUp : SignUpBody :=
  ⟨[("email", .str "c@x.kr"), ("password", .str "passw0rd!"), ("name", .str "client"),
    ("role", .str "Client")], by decide +kernel⟩

def ordersLunch : ServerCall :=
  .member 0 (sampleHeader "client")
    (.createOrder ⟨"kimbap", []⟩ ⟨"lunch", fun _ => "item", 0, .none⟩)

def cooksLunch : ServerCall :=
  .member 0 (sampleHeader "owner") (.editOrderStatus "lunch" .cooking .none)

def paysLunch : ServerCall :=
  .member 0 (sampleHeader "client")
    (.createPayment [("transactionId", .str "1"), ("orderId", .str "lunch")] "payment")

/-- A client signs up, orders at the new restaurant and pays while its owner cooks, and the
cleanup job runs two days later. -/
def lunch : List ServerCall :=
  [.signUp clientSignUp ⟨"hash", "client", "token", 0, .none, false, false⟩, ordersLunch,
    cooksLunch, paysLunch, .cron 172800000]

theorem lunch_declared : ∀ call ∈ openingDay ++ lunch, call.Declared := by
  intro call mem
  rcases List.mem_append.mp mem with mem | mem
  · exact openingDay_declared call mem
  · simp only [lunch, List.mem_cons, List.not_mem_nil, or_false] at mem
    rcases mem with rfl | rfl | rfl | rfl | rfl
    · simp [ServerCall.Declared, SignUpBody.Declared, clientSignUp]
    · trivial
    · trivial
    · simp [ServerCall.Declared, paysLunch, Declared]
    · trivial

/-- The event of a call after the first ones of the lunch. -/
def lunchEvent (n : Nat) (call : ServerCall) : ServerEvent :=
  (server sampleDeployment).event
    ((server sampleDeployment).run .empty (openingDay ++ lunch.take n)) call

/-- The order survives the job. -/
theorem lunch_stays :
    ∃ order, (lunchEvent 4 (.cron 172800000)).after.db.orders.find? "lunch" = some order ∧
      order.customerId = some "client" := by
  have split : (server sampleDeployment).history .empty (openingDay ++ lunch) =
      (server sampleDeployment).history .empty (openingDay ++ lunch.take 2) ++
        lunchEvent 2 cooksLunch :: [lunchEvent 3 paysLunch, lunchEvent 4 (.cron 172800000)] := rfl
  have cooking : ((lunchEvent 2 cooksLunch).after.db.orders.find? "lunch").map
      (fun order => (order.status, order.customerId)) = some (.cooking, some "client") := by
    decide +kernel
  obtain ⟨order, stored, same⟩ := Option.map_eq_some_iff.mp cooking
  obtain ⟨status, customer⟩ := Prod.mk.inj same
  obtain ⟨later, found, same, -⟩ := order_stays serverSound_empty lunch_declared split stored
    (.inl (by simp [status])) (lunchEvent 4 (.cron 172800000)) (by simp)
  exact ⟨later, found, same.trans customer⟩

end CoupangEats
