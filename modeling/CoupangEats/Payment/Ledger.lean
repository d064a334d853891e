import CoupangEats.Order.Cleanup

/-!
What the payment table records.

A payment is saved as the whole request body with the user, the order and the
restaurant's id written over it. The body decides the rest: an `id` of its own
makes the save an update of that payment, whichever order the checks were about,
and a `restaurant` takes precedence over the restaurant's id. In a run whose
requests bring neither (`Harmless`), every payment is of its order's customer and
restaurant and is never changed (`payments_recorded`).
-/

namespace CoupangEats

open CoupangEats.Base

/-- The payment is of its order's customer and of its order's restaurant. -/
def Matches (db : Db) (payment : PaymentRow) : Prop :=
  ∃ order, db.orders.find? payment.orderId = some order ∧
    order.customerId = some payment.userId ∧ order.restaurantId = some payment.restaurantId

/-- All payments of a run match their orders, and none is ever changed or
removed. -/
structure Recorded (history : List (Event Db PaymentCall (Except ApiError PaymentRow))) :
    Prop where
  fits : ∀ e ∈ history, ∀ payment ∈ e.after.payments.rows, Matches e.after payment
  kept : ∀ e ∈ history, ∀ payment ∈ e.before.payments.rows, payment ∈ e.after.payments.rows

/-- The request passes the checks: the caller is a client and the order's
customer, and the order has no payment. -/
structure Admitted (db : Db) (call : PaymentCall) (user : UserRow) (order : OrderRow) :
    Prop where
  known : db.user? call.userId = some user
  role : user.role = .client
  valid : validPayment call.body = true
  found : db.orders.find? ((call.body.readString "orderId").getD "") = some order
  own : order.customerId = some user.id
  unpaid : db.paymentOf? order.id = none

/-- The condition on a request and the store it meets: if it passes the checks,
its body does not bring the id of a stored payment, nor another restaurant than
the order's. -/
def Harmless (db : Db) (call : PaymentCall) : Prop :=
  ∀ user order, Admitted db call user order →
    (∀ payment ∈ db.payments.rows, call.body.read "id" ≠ some (.str payment.id)) ∧
      ∀ value id, call.body.read "restaurant" = some value →
        relationKey textColumn value = some id → order.restaurantId = some id

/-- A body with nothing but the fields that the request declares. -/
def Declared (body : Fields) : Prop :=
  ∀ entry ∈ body, entry.1 = "transactionId" ∨ entry.1 = "orderId"

instance (body : Fields) : Decidable (Declared body) :=
  inferInstanceAs (Decidable (∀ entry ∈ body, _))

/-- A declared body has no other property. -/
theorem Declared.read {body : Fields} (declared : Declared body) {name : String}
    (first : name ≠ "transactionId") (second : name ≠ "orderId") : body.read name = none := by
  apply Fields.read_eq_none
  intro entry mem same
  rcases declared entry mem with h | h
  · exact first (same.symm.trans h)
  · exact second (same.symm.trans h)

/-- Requests with declared bodies meet the condition in every store. -/
theorem harmless_of_declared {call : PaymentCall} (declared : Declared call.body) (db : Db) :
    Harmless db call := by
  intro user order _
  have id : call.body.read "id" = none := declared.read (by decide) (by decide)
  have restaurant : call.body.read "restaurant" = none := declared.read (by decide) (by decide)
  constructor
  · intro payment _ here
    rw [id] at here
    cases here
  · intro value _ here
    rw [restaurant] at here
    cases here

/-! ### One request -/

section Request

variable {db : Db} {call : PaymentCall}

/-- A request is accepted exactly when it passes the checks and its entity is
saved. -/
theorem createPayment_eq_ok {payment : PaymentRow} {db' : Db} :
    createPayment db call = .ok (payment, db') ↔
      ∃ user order, Admitted db call user order ∧
        ∃ payments, paymentMapping.save db.acceptsPayment call.generated db.payments
            (paymentEntity call.body user order) = some (payment, payments) ∧
          db' = { db with payments } := by
  constructor
  · intro accepted
    unfold createPayment at accepted
    split at accepted
    · cases accepted
    · rename_i user known
      split_ifs at accepted with role valid
      simp only [processPayment] at accepted
      split at accepted
      · cases accepted
      · rename_i order found
        split_ifs at accepted with own
        split at accepted
        · cases accepted
        · rename_i unpaid
          split at accepted
          · cases accepted
          · rename_i saved
            cases accepted
            exact ⟨user, order, ⟨known, not_not.mp role, valid, found, not_not.mp own, unpaid⟩,
              _, saved, rfl⟩
  · rintro ⟨user, order, ⟨known, role, valid, found, own, unpaid⟩, payments, saved, rfl⟩
    simp [createPayment, known, role, valid, processPayment, found, own, unpaid, saved]

/-- The columns of a payment's row, wherever it is written. -/
theorem paymentRow_columns {id : String} {base : Option PaymentRow} {body : Fields}
    {user : UserRow} {order : OrderRow} {payment : PaymentRow}
    (written : PaymentRow.write id base (paymentEntity body user order) = some payment) :
    payment.id = id ∧ payment.userId = user.id ∧ payment.orderId = order.id ∧
      match body.read "restaurant" with
      | none => order.restaurantId = some payment.restaurantId
      | some value => relationKey textColumn value = some payment.restaurantId := by
  simp only [PaymentRow.write, Option.bind_eq_bind, Option.bind_eq_some_iff, Option.pure_def,
    Option.some.injEq] at written
  obtain ⟨transactionId, -, userId, hUser, restaurantId, hRestaurant, orderId, hOrder, deletedAt,
    -, rfl⟩ := written
  refine ⟨rfl, ?_, ?_, ?_⟩
  · simpa [reference, paymentEntity, Fields.read_append, textColumn, eq_comm] using hUser
  · simpa [reference, paymentEntity, Fields.read_append, textColumn, eq_comm] using hOrder
  · have here : (paymentEntity body user order).read "restaurant" = body.read "restaurant" := by
      simp [paymentEntity, Fields.read_append]
    have own : (paymentEntity body user order).read "restaurantId" =
        some (orNull .str order.restaurantId) := by
      simp [paymentEntity, Fields.read_append]
    rw [reference_eq, here, column, own] at hRestaurant
    cases restaurant : body.read "restaurant" with
    | none =>
        rw [restaurant] at hRestaurant
        cases ofOrder : order.restaurantId with
        | none =>
            rw [ofOrder] at hRestaurant
            cases hRestaurant
        | some own =>
            rw [ofOrder] at hRestaurant
            exact hRestaurant
    | some value =>
        rw [restaurant] at hRestaurant
        exact hRestaurant

/-- A harmless request that is accepted adds one payment to the others, which
matches its order. -/
theorem createPayment_adds {payment : PaymentRow} {db' : Db} (harmless : Harmless db call)
    (accepted : createPayment db call = .ok (payment, db')) :
    db'.orders = db.orders ∧ db'.payments.rows = db.payments.rows ++ [payment] ∧
      Matches db payment := by
  obtain ⟨user, order, admitted, payments, saved, rfl⟩ := createPayment_eq_ok.mp accepted
  obtain ⟨ownId, restaurant⟩ := harmless user order admitted
  have id : (paymentEntity call.body user order).read "id" = call.body.read "id" := by
    simp [paymentEntity, Fields.read_append]
  rcases Mapping.save_cases saved with
    ⟨stored, -, found, named, -⟩ | ⟨⟨newId, written⟩, -, inserted⟩
  · exact absurd (id.symm.trans named) (ownId stored (Table.mem_of_find? found))
  · obtain ⟨-, payer, paid, columns⟩ := paymentRow_columns written
    refine ⟨rfl, (Table.insert_eq_some inserted).2, order, ?_, ?_, ?_⟩
    · rw [paid, Table.key_of_find? admitted.found]
      exact admitted.found
    · rw [payer]
      exact admitted.own
    · cases here : call.body.read "restaurant" with
      | none =>
          rw [here] at columns
          exact columns
      | some value =>
          rw [here] at columns
          exact restaurant value _ here columns

end Request

/-! ### Runs -/

theorem paymentService_cases {db db' : Db} {call : PaymentCall}
    {result : Except ApiError PaymentRow}
    (step : paymentService.step db call = (db', result)) :
    (∃ e, result = .error e ∧ db' = db) ∨
      ∃ payment, result = .ok payment ∧ createPayment db call = .ok (payment, db') := by
  simp only [paymentService] at step
  split at step
  · rename_i e _
    cases step
    exact .inl ⟨e, rfl, rfl⟩
  · rename_i payment after accepted
    cases step
    exact .inr ⟨payment, rfl, accepted⟩

/-- What a harmless request keeps. -/
theorem harmless_step {e : Event Db PaymentCall (Except ApiError PaymentRow)}
    (step : paymentService.step e.before e.input = (e.after, e.output))
    (harmless : Harmless e.before e.input)
    (fits : ∀ payment ∈ e.before.payments.rows, Matches e.before payment) :
    (∀ payment ∈ e.after.payments.rows, Matches e.after payment) ∧
      ∀ payment ∈ e.before.payments.rows, payment ∈ e.after.payments.rows := by
  rcases paymentService_cases step with ⟨_, -, same⟩ | ⟨new, -, accepted⟩
  · rw [same]
    exact ⟨fits, fun _ mem => mem⟩
  · obtain ⟨orders, rows, matched⟩ := createPayment_adds harmless accepted
    rw [rows]
    refine ⟨?_, fun payment mem => List.mem_append_left _ mem⟩
    intro payment mem
    unfold Matches
    rw [orders]
    rcases List.mem_append.mp mem with old | last
    · exact fits payment old
    · rw [List.mem_singleton.mp last]
      exact matched

/-- In a run of harmless requests every payment matches its order, and none is
ever changed. -/
theorem payments_recorded {db : Db} {calls : List PaymentCall}
    (start : ∀ payment ∈ db.payments.rows, Matches db payment)
    (harmless : ∀ e ∈ paymentService.history db calls, Harmless e.before e.input) :
    Recorded (paymentService.history db calls) := by
  have fits := (Machine.history_invariant (m := paymentService)
    (fun db => ∀ payment ∈ db.payments.rows, Matches db payment)
    (fun e => Harmless e.before e.input)
    (fun e step harmless fits => (harmless_step step harmless fits).1) start harmless).2
  constructor
  · exact fun e mem => (fits e mem).2
  · intro e mem
    exact (harmless_step (Machine.step_of_mem_history mem) (harmless e mem) (fits e mem).1).2

/-! ### A payment under the id of another -/

/-- The customer's second order. -/
def secondOrder : OrderCall :=
  .createOrder "customer" ⟨"pizza", [⟨"tuna", none⟩]⟩
    ⟨"order2", fun n => "item2" ++ toString n, 0, .none⟩

/-- The store with both orders. -/
def twoOrdersStore : Db := (orderService.step orderedStore secondOrder).1

/-- The payment of the second order, under an id that the customer chooses. -/
def paymentUnder (id : String) : PaymentCall :=
  ⟨"customer", [("transactionId", .str "imp_2"), ("orderId", .str "order2"), ("id", .str id)],
    "payment2"⟩

/-- Both orders are paid, each under an id of its own. -/
theorem own_ids_recorded :
    Recorded (paymentService.history twoOrdersStore [samplePayment, paymentUnder "payment2"]) := by
  have first : Harmless twoOrdersStore samplePayment := harmless_of_declared (by decide) _
  have second : Harmless (paymentService.run twoOrdersStore [samplePayment])
      (paymentUnder "payment2") := by
    intro user order _
    constructor
    · decide +kernel
    · intro value id here
      cases here
  apply payments_recorded
  · intro payment mem
    have none : twoOrdersStore.payments.rows = [] := by decide +kernel
    rw [none] at mem
    cases mem
  · intro e mem
    rcases List.mem_cons.mp mem with rfl | mem
    · exact first
    · rw [List.mem_singleton.mp mem]
      exact second

/-- Both orders are paid, the second one under the id of the first one's payment:
the first payment is gone. -/
theorem payment_overwritten :
    ¬ ∀ (db : Db) (calls : List PaymentCall), db.payments = .empty →
      Recorded (paymentService.history db calls) := by
  intro all
  have recorded := all twoOrdersStore [samplePayment, paymentUnder "payment"] (by decide +kernel)
  let first : PaymentRow := ⟨"payment", "imp_1", "customer", "kimbap", "order", none⟩
  have kept := recorded.kept (paymentService.event
    (paymentService.run twoOrdersStore [samplePayment]) (paymentUnder "payment"))
    (List.mem_cons_of_mem _ List.mem_cons_self) first (by decide +kernel)
  revert kept
  decide +kernel

end CoupangEats
