import CoupangEats.Order.Calls
import CoupangEats.Order.Cron

/-!
The driver of an order.

A `PickedUp` sets the driver and the status together, an owner may move the
status back to `Cooking` or `Cooked` and leaves the driver, and nothing moves an
order back to `Pending`. What the events so far say of the row of one order is
`Accounted`: each call restores it for every order, and so does the cleanup job,
which deletes only orders that no call has changed. The driver invariant of all
runs (`driver_invariant`) is read off it.
-/

namespace CoupangEats

open CoupangEats.Base

/-- The cleanup job as a machine on the store; the inputs are the times of its
runs. -/
def cleanupJob (dayBefore : Time → Time) : Machine Db Time (Except ApiError Unit) where
  step db now :=
    match handleCron dayBefore now db with
    | .error e => (db, .error e)
    | .ok db' => (db', .ok ())

/-- A call of the order service or a run of the job. -/
abbrev OrderEvent := Event Db (OrderCall ⊕ Time) (OrderReply ⊕ Except ApiError Unit)

/-- The event accepts a change of the order to `status` by `userId`. -/
def AcceptedChange (e : OrderEvent) (userId orderId : String) (status : OrderStatus) : Prop :=
  ∃ faults reply, e.input = .inl (.editOrderStatus userId orderId status faults) ∧
    e.output = .inl reply ∧ reply.Accepted

/-- The driver invariant of a store and the events that led to it. -/
structure DriverInvariant (past : List OrderEvent) (db : Db) : Prop where
  driven : ∀ row ∈ db.orders.rows, row.status = .pickedUp ∨ row.status = .delivered →
    ∃ driver, row.driverId = some driver.id ∧ db.user? driver.id = some driver ∧
      driver.role = .delivery ∧ ∃ e ∈ past, AcceptedChange e driver.id row.id .pickedUp
  pending : ∀ row ∈ db.orders.rows, row.status = .pending →
    row.driverId = none ∧ ∀ e ∈ past, ∀ userId status, ¬ AcceptedChange e userId row.id status

/-! ### The row of one order -/

/-- What the events so far say of the row of an order, if it is stored. -/
structure Accounted (past : List OrderEvent) (db : Db) (orderId : String)
    (stored : Option OrderRow) : Prop where
  changed : ∀ e ∈ past, ∀ userId status, AcceptedChange e userId orderId status →
    ∃ row, stored = some row ∧ row.status ≠ .pending
  pending : ∀ row, stored = some row → row.status = .pending → row.driverId = none
  driven : ∀ row, stored = some row → row.status = .pickedUp ∨ row.status = .delivered →
    row.driverId ≠ none
  driver : ∀ row, stored = some row → ∀ d, row.driverId = some d →
    (∃ user, db.user? d = some user ∧ user.role = .delivery) ∧
      ∃ e ∈ past, AcceptedChange e d orderId .pickedUp

/-- Every order is as the events so far say. -/
def AllAccounted (past : List OrderEvent) (db : Db) : Prop :=
  ∀ orderId, Accounted past db orderId (db.orders.find? orderId)

theorem AllAccounted.invariant {past : List OrderEvent} {db : Db}
    (accounted : AllAccounted past db) : DriverInvariant past db := by
  constructor
  · intro row mem status
    have here := Table.find?_of_mem mem
    obtain ⟨d, assigned⟩ :=
      Option.ne_none_iff_exists'.mp ((accounted row.id).driven row here status)
    obtain ⟨⟨driver, known, role⟩, pickedUp⟩ := (accounted row.id).driver row here d assigned
    have id := Db.user?_id known
    subst id
    exact ⟨driver, assigned, known, role, pickedUp⟩
  · intro row mem status
    have here := Table.find?_of_mem mem
    refine ⟨(accounted row.id).pending row here status, ?_⟩
    intro e past userId status' accepted
    obtain ⟨row', stored, moved⟩ := (accounted row.id).changed e past userId status' accepted
    rw [here, Option.some.injEq] at stored
    exact moved (stored ▸ status)

theorem Edit.ne_pending {user : UserRow} {order edited : LoadedOrder} {status : OrderStatus}
    (edit : Edit user order status edited) : status ≠ .pending := by
  cases edit with
  | owner _ _ _ status =>
      intro pending
      rw [pending] at status
      simp at status
  | pickedUp | delivered => simp

/-! ### One step -/

section Step

variable {past : List OrderEvent} {e : OrderEvent}

/-- An order call as an event of the order service alone. -/
theorem acceptedChange_iff {call : OrderCall} {reply : OrderReply} {userId orderId : String}
    {status : OrderStatus} (input : e.input = .inl call) (output : e.output = .inl reply) :
    AcceptedChange e userId orderId status ↔
      AcceptedEdit ⟨e.before, call, reply, e.after⟩ userId orderId status := by
  simp [AcceptedChange, AcceptedEdit, input, output]

/-- What the events so far say stays true of a row that a further event has not
changed. -/
theorem Accounted.same {orderId : String} {stored : Option OrderRow}
    (accounted : Accounted past e.before orderId stored) (users : e.after.user? = e.before.user?)
    (now : ∀ userId status, AcceptedChange e userId orderId status →
      ∃ row, stored = some row ∧ row.status ≠ .pending) :
    Accounted (past ++ [e]) e.after orderId stored where
  changed f mem userId status accepted := by
    rcases List.mem_append.mp mem with old | new
    · exact accounted.changed f old userId status accepted
    · rw [List.mem_singleton] at new
      exact now userId status (new ▸ accepted)
  pending := accounted.pending
  driven := accounted.driven
  driver row here d assigned := by
    obtain ⟨known, f, mem, pickedUp⟩ := accounted.driver row here d assigned
    rw [users]
    exact ⟨known, f, List.mem_append_left _ mem, pickedUp⟩

/-- An accepted status change leaves an accounted row. -/
theorem Accounted.edited {orderId : String} {user : UserRow} {order edited : LoadedOrder}
    {status : OrderStatus} (accounted : Accounted past e.before orderId (some order.row))
    (users : e.after.user? = e.before.user?) (accepted : AcceptedChange e user.id orderId status)
    (known : e.before.user? user.id = some user)
    (driver : order.driver.map UserRow.id = order.row.driverId)
    (edit : Edit user order status edited) :
    Accounted (past ++ [e]) e.after orderId (some (order.row.edited user.id status)) where
  changed _ _ _ _ _ := ⟨_, rfl, edit.ne_pending⟩
  pending := by
    rintro _ ⟨⟩ pending
    exact absurd pending edit.ne_pending
  driven := by
    rintro _ ⟨⟩ moved
    cases edit with
    | owner _ _ _ asked => rcases asked with rfl | rfl <;> simp [OrderRow.edited] at moved
    | pickedUp => simp [OrderRow.edited]
    | delivered _ own =>
        rw [driver] at own
        simp [OrderRow.edited, own]
  driver := by
    rintro _ ⟨⟩ d assigned
    by_cases picked : status = .pickedUp
    · -- The driver is the user of this very event.
      subst picked
      simp only [OrderRow.edited, if_true, Option.some.injEq] at assigned
      subst assigned
      rw [users]
      exact ⟨⟨user, known, edit.role_of_pickedUp⟩, e, by simp, accepted⟩
    · simp only [OrderRow.edited, picked, if_false] at assigned
      obtain ⟨known, f, mem, pickedUp⟩ := accounted.driver _ rfl d assigned
      rw [users]
      exact ⟨known, f, List.mem_append_left _ mem, pickedUp⟩

/-- A call of the order service keeps every order accounted for. -/
theorem AllAccounted.order {call : OrderCall} {reply : OrderReply} (linked : Linked e.before)
    (accounted : AllAccounted past e.before) (input : e.input = .inl call)
    (output : e.output = .inl reply) (step : orderService.step e.before call = (e.after, reply)) :
    AllAccounted (past ++ [e]) e.after := by
  intro orderId
  let f : Event Db OrderCall OrderReply := ⟨e.before, call, reply, e.after⟩
  have stepF : orderService.step f.before f.input = (f.after, f.output) := step
  have effect := (orderService_effect stepF).row linked orderId
  have users : e.after.user? = e.before.user? := by
    funext id
    rw [Db.user?, Db.user?, show e.after.users = _ from (orderService_effect stepF).static.1]
  -- The event itself, if it changes the order, leaves it edited.
  have now : ∀ userId status, AcceptedChange e userId orderId status →
      ∃ row, e.after.orders.find? orderId = some row ∧ row.status ≠ .pending := by
    intro userId status accepted
    rw [acceptedChange_iff input output] at accepted
    obtain ⟨-, user, order, edited, -, -, edit, stored⟩ := accepted.effect stepF linked
    exact ⟨_, stored, edit.ne_pending⟩
  have before := accounted orderId
  change RowEffect e.before call orderId _ (e.after.orders.find? orderId) at effect
  generalize e.before.orders.find? orderId = old at before effect
  generalize e.after.orders.find? orderId = new at now effect ⊢
  cases effect with
  | same => exact before.same users now
  | new status unassigned =>
      refine Accounted.same ⟨?_, ?_, ?_, ?_⟩ users now
      · intro f mem userId status accepted
        obtain ⟨_, none, -⟩ := before.changed f mem userId status accepted
        cases none
      · rintro _ ⟨⟩ _
        exact unassigned
      · rintro _ ⟨⟩ moved
        simp [status] at moved
      · rintro _ ⟨⟩ d assigned
        rw [unassigned] at assigned
        cases assigned
  | edited asked known loaded edit =>
      have id := Db.user?_id known
      have accepted := acceptedEdit_of_edit stepF asked known loaded edit
      rw [← id] at accepted known
      exact before.edited users ((acceptedChange_iff input output).mpr accepted) known
        (linked.driver_id loaded) edit

theorem cleanupJob_cases {dayBefore : Time → Time} {db db' : Db} {now : Time}
    {out : Except ApiError Unit} (step : (cleanupJob dayBefore).step db now = (db', out)) :
    db' = db ∨ deleteOrders db (Stale dayBefore now) = .ok db' := by
  simp only [cleanupJob] at step
  split at step
  · cases step
    exact .inl rfl
  · rename_i deleted
    cases step
    exact .inr deleted

/-- A run of the job keeps every order accounted for: what it deletes is `Pending`. -/
theorem AllAccounted.cleanup {dayBefore : Time → Time} {now : Time} {out : Except ApiError Unit}
    (accounted : AllAccounted past e.before) (input : e.input = .inr now)
    (step : (cleanupJob dayBefore).step e.before now = (e.after, out)) :
    AllAccounted (past ++ [e]) e.after := by
  intro orderId
  have unchanging : ∀ userId status, ¬ AcceptedChange e userId orderId status := by
    rintro userId status ⟨faults, reply, asked, -, -⟩
    rw [input] at asked
    cases asked
  have before := accounted orderId
  rcases cleanupJob_cases step with same | deleted
  · have users : e.after.user? = e.before.user? := by rw [same]
    rw [show e.after.orders = e.before.orders by rw [same]]
    exact before.same users fun _ _ accepted => absurd accepted (unchanging _ _)
  · have users : e.after.user? = e.before.user? := by
      funext id
      rw [Db.user?, Db.user?, (deleteOrders_static deleted).1]
    rw [deleteOrders_find? deleted]
    have stored {row : OrderRow} (kept : (e.before.orders.find? orderId).filter
        (fun order => !Stale dayBefore now order) = some row) :
        e.before.orders.find? orderId = some row := (Option.filter_eq_some_iff.mp kept).1
    refine Accounted.same ⟨?_, ?_, ?_, ?_⟩ users fun _ _ accepted =>
      absurd accepted (unchanging _ _)
    · intro f mem userId status accepted
      obtain ⟨row, here, moved⟩ := before.changed f mem userId status accepted
      exact ⟨row, by simp [here, Stale, moved], moved⟩
    · intro row kept
      exact before.pending row (stored kept)
    · intro row kept
      exact before.driven row (stored kept)
    · intro row kept
      exact before.driver row (stored kept)

theorem Linked.cleanup {dayBefore : Time → Time} {db db' : Db} {now : Time}
    {out : Except ApiError Unit} (linked : Linked db)
    (step : (cleanupJob dayBefore).step db now = (db', out)) : Linked db' := by
  rcases cleanupJob_cases step with rfl | deleted
  · exact linked
  · obtain ⟨users, -, restaurants, -, -⟩ := deleteOrders_static deleted
    have old {row : OrderRow} (mem : row ∈ db'.orders.rows) : row ∈ db.orders.rows := by
      rw [deleteOrders_orders deleted, Table.mem_filter] at mem
      exact mem.1
    constructor
    · intro row mem d assigned
      rw [Db.user?, users]
      exact linked.driver row (old mem) d assigned
    · intro row mem r placed
      rw [Db.restaurant?, restaurants]
      exact linked.restaurant row (old mem) r placed

/-- One step of either keeps a linked store linked and its orders accounted for. -/
theorem accounted_step {dayBefore : Time → Time}
    (step : (orderService.both (cleanupJob dayBefore)).step e.before e.input =
      (e.after, e.output))
    (inv : Linked e.before ∧ AllAccounted past e.before) :
    Linked e.after ∧ AllAccounted (past ++ [e]) e.after := by
  obtain ⟨linked, accounted⟩ := inv
  rcases Machine.step_both step with ⟨call, reply, input, output, step⟩ |
    ⟨now, out, input, -, step⟩
  · have effect := orderService_effect (e := ⟨e.before, call, reply, e.after⟩) step
    exact ⟨effect.linked linked, accounted.order linked input output step⟩
  · exact ⟨linked.cleanup step, accounted.cleanup input step⟩

end Step

/-! ### Runs -/

/-- In every state that calls of the order service and runs of the cleanup job
reach from a store without orders, an order that is `PickedUp` or `Delivered` has
a driver, who is a delivery user and had a `PickedUp` accepted for it; an order
that is `Pending` has none, and no status change of it was ever accepted. -/
theorem driver_invariant (dayBefore : Time → Time) {db : Db} (calls : List (OrderCall ⊕ Time))
    (fresh : db.orders = .empty) :
    DriverInvariant ((orderService.both (cleanupJob dayBefore)).history db calls)
      ((orderService.both (cleanupJob dayBefore)).run db calls) := by
  have start : Linked db ∧ AllAccounted [] db := by
    refine ⟨linked_of_no_orders fresh, fun orderId => ?_⟩
    rw [fresh, Table.find?_empty]
    constructor <;> simp
  let m := orderService.both (cleanupJob dayBefore)
  have inv : Linked (m.run db calls) ∧ AllAccounted (m.history db calls) (m.run db calls) :=
    (Machine.history_past (fun past db => Linked db ∧ AllAccounted past db) (fun _ => True)
      (fun _ _ step _ inv => accounted_step step inv) start fun _ _ => trivial).1
  exact inv.2.invariant

/-- A delivery user picks an order up, and its owner moves it back. -/
theorem moved_back_keeps_driver_invariant :
    DriverInvariant
      ((orderService.both (cleanupJob (· - 86400000))).history sampleStore
        [.inl sampleOrder, .inl (.editOrderStatus "driver1" "order" .pickedUp .none),
          .inl (.editOrderStatus "owner" "order" .cooking .none), .inr 90000000])
      ((orderService.both (cleanupJob (· - 86400000))).run sampleStore
        [.inl sampleOrder, .inl (.editOrderStatus "driver1" "order" .pickedUp .none),
          .inl (.editOrderStatus "owner" "order" .cooking .none), .inr 90000000]) :=
  driver_invariant _ _ rfl

end CoupangEats
