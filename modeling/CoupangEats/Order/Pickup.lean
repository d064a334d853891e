import CoupangEats.Order.Calls

/-!
Who delivers an order.

A `PickedUp` request of a delivery user assigns the driver, whether or not the
order has one. The run of an order is exclusive (`Exclusive`) exactly when no
`PickedUp` request asks for an order that has another driver
(`exclusive_iff`): the driver column is then written once, and every later
`PickedUp` and `Delivered` that is accepted is its user's.
-/

namespace CoupangEats

open CoupangEats.Base

/-- The driver column of an order. -/
def Db.driver? (db : Db) (orderId : String) : Option String :=
  (db.orders.find? orderId).bind OrderRow.driverId

/-- One delivery user at most picks the order up, a driver is never replaced,
and who has picked the order up is the only one who delivers it. -/
structure Exclusive (history : List (Event Db OrderCall OrderReply)) (orderId : String) :
    Prop where
  pickedUp : ∀ e ∈ history, ∀ f ∈ history, ∀ u v, AcceptedEdit e u orderId .pickedUp →
    AcceptedEdit f v orderId .pickedUp → u = v
  kept : ∀ e ∈ history, ∀ d, e.before.driver? orderId = some d → e.after.driver? orderId = some d
  delivered : ∀ e ∈ history, ∀ f ∈ history, ∀ u v, AcceptedEdit e u orderId .pickedUp →
    AcceptedEdit f v orderId .delivered → u = v

/-- The condition on a request and the store it meets: a delivery user asks for
`PickedUp` only of an order without a driver, or of their own. -/
def PicksUpFree (orderId : String) (db : Db) (call : OrderCall) : Prop :=
  ∀ userId user d, call = .editOrderStatus userId orderId .pickedUp .none →
    db.user? userId = some user → user.role = .delivery → db.driver? orderId = some d → d = userId

/-! ### One step -/

section Step

variable {e : Event Db OrderCall OrderReply} {orderId u : String}

/-- After an accepted `PickedUp` the order's driver is its user. -/
theorem driver_of_pickedUp (step : orderService.step e.before e.input = (e.after, e.output))
    (linked : Linked e.before) (accepted : AcceptedEdit e u orderId .pickedUp) :
    e.after.driver? orderId = some u := by
  obtain ⟨-, user, order, edited, known, -, -, stored⟩ := accepted.effect step linked
  simp [Db.driver?, stored, OrderRow.edited, Db.user?_id known]

/-- Who has `Delivered` accepted is the order's driver. -/
theorem driver_of_delivered (step : orderService.step e.before e.input = (e.after, e.output))
    (linked : Linked e.before) (accepted : AcceptedEdit e u orderId .delivered) :
    e.before.driver? orderId = some u := by
  obtain ⟨-, user, order, edited, known, loaded, edit, -⟩ := accepted.effect step linked
  cases edit with
  | owner _ _ _ asked => simp at asked
  | delivered _ driver =>
      rw [linked.driver_id loaded, Db.user?_id known] at driver
      simp [Db.driver?, loadOrder_row loaded, driver]

/-- Under the condition a call keeps the driver of an order. -/
theorem PicksUpFree.kept (step : orderService.step e.before e.input = (e.after, e.output))
    (linked : Linked e.before) (free : PicksUpFree orderId e.before e.input) {d : String}
    (assigned : e.before.driver? orderId = some d) : e.after.driver? orderId = some d := by
  have effect := (orderService_effect step).row linked orderId
  obtain ⟨row, found, driver⟩ := Option.bind_eq_some_iff.mp assigned
  rw [found] at effect
  generalize after : e.after.orders.find? orderId = new at effect
  cases effect with
  | same => simp [Db.driver?, after, driver]
  | @edited userId status user order edited asked known loaded edit =>
      rw [Db.driver?, after]
      by_cases picked : status = .pickedUp
      · subst picked
        have own := free userId user d asked known edit.role_of_pickedUp assigned
        simp [OrderRow.edited, Db.user?_id known, own]
      · simp [OrderRow.edited, picked, driver]

end Step

/-! ### Runs -/

/-- A driver that an event leaves is the driver before every later event of a
run that meets the condition. -/
theorem driver_from_then_on {db : Db} {calls : List OrderCall} {orderId d : String}
    (linked : Linked db)
    (free : ∀ e ∈ orderService.history db calls, PicksUpFree orderId e.before e.input)
    {first rest : List (Event Db OrderCall OrderReply)} {e : Event Db OrderCall OrderReply}
    (split : orderService.history db calls = first ++ e :: rest)
    (assigned : e.after.driver? orderId = some d) :
    ∀ f ∈ rest, f.before.driver? orderId = some d := by
  have inv := Machine.history_after
    (fun db => Linked db ∧ db.driver? orderId = some d) _
    (fun f step free inv =>
      ⟨(orderService_effect step).linked inv.1, PicksUpFree.kept step inv.1 free inv.2⟩)
    split ⟨(history_linked calls linked e (Machine.mem_of_split split)).2, assigned⟩
    (fun f mem => free f (by simp [split, mem]))
  exact fun f mem => (inv f mem).2

/-- In a run that meets the condition an order has one driver at most. -/
theorem one_driver {db : Db} {calls : List OrderCall} {orderId u v : String} (linked : Linked db)
    (free : ∀ e ∈ orderService.history db calls, PicksUpFree orderId e.before e.input)
    {e f : Event Db OrderCall OrderReply} (he : e ∈ orderService.history db calls)
    (hf : f ∈ orderService.history db calls) (afterE : e.after.driver? orderId = some u)
    (afterF : f.after.driver? orderId = some v) : u = v := by
  -- The driver of the earlier event is there before the later one, which keeps it.
  have later {e f : Event Db OrderCall OrderReply} {u v : String}
      {first rest : List (Event Db OrderCall OrderReply)}
      (split : orderService.history db calls = first ++ e :: rest) (mem : f ∈ rest)
      (afterE : e.after.driver? orderId = some u) (afterF : f.after.driver? orderId = some v) :
      u = v := by
    have hf : f ∈ orderService.history db calls := by simp [split, mem]
    have before := driver_from_then_on linked free split afterE f mem
    have kept := (free f hf).kept (Machine.step_of_mem_history hf)
      (history_linked calls linked f hf).1 before
    rw [afterF, Option.some.injEq] at kept
    exact kept.symm
  rcases Machine.order_of_mem he hf with rfl | ⟨first, rest, split, mem⟩ |
    ⟨first, rest, split, mem⟩
  · rw [afterE, Option.some.injEq] at afterF
    exact afterF
  · exact later split mem afterE afterF
  · exact (later split mem afterF afterE).symm

/-- The run of an order is exclusive exactly when no delivery user asks for
`PickedUp` of it while it has another driver. -/
theorem exclusive_iff {db : Db} {calls : List OrderCall} {orderId : String}
    (fresh : db.orders = .empty) :
    Exclusive (orderService.history db calls) orderId ↔
      ∀ e ∈ orderService.history db calls, PicksUpFree orderId e.before e.input := by
  have linked := linked_of_no_orders fresh
  have steps := fun (e : Event Db OrderCall OrderReply)
    (mem : e ∈ orderService.history db calls) => Machine.step_of_mem_history mem
  have links := history_linked calls linked
  constructor
  · intro exclusive e mem userId user d asked known role assigned
    obtain ⟨row, found, -⟩ := Option.bind_eq_some_iff.mp assigned
    obtain ⟨order, loaded, -⟩ := loadOrder_of_find found
    have accepted := acceptedEdit_of_edit (steps e mem) asked known loaded (.pickedUp role)
    have after := driver_of_pickedUp (steps e mem) (links e mem).1 accepted
    rw [exclusive.kept e mem d assigned, Option.some.injEq] at after
    exact after
  · intro free
    have kept : ∀ e ∈ orderService.history db calls, ∀ d,
        e.before.driver? orderId = some d → e.after.driver? orderId = some d := by
      intro e mem d
      exact (free e mem).kept (steps e mem) (links e mem).1
    refine ⟨?_, kept, ?_⟩
    · intro e he f hf u v hu hv
      exact one_driver linked free he hf (driver_of_pickedUp (steps e he) (links e he).1 hu)
        (driver_of_pickedUp (steps f hf) (links f hf).1 hv)
    · intro e he f hf u v hu hv
      have before := driver_of_delivered (steps f hf) (links f hf).1 hv
      exact one_driver linked free he hf (driver_of_pickedUp (steps e he) (links e he).1 hu)
        (kept f hf v before)

/-- A run with a single delivery user is exclusive. -/
theorem exclusive_single_driver :
    Exclusive (orderService.history sampleStore
      [sampleOrder, .editOrderStatus "driver1" "order" .pickedUp .none]) "order" := by
  refine (exclusive_iff rfl).mpr fun e mem => ?_
  simp only [Machine.history_cons, Machine.history_nil, List.mem_cons, List.not_mem_nil,
    or_false] at mem
  intro userId user d asked _ _ assigned
  rcases mem with rfl | rfl
  · cases asked
  · rw [Machine.event_before, ← orderedStore, Db.driver?, orderedStore_order] at assigned
    cases assigned

/-- A run in which a second delivery user takes the order over. -/
theorem driver_replaced :
    ¬ ∀ (db : Db) (calls : List OrderCall) (orderId : String), db.orders = .empty →
      Exclusive (orderService.history db calls) orderId := by
  intro all
  let first := orderService.event orderedStore (.editOrderStatus "driver1" "order" .pickedUp .none)
  let second := orderService.event first.after (.editOrderStatus "driver2" "order" .pickedUp .none)
  have exclusive := all sampleStore [sampleOrder, first.input, second.input] "order" rfl
  have before : second.before.driver? "order" = some "driver1" := by decide +kernel
  have after : second.after.driver? "order" = some "driver2" := by decide +kernel
  have kept := exclusive.kept second (by simp [first, second, orderedStore]) _ before
  rw [after] at kept
  exact absurd kept (by decide)

end CoupangEats
