import CoupangEats.Order.Calls

/-!
The lifecycle of an order.

`OrderStatus.next` is the state machine the service is meant to run.
`editOrderStatus` checks who asks and for what, and never the stored status
against it, so a run follows the state machine exactly when its requests do
(`lifecycle_iff`): the owner asks for `Cooking` of a `Pending` order and for
`Cooked` of one that is `Cooking`, a delivery user asks for `PickedUp` of a
`Cooked` order, and no driver asks for `Delivered` twice. The driver's own
`Delivered` needs no more than that, because in such a run an order that has a
driver has been picked up (`Driven`).
-/

namespace CoupangEats

open CoupangEats.Base

/-! ### The state machine -/

/-- The immediate successor in `Pending -> Cooking -> Cooked -> PickedUp ->
Delivered`. -/
def OrderStatus.next : OrderStatus → Option OrderStatus
  | .pending => some .cooking
  | .cooking => some .cooked
  | .cooked => some .pickedUp
  | .pickedUp => some .delivered
  | .delivered => none

/-- The position of a status in the lifecycle. -/
def OrderStatus.rank : OrderStatus → Nat
  | .pending => 0
  | .cooking => 1
  | .cooked => 2
  | .pickedUp => 3
  | .delivered => 4

theorem OrderStatus.next_rank {s t : OrderStatus} (next : s.next = some t) :
    t.rank = s.rank + 1 := by
  cases s <;> simp only [OrderStatus.next, Option.some.injEq, reduceCtorEq] at next <;>
    subst next <;> rfl

/-- A status is the successor of one status at most. -/
theorem OrderStatus.next_inj {s t u : OrderStatus} (hs : s.next = some u) (ht : t.next = some u) :
    s = t := by
  rw [← ht] at hs
  cases s <;> cases t <;> simp [OrderStatus.next] at hs ⊢

/-- An accepted status change moves the stored status of its order to the
immediate successor. -/
def InSequence (e : Event Db OrderCall OrderReply) : Prop :=
  ∀ userId orderId status, AcceptedEdit e userId orderId status →
    ∃ old new, e.before.orders.find? orderId = some old ∧
      e.after.orders.find? orderId = some new ∧ old.status.next = some new.status

/-- Every accepted change of a run is in sequence. -/
def Sequential (history : List (Event Db OrderCall OrderReply)) : Prop :=
  ∀ e ∈ history, InSequence e

/-- The condition on a request and the store it meets. A request that fails from
outside, or one that the checks of `editOrderStatus` refuse, may ask for
anything. -/
def KeepsOrder (db : Db) : OrderCall → Prop
  | .createOrder .. => True
  | .editOrderStatus userId orderId status faults =>
      faults = .none → ∀ user row, db.user? userId = some user →
        db.orders.find? orderId = some row →
        match user.role with
        | .client => True
        | .owner =>
            (row.restaurantId.bind db.restaurant?).map RestaurantRow.ownerId = some user.id →
              (status = .cooking → row.status = .pending) ∧
                (status = .cooked → row.status = .cooking)
        | .delivery =>
            (status = .pickedUp → row.status = .cooked) ∧
              (status = .delivered → row.driverId = some user.id → row.status ≠ .delivered)

/-- An order that has a driver has been picked up. -/
def Driven (db : Db) : Prop :=
  ∀ orderId row, db.orders.find? orderId = some row → row.driverId ≠ none →
    row.status = .pickedUp ∨ row.status = .delivered

/-! ### One step -/

section Step

variable {e : Event Db OrderCall OrderReply}

/-- A request that meets the condition and passes the checks asks for the
successor of the stored status. -/
theorem KeepsOrder.next {db : Db} {userId orderId : String} {status : OrderStatus} {user : UserRow}
    {order edited : LoadedOrder} (linked : Linked db) (driven : Driven db)
    (keeps : KeepsOrder db (.editOrderStatus userId orderId status .none))
    (found : db.user? userId = some user) (loaded : loadOrder db orderId = some order)
    (edit : Edit user order status edited) : order.row.status.next = some status := by
  have row := loadOrder_row loaded
  have condition := keeps rfl user order.row found row
  cases edit with
  | @owner restaurant _ role hrest own asked =>
      rw [loadOrder_restaurant loaded] at hrest
      simp only [role, hrest, Option.map_some, own, true_implies] at condition
      rcases asked with rfl | rfl
      · rw [condition.1 rfl]; rfl
      · rw [condition.2 rfl]; rfl
  | pickedUp role =>
      simp only [role] at condition
      rw [condition.1 trivial]; rfl
  | delivered role driver =>
      rw [linked.driver_id loaded] at driver
      simp only [role] at condition
      have open' := condition.2 trivial driver
      rcases driven orderId order.row row (by simp [driver]) with picked | delivered
      · rw [picked]; rfl
      · exact absurd delivered open'

/-- Under the condition an accepted status change is in sequence. -/
theorem KeepsOrder.inSequence (step : orderService.step e.before e.input = (e.after, e.output))
    (linked : Linked e.before) (driven : Driven e.before) (keeps : KeepsOrder e.before e.input) :
    InSequence e := by
  intro userId orderId status accepted
  obtain ⟨asked, user, order, edited, known, loaded, edit, stored⟩ := accepted.effect step linked
  rw [asked] at keeps
  exact ⟨_, _, loadOrder_row loaded, stored, keeps.next linked driven known loaded edit⟩

/-- A request that would be accepted is in sequence only under the condition. -/
theorem InSequence.keepsOrder (step : orderService.step e.before e.input = (e.after, e.output))
    (linked : Linked e.before) (sequence : InSequence e) : KeepsOrder e.before e.input := by
  cases asked : e.input with
  | createOrder => trivial
  | editOrderStatus userId orderId status faults =>
      intro unhindered user row known hrow
      subst unhindered
      obtain ⟨order, loaded, rfl⟩ := loadOrder_of_find hrow
      have next : ∀ edited, Edit user order status edited →
          order.row.status.next = some status := by
        intro edited edit
        have accepted := acceptedEdit_of_edit step asked known loaded edit
        obtain ⟨old, new, hold, hnew, next⟩ := sequence _ _ _ accepted
        obtain ⟨-, user, order', _, -, loaded', -, stored⟩ := accepted.effect step linked
        rw [loaded, Option.some.injEq] at loaded'
        subst loaded'
        rw [hrow, Option.some.injEq] at hold
        rw [stored, Option.some.injEq] at hnew
        subst hold hnew
        exact next
      cases role : user.role with
      | client => trivial
      | owner =>
          intro owned
          obtain ⟨restaurant, hrest, own⟩ := Option.map_eq_some_iff.mp owned
          rw [← loadOrder_restaurant loaded] at hrest
          refine ⟨?_, ?_⟩ <;> rintro rfl
          · exact OrderStatus.next_inj (next _ (.owner role hrest own (.inl rfl))) rfl
          · exact OrderStatus.next_inj (next _ (.owner role hrest own (.inr rfl))) rfl
      | delivery =>
          refine ⟨?_, ?_⟩
          · rintro rfl
            exact OrderStatus.next_inj (next _ (.pickedUp role)) rfl
          · rintro rfl driver closed
            rw [← linked.driver_id loaded] at driver
            have stuck := next _ (.delivered role driver)
            rw [closed] at stuck
            cases stuck

/-- The condition keeps every order that has a driver picked up. -/
theorem KeepsOrder.driven (step : orderService.step e.before e.input = (e.after, e.output))
    (linked : Linked e.before) (driven : Driven e.before) (keeps : KeepsOrder e.before e.input) :
    Driven e.after := by
  intro orderId row found assigned
  have effect := (orderService_effect step).row linked orderId
  rw [found] at effect
  generalize old : e.before.orders.find? orderId = before at effect
  cases effect with
  | same => exact driven orderId row old assigned
  | new _ unassigned => exact absurd unassigned assigned
  | @edited userId status user order edited asked known loaded edit =>
      rw [asked] at keeps
      have next := keeps.next linked driven known loaded edit
      cases status with
      | pending => cases h : order.row.status <;> simp [h, OrderStatus.next] at next
      | cooking | cooked =>
          -- The owner's statuses follow one of an order without a driver.
          rcases driven orderId order.row old (by simpa [OrderRow.edited] using assigned) with
            h | h <;> simp [h, OrderStatus.next] at next
      | pickedUp => exact .inl rfl
      | delivered => exact .inr rfl

/-- In sequence, a call leaves the status of an order or moves it one forward. -/
theorem InSequence.forward (step : orderService.step e.before e.input = (e.after, e.output))
    (linked : Linked e.before) (sequence : InSequence e) {orderId : String} {old : OrderRow}
    (found : e.before.orders.find? orderId = some old) :
    ∃ new, e.after.orders.find? orderId = some new ∧
      (new.status = old.status ∨ old.status.next = some new.status) := by
  have effect := (orderService_effect step).row linked orderId
  rw [found] at effect
  generalize after : e.after.orders.find? orderId = row at effect
  cases effect with
  | same => exact ⟨old, rfl, .inl rfl⟩
  | @edited userId status user order edited asked known loaded edit =>
      obtain ⟨old, new, hold, hnew, next⟩ :=
        sequence _ _ _ (acceptedEdit_of_edit step asked known loaded edit)
      rw [found, Option.some.injEq] at hold
      rw [after, Option.some.injEq] at hnew
      subst hold hnew
      exact ⟨_, rfl, .inr next⟩

end Step

/-! ### Runs -/

/-- Every run of the service follows the state machine exactly when every
request of the run meets the condition in the state it finds. -/
theorem lifecycle_iff {db : Db} {calls : List OrderCall} (fresh : db.orders = .empty) :
    Sequential (orderService.history db calls) ↔
      ∀ e ∈ orderService.history db calls, KeepsOrder e.before e.input := by
  have linked := linked_of_no_orders fresh
  constructor
  · intro sequence e mem
    exact (sequence e mem).keepsOrder (Machine.step_of_mem_history mem)
      (history_linked calls linked e mem).1
  · intro keeps e mem
    have driven : Driven db := by
      intro orderId row found
      rw [fresh, Table.find?_empty] at found
      cases found
    have inv := (Machine.history_invariant (fun db => Linked db ∧ Driven db) _
      (fun e step keeps inv =>
        ⟨(orderService_effect step).linked inv.1, KeepsOrder.driven step inv.1 inv.2 keeps⟩)
      ⟨linked, driven⟩ keeps).2 e mem
    exact (keeps e mem).inSequence (Machine.step_of_mem_history mem) inv.1.1 inv.1.2

/-- A run that follows the state machine never moves an order backwards. In
particular none is picked up before it is `Cooked`, and none leaves
`Delivered`. -/
theorem never_backwards {db : Db} {calls : List OrderCall} (linked : Linked db)
    (sequence : Sequential (orderService.history db calls)) {orderId : String}
    {old : OrderRow} (found : db.orders.find? orderId = some old) :
    ∀ e ∈ orderService.history db calls,
      ∃ new, e.after.orders.find? orderId = some new ∧ old.status.rank ≤ new.status.rank := by
  have inv := Machine.history_invariant
    (fun db => Linked db ∧
      ∃ new, db.orders.find? orderId = some new ∧ old.status.rank ≤ new.status.rank) _
    (fun e step sequence inv => by
      obtain ⟨linked, mid, hmid, le⟩ := inv
      obtain ⟨new, hnew, moved⟩ := InSequence.forward step linked sequence hmid
      refine ⟨(orderService_effect step).linked linked, new, hnew, ?_⟩
      rcases moved with same | next
      · rwa [same]
      · rw [OrderStatus.next_rank next]
        omega)
    ⟨linked, old, found, Nat.le_refl _⟩ sequence
  exact fun e mem => (inv.2 e mem).2.2

/-- The owner's accepting a new order is in sequence. -/
theorem accepting_in_sequence :
    Sequential (orderService.history sampleStore
      [sampleOrder, .editOrderStatus "owner" "order" .cooking .none]) := by
  refine (lifecycle_iff rfl).mpr fun e mem => ?_
  simp only [Machine.history_cons, Machine.history_nil, List.mem_cons, List.not_mem_nil,
    or_false] at mem
  rcases mem with rfl | rfl
  · trivial
  · intro _ user row known hrow
    have owner : orderedStore.user? "owner" = some (sampleUser "owner" .owner) := by
      decide +kernel
    rw [Machine.event_before, ← orderedStore, orderedStore_order, Option.some.injEq] at hrow
    rw [Machine.event_before, ← orderedStore, owner, Option.some.injEq] at known
    subst hrow known
    exact fun _ => ⟨fun _ => rfl, fun asked => by cases asked⟩

/-- A run in which a delivery user picks up an order that is still `Pending`. -/
theorem picked_up_while_pending :
    ¬ ∀ (db : Db) (calls : List OrderCall), db.orders = .empty →
      Sequential (orderService.history db calls) := by
  intro all
  let pickUp := orderService.event orderedStore
    (.editOrderStatus "driver1" "order" .pickedUp .none)
  have driver : orderedStore.user? "driver1" = some (sampleUser "driver1" .delivery) := by
    decide +kernel
  obtain ⟨order, loaded, row⟩ := loadOrder_of_find orderedStore_order
  have accepted : AcceptedEdit pickUp "driver1" "order" .pickedUp :=
    acceptedEdit_of_edit rfl rfl driver loaded (.pickedUp rfl)
  obtain ⟨old, new, hold, hnew, next⟩ := all sampleStore [sampleOrder, pickUp.input] rfl
    pickUp (by simp [pickUp, orderedStore]) _ _ _ accepted
  have picked : (pickUp.after.orders.find? "order").map OrderRow.status = some .pickedUp := by
    decide +kernel
  rw [show pickUp.before = orderedStore from rfl, orderedStore_order, Option.some.injEq] at hold
  rw [hnew, Option.map_some, Option.some.injEq] at picked
  rw [← hold, picked] at next
  cases next

end CoupangEats
