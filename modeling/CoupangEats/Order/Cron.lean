import CoupangEats.Entity

/-!
The cleanup job.

`handleCron` issues one statement: it deletes the `Pending` orders created
before the cutoff. The foreign keys decide what else happens. A payment's
reference to its order has no action on deletion, so the statement fails as a
whole when it selects an order that a payment refers to; the items of a deleted
order go with it, and a review of it loses its reference.
-/

namespace CoupangEats

open CoupangEats.Base

/-- A payment refers to the order. -/
def Db.Paid (db : Db) (orderId : String) : Prop :=
  ∃ payment ∈ db.payments.rows, payment.orderId = orderId

instance (db : Db) (orderId : String) : Decidable (db.Paid orderId) :=
  inferInstanceAs (Decidable (∃ payment ∈ db.payments.rows, _))

/-- An order of the given id is selected for deletion. -/
def Db.Selected (db : Db) (selected : OrderRow → Bool) (orderId : String) : Prop :=
  ∃ order ∈ db.orders.rows, selected order = true ∧ order.id = orderId

instance (db : Db) (selected : OrderRow → Bool) (orderId : String) :
    Decidable (db.Selected selected orderId) :=
  inferInstanceAs (Decidable (∃ order ∈ db.orders.rows, _))

/-- The row's reference to an order is to a selected one. -/
def Db.SelectedRef (db : Db) (selected : OrderRow → Bool) (orderId : Option String) : Prop :=
  ∃ id, orderId = some id ∧ db.Selected selected id

instance (db : Db) (selected : OrderRow → Bool) (orderId : Option String) :
    Decidable (db.SelectedRef selected orderId) :=
  match orderId with
  | none => isFalse fun ⟨_, h, _⟩ => nomatch h
  | some id => decidable_of_iff (db.Selected selected id) (by simp [Db.SelectedRef])

/-- `DELETE FROM order WHERE selected`. -/
def deleteOrders (db : Db) (selected : OrderRow → Bool) : Except ApiError Db :=
  if ∃ payment ∈ db.payments.rows, db.Selected selected payment.orderId then .error queryFailed
  else
    .ok
      { db with
        orders := db.orders.filter fun order => !selected order
        orderItems := db.orderItems.filter fun item =>
          !decide (db.SelectedRef selected item.orderId)
        reviews := db.reviews.mapRows
          (fun review =>
            if db.SelectedRef selected review.orderId then { review with orderId := none }
            else review)
          fun review => by split <;> rfl }

/-- The orders that a run of the job selects. `dayBefore` takes a day off a
date, on the server's calendar. -/
def Stale (dayBefore : Time → Time) (now : Time) (order : OrderRow) : Bool :=
  order.status = .pending && decide (order.createdAt < dayBefore now)

/-- The cleanup job, run at the time `now`. -/
def handleCron (dayBefore : Time → Time) (now : Time) (db : Db) : Except ApiError Db :=
  deleteOrders db (Stale dayBefore now)

theorem stale_iff {dayBefore : Time → Time} {now : Time} {order : OrderRow} :
    Stale dayBefore now order = true ↔
      order.status = .pending ∧ order.createdAt < dayBefore now := by
  simp [Stale]

section Delete

variable {db db' : Db} {selected : OrderRow → Bool}

/-- The statement succeeds exactly when no payment refers to a selected order. -/
theorem deleteOrders_succeeds :
    (∃ db', deleteOrders db selected = .ok db') ↔
      ∀ order ∈ db.orders.rows, selected order = true → ¬ db.Paid order.id := by
  unfold deleteOrders
  split
  · rename_i referred
    obtain ⟨payment, mem, order, mem', hit, same⟩ := referred
    simp only [reduceCtorEq, exists_false, false_iff]
    exact fun unpaid => unpaid order mem' hit ⟨payment, mem, same.symm⟩
  · rename_i unreferred
    simp only [Except.ok.injEq, exists_eq', true_iff]
    rintro order mem hit ⟨payment, mem', same⟩
    exact unreferred ⟨payment, mem', order, mem, hit, same.symm⟩

theorem deleteOrders_orders (deleted : deleteOrders db selected = .ok db') :
    db'.orders = db.orders.filter fun order => !selected order := by
  unfold deleteOrders at deleted
  split at deleted <;> cases deleted
  rfl

theorem deleteOrders_items (deleted : deleteOrders db selected = .ok db') :
    db'.orderItems = db.orderItems.filter fun item =>
      !decide (db.SelectedRef selected item.orderId) := by
  unfold deleteOrders at deleted
  split at deleted <;> cases deleted
  rfl

/-- Deleting orders changes orders, their items and their reviews only. -/
theorem deleteOrders_static (deleted : deleteOrders db selected = .ok db') :
    db'.users = db.users ∧ db'.categories = db.categories ∧ db'.restaurants = db.restaurants ∧
      db'.dishes = db.dishes ∧ db'.payments = db.payments := by
  unfold deleteOrders at deleted
  split at deleted <;> cases deleted
  exact ⟨rfl, rfl, rfl, rfl, rfl⟩

theorem deleteOrders_find? (deleted : deleteOrders db selected = .ok db') (orderId : String) :
    db'.orders.find? orderId = (db.orders.find? orderId).filter fun order => !selected order := by
  rw [deleteOrders_orders deleted, Table.find?_filter]

end Delete

end CoupangEats
