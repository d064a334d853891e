import CoupangEats.Order.Calls
import CoupangEats.Order.Cron
import CoupangEats.Payment.Service

/-!
What a run of the cleanup job leaves.

The job is meant to remove the unpaid `Pending` orders that are older than a day
(`CleansUp`). It selects by status and age alone, and a paid order is still
`Pending` until its owner accepts it; one such order among the selected ones
makes the whole statement fail. The job does its work exactly when no order it
selects is paid (`cleans_up_iff`).
-/

namespace CoupangEats

open CoupangEats.Base

/-- The job completes and removes the selected orders that are not paid, with
their items; the other orders and items, and every payment, stay. -/
structure CleansUp (dayBefore : Time → Time) (now : Time) (db db' : Db) : Prop where
  completed : handleCron dayBefore now db = .ok db'
  orders : ∀ order, order ∈ db'.orders.rows ↔
    order ∈ db.orders.rows ∧ ¬ (Stale dayBefore now order = true ∧ ¬ db.Paid order.id)
  items : ∀ item, item ∈ db'.orderItems.rows ↔
    item ∈ db.orderItems.rows ∧ ¬ ∃ order ∈ db.orders.rows, Stale dayBefore now order = true ∧
      ¬ db.Paid order.id ∧ item.orderId = some order.id
  payments : db'.payments = db.payments

/-- The job does its work exactly when no `Pending` order from before the cutoff
is paid. -/
theorem cleans_up_iff (dayBefore : Time → Time) (now : Time) (db : Db) :
    (∃ db', CleansUp dayBefore now db db') ↔
      ∀ order ∈ db.orders.rows, order.status = .pending → order.createdAt < dayBefore now →
        ¬ db.Paid order.id := by
  have succeeds : (∃ db', deleteOrders db (Stale dayBefore now) = .ok db') ↔ _ :=
    deleteOrders_succeeds
  constructor
  · rintro ⟨db', clean⟩ order mem pending old
    exact succeeds.mp ⟨db', clean.completed⟩ order mem (stale_iff.mpr ⟨pending, old⟩)
  · intro unpaid
    replace unpaid : ∀ order ∈ db.orders.rows, Stale dayBefore now order = true →
        ¬ db.Paid order.id :=
      fun order mem stale => unpaid order mem (stale_iff.mp stale).1 (stale_iff.mp stale).2
    obtain ⟨db', deleted⟩ := succeeds.mpr unpaid
    refine ⟨db', deleted, fun order => ?_, fun item => ?_, (deleteOrders_static deleted).2.2.2.2⟩
    · rw [deleteOrders_orders deleted, Table.mem_filter, Bool.not_eq_true', ← Bool.not_eq_true]
      exact and_congr_right fun mem => not_congr (iff_self_and.mpr (unpaid order mem))
    · rw [deleteOrders_items deleted, Table.mem_filter, Bool.not_eq_true', decide_eq_false_iff_not]
      refine and_congr_right fun _ => not_congr ⟨?_, ?_⟩
      · rintro ⟨id, ref, order, mem, stale, rfl⟩
        exact ⟨order, mem, stale, unpaid order mem stale, ref⟩
      · rintro ⟨order, mem, stale, -, ref⟩
        exact ⟨order.id, ref, order, mem, stale, rfl⟩

/-- The sample order, paid by its customer. -/
def samplePayment : PaymentCall :=
  ⟨"customer", [("transactionId", .str "imp_1"), ("orderId", .str "order")], "payment"⟩

/-- A customer orders and pays; a day later the job fails. -/
theorem paid_order_blocks_cleanup :
    ¬ ∀ (db : Db) (calls : List (OrderCall ⊕ PaymentCall)) (now : Time), db.orders = .empty →
      db.payments = .empty → ∃ db', CleansUp (· - 86400000) now
        ((orderService.both paymentService).run db calls) db' := by
  intro all
  obtain ⟨db', clean⟩ := all sampleStore [.inl sampleOrder, .inr samplePayment] 90000000 rfl rfl
  have fails : handleCron (· - 86400000) 90000000 ((orderService.both paymentService).run
      sampleStore [.inl sampleOrder, .inr samplePayment]) = .error queryFailed := by
    decide +kernel
  rw [clean.completed] at fails
  cases fails

end CoupangEats
