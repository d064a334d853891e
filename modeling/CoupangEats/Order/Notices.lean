import CoupangEats.Order.Placement

/-!
When the order service announces a status.

`createOrder` sends its notice from the commit hook. `editOrderStatus` sends its
notices as soon as the order is saved, inside the transaction, so that a commit
which fails afterwards leaves an announced status that no row ever has. A run is
without such notices (`NoGhost`) exactly when no commit of a saved status change
fails (`no_ghost_iff`).
-/

namespace CoupangEats

open CoupangEats.Base

/-- The order and the status that a notice announces. -/
def Notice.announces : Notice → Option (String × OrderStatus)
  | .newPendingOrder .. => none
  | .orderUpdate _ orderId status _ => some (orderId, status)
  | .newCookedOrder orderId _ _ => some (orderId, .cooked)

/-- A status is announced only by a call that is accepted and leaves the order
with that status. -/
def NoGhost (e : Event Db OrderCall OrderReply) : Prop :=
  ∀ notice ∈ e.output.sent, ∀ orderId status, notice.announces = some (orderId, status) →
    e.output.Accepted ∧ ∃ row, e.after.orders.find? orderId = some row ∧ row.status = status

/-- The status change of a user passes the checks. -/
def PassesEdit (db : Db) (userId orderId : String) (status : OrderStatus) : Prop :=
  ∃ user order edited, db.user? userId = some user ∧ loadOrder db orderId = some order ∧
    applyEdit user order status = .ok edited

/-- The condition on a call and the store it meets: the commit of a status change
that passes the checks and is saved does not fail. -/
def Commits (db : Db) : OrderCall → Prop
  | .createOrder .. => True
  | .editOrderStatus userId orderId status faults =>
      PassesEdit db userId orderId status → faults.save = false → faults.commit = false

/-! ### One call -/

section Edit

variable {db : Db} {user : UserRow} {orderId : String} {status : OrderStatus} {faults : Faults}

theorem announces_of_mem {order : LoadedOrder} {notice : Notice}
    (mem : notice ∈ editNotices order status) :
    notice.announces = some (order.row.id, status) := by
  unfold editNotices at mem
  rcases List.mem_cons.mp mem with rfl | mem
  · rfl
  · split at mem
    · rw [List.mem_singleton.mp mem]
      rfl
    · cases mem

/-- A status change is refused before it has sent anything, or it passes the
checks, is saved, and sends its notices whatever becomes of the commit. -/
theorem editOrderStatus_cases (db : Db) (user : UserRow) (orderId : String)
    (status : OrderStatus) (faults : Faults) :
    (∃ e, editOrderStatus db user orderId status faults = ⟨.error e, db, []⟩ ∧
        ∀ order edited, loadOrder db orderId = some order →
          applyEdit user order status = .ok edited → faults.save = true) ∨
      ∃ order edited, loadOrder db orderId = some order ∧
        applyEdit user order status = .ok edited ∧ faults.save = false ∧
        editOrderStatus db user orderId status faults =
          if faults.commit then ⟨.error queryFailed, db, editNotices edited status⟩
          else ⟨.ok edited, saveOrder db order.row edited.columns, editNotices edited status⟩ := by
  unfold editOrderStatus editOrderStatusBody
  cases loaded : loadOrder db orderId with
  | none => exact .inl ⟨_, rfl, by simp⟩
  | some order =>
      cases applied : applyEdit user order status with
      | error e =>
          refine .inl ⟨e, by simp [applied, transactional], fun order' edited same ok => ?_⟩
          cases same
          rw [applied] at ok
          cases ok
      | ok edited =>
          cases save : faults.save with
          | true => exact .inl ⟨queryFailed, by simp [applied, transactional], fun _ _ _ _ => rfl⟩
          | false =>
              refine .inr ⟨order, edited, rfl, applied, rfl, ?_⟩
              cases faults.commit <;> simp [applied, transactional]

/-- What a status change saves has the status it was asked for. -/
theorem edited_status {order edited : LoadedOrder} (loaded : loadOrder db orderId = some order)
    (applied : applyEdit user order status = .ok edited) :
    edited.row.id = orderId ∧
      ∃ row, (saveOrder db order.row edited.columns).orders.find? orderId = some row ∧
        row.status = status := by
  have found := loadOrder_row loaded
  have id : order.row.id = orderId := Table.key_of_find? found
  have memory : edited.row.id = order.row.id ∧ edited.columns.status = status := by
    cases applyEdit_eq_ok.mp applied <;> exact ⟨rfl, rfl⟩
  refine ⟨memory.1.trans id, ?_⟩
  rw [saveOrder_find?, id, if_pos rfl, found, Option.map_some]
  refine ⟨_, rfl, ?_⟩
  rw [OrderRow.overwrite, memory.2]
  exact saveColumn_eq (Eq.symm ·)

end Edit

/-- The notice of a new order announces no status change. -/
theorem noGhost_of_createOrder {db db' : Db} {userId : String} {dto : CreateOrderDto}
    {env : CreateOrderEnv} {reply : OrderReply}
    (step : orderStep db (.createOrder userId dto env) = (db', reply)) :
    NoGhost ⟨db, .createOrder userId dto env, reply, db'⟩ := by
  intro notice mem orderId status announced
  have outcome := createOrder_sent db userId dto env
  simp only [step] at outcome
  rcases outcome with sent | ⟨created, sent⟩
  · rw [sent] at mem
    cases mem
  · rw [sent, List.mem_singleton] at mem
    rw [mem] at announced
    cases announced

/-- A call announces nothing that is not so, exactly when it meets the
condition. -/
theorem noGhost_iff_commits {e : Event Db OrderCall OrderReply}
    (step : orderService.step e.before e.input = (e.after, e.output)) :
    NoGhost e ↔ Commits e.before e.input := by
  obtain ⟨db, call, reply, db'⟩ := e
  change orderStep db call = (db', reply) at step
  cases call with
  | createOrder userId dto env => exact iff_of_true (noGhost_of_createOrder step) trivial
  | editOrderStatus userId orderId status faults =>
      cases known : db.user? userId with
      | none =>
          simp only [orderStep, known] at step
          cases step
          refine iff_of_true (fun _ mem => by cases mem) ?_
          rintro ⟨user, -, -, known', -⟩
          rw [known] at known'
          cases known'
      | some user =>
          simp only [orderStep, known] at step
          rcases editOrderStatus_cases db user orderId status faults with
            ⟨e, refused, unsaved⟩ | ⟨order, edited, loaded, applied, saved, outcome⟩
          · rw [refused] at step
            cases step
            refine iff_of_true (fun _ mem => by cases mem) ?_
            rintro ⟨user', order, edited, known', loaded, applied⟩ save
            rw [known] at known'
            cases known'
            rw [unsaved order edited loaded applied] at save
            cases save
          · obtain ⟨id, row, stored, rowStatus⟩ := edited_status loaded applied
            rw [outcome] at step
            cases commit : faults.commit with
            | true =>
                -- The notices are out, and the call is refused.
                rw [commit, if_pos rfl] at step
                cases step
                constructor
                · intro noGhost
                  obtain ⟨⟨value, ok⟩, -⟩ := noGhost _ List.mem_cons_self orderId status
                    (by rw [← id]; exact announces_of_mem List.mem_cons_self)
                  cases ok
                · intro commits
                  have := commits ⟨user, order, edited, known, loaded, applied⟩ saved
                  rw [commit] at this
                  cases this
            | false =>
                rw [commit, if_neg Bool.false_ne_true] at step
                cases step
                refine iff_of_true ?_ fun _ _ => commit
                intro notice mem orderId' status' announced
                rw [announces_of_mem mem, id, Option.some.injEq, Prod.mk.injEq] at announced
                obtain ⟨rfl, rfl⟩ := announced
                exact ⟨⟨_, rfl⟩, row, stored, rowStatus⟩

/-! ### Runs -/

/-- No call of a run announces a status that has not been committed, exactly
when in that run no commit of a saved status change fails. -/
theorem no_ghost_iff (db : Db) (calls : List OrderCall) :
    (∀ e ∈ orderService.history db calls, NoGhost e) ↔
      ∀ e ∈ orderService.history db calls, Commits e.before e.input := by
  apply forall₂_congr
  intro e mem
  exact noGhost_iff_commits (Machine.step_of_mem_history mem)

/-- The owner takes the order, and the commit fails: `Cooking` is announced, and
the order stays `Pending`. -/
theorem cooking_ghost :
    ¬ ∀ (db : Db) (calls : List OrderCall), ∀ e ∈ orderService.history db calls, NoGhost e := by
  intro all
  let call : OrderCall := .editOrderStatus "owner" "order" .cooking ⟨false, true⟩
  have noGhost := all orderedStore [call] (orderService.event orderedStore call)
    List.mem_cons_self
  obtain ⟨-, row, found, status⟩ := noGhost (.orderUpdate "order:order" "order" .cooking none)
    (by decide +kernel) "order" .cooking rfl
  have kept : (orderService.event orderedStore call).after.orders.find? "order" =
      some sampleRow := by
    decide +kernel
  rw [kept, Option.some.injEq] at found
  rw [← found] at status
  cases status

end CoupangEats
