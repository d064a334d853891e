import CoupangEats.Base.Interleave
import CoupangEats.Payment.Ledger

/-!
Concurrent payments.

The check for an earlier payment and the insert are statements of their own,
outside any transaction, so several requests can find an order unpaid. The
unique index on the payment's order decides between them: however the requests
interleave, an order has one payment, which is its customer's, the requests that
report success are those whose row was stored, and the others store nothing
(`paid_once`).
-/

namespace CoupangEats

open CoupangEats.Base

/-- How far a request has got: the caller and the body checked, the order read
and found to be the caller's, the order found without a payment. -/
inductive PaymentPhase where
  | ready
  | admitted (user : UserRow)
  | found (user : UserRow) (order : OrderRow)
  | unpaid (user : UserRow) (order : OrderRow)
  | done (result : Except ApiError PaymentRow)
  deriving DecidableEq

section Threads

variable {ι : Type} (calls : ι → PaymentCall)

/-- One step of a request, between two of its queries. -/
def paymentStep : ThreadStep ι Unit Db PaymentPhase
  | i, _, db, .ready =>
      match db.user? (calls i).userId with
      | none => (db, .done (.error (.unauthorized "User not found")))
      | some user =>
          if user.role ≠ .client then (db, .done (.error (.forbidden "Forbidden resource")))
          else if validPayment (calls i).body then (db, .admitted user)
          else (db, .done (.error (.badRequest "Bad Request Exception")))
  | i, _, db, .admitted user =>
      let orderId := ((calls i).body.readString "orderId").getD ""
      match db.orders.find? orderId with
      | none => (db, .done (.error (.notFound ("don't exist " ++ orderId))))
      | some order =>
          if order.customerId ≠ some user.id then
            (db, .done (.error (.badRequest "You cannot pay for this order.")))
          else (db, .found user order)
  | _, _, db, .found user order =>
      match db.paymentOf? order.id with
      | some _ => (db, .done (.error (.badRequest "Order is already paid.")))
      | none => (db, .unpaid user order)
  | i, _, db, .unpaid user order =>
      match paymentMapping.save db.acceptsPayment (calls i).generated db.payments
          (paymentEntity (calls i).body user order) with
      | none => (db, .done (.error queryFailed))
      | some (payment, payments) => ({ db with payments }, .done (.ok payment))
  | _, _, db, .done result => (db, .done result)

/-- A request on its own is `createPayment`. -/
theorem paymentStep_alone (i : ι) (db : Db) :
    let step (s : Db × PaymentPhase) := paymentStep calls i () s.1 s.2
    step (step (step (step (db, .ready)))) =
      ((paymentService.step db (calls i)).1, .done (paymentService.step db (calls i)).2) := by
  simp only [paymentService, createPayment]
  cases known : db.user? (calls i).userId with
  | none => simp only [paymentStep, known]
  | some user =>
      by_cases role : user.role = .client
      · cases valid : validPayment (calls i).body with
        | false => simp only [paymentStep, known, role, valid, ne_eq, not_true_eq_false, if_false,
            Bool.false_eq_true]
        | true =>
            simp only [paymentStep, known, role, valid, processPayment, ne_eq, not_true_eq_false,
              if_false, if_true]
            cases found : db.orders.find? (((calls i).body.readString "orderId").getD "") with
            | none => rfl
            | some order =>
                by_cases own : order.customerId = some user.id
                · simp only [own, not_true_eq_false, if_false]
                  cases unpaid : db.paymentOf? order.id with
                  | some _ => rfl
                  | none =>
                      simp only
                      cases paymentMapping.save db.acceptsPayment (calls i).generated db.payments
                        (paymentEntity (calls i).body user order) <;> rfl
                · simp only [own, not_false_eq_true, if_true]
      · simp only [paymentStep, known, role, ne_eq, not_false_eq_true, if_true]

/-- The interleavings of the requests. -/
abbrev paymentRace [DecidableEq ι] : Machine (Config ι Db PaymentPhase) (ι × Unit) Unit :=
  interleave (paymentStep calls)

end Threads

/-- The start: no request has done anything. -/
def paymentStart {ι : Type} (db : Db) : Config ι Db PaymentPhase := ⟨db, fun _ => .ready⟩

/-- Every order has one payment at most, which is its customer's. -/
structure OnePayment (db : Db) : Prop where
  one : ∀ p ∈ db.payments.rows, ∀ q ∈ db.payments.rows, p.orderId = q.orderId → p = q
  own : ∀ p ∈ db.payments.rows, ∃ order, db.orders.find? p.orderId = some order ∧
    order.customerId = some p.userId

/-! ### One step -/

section Step

variable {ι : Type} {calls : ι → PaymentCall}

/-- What is known about a request at each of its phases: the order it has read is
the caller's. -/
def PaymentPhase.Fits (db : Db) : PaymentPhase → Prop
  | .found user order | .unpaid user order =>
      db.orders.find? order.id = some order ∧ order.customerId = some user.id
  | _ => True

/-- A step stores nothing and reports nothing, or it stores the row that it
reports. -/
theorem paymentStep_cases (calls : ι → PaymentCall) (i : ι) (db : Db) (phase : PaymentPhase) :
    ((paymentStep calls i () db phase).1 = db ∧
        ∀ payment, (paymentStep calls i () db phase).2 = .done (.ok payment) →
          phase = .done (.ok payment)) ∨
      ∃ user order payment payments, phase = .unpaid user order ∧
        paymentMapping.save db.acceptsPayment (calls i).generated db.payments
          (paymentEntity (calls i).body user order) = some (payment, payments) ∧
        paymentStep calls i () db phase = ({ db with payments }, .done (.ok payment)) := by
  cases phase with
  | ready =>
      left
      simp only [paymentStep]
      split
      · exact ⟨rfl, fun _ reported => by cases reported⟩
      · split_ifs <;> exact ⟨rfl, fun _ reported => by cases reported⟩
  | admitted user =>
      left
      simp only [paymentStep]
      split
      · exact ⟨rfl, fun _ reported => by cases reported⟩
      · split_ifs <;> exact ⟨rfl, fun _ reported => by cases reported⟩
  | found user order =>
      left
      simp only [paymentStep]
      split <;> exact ⟨rfl, fun _ reported => by cases reported⟩
  | unpaid user order =>
      cases saved : paymentMapping.save db.acceptsPayment (calls i).generated db.payments
          (paymentEntity (calls i).body user order) with
      | none =>
          left
          simp only [paymentStep, saved]
          exact ⟨trivial, fun _ reported => by cases reported⟩
      | some stored =>
          right
          exact ⟨user, order, stored.1, stored.2, rfl, saved, by simp only [paymentStep, saved]⟩
  | done result => exact .inl ⟨rfl, fun _ => id⟩

/-- A request comes to its order as the one it has read, and as its caller's. -/
theorem paymentStep_fits {i : ι} {db : Db} {phase : PaymentPhase} (fits : phase.Fits db) :
    (paymentStep calls i () db phase).2.Fits db := by
  cases phase with
  | ready =>
      simp only [paymentStep]
      split
      · trivial
      · split_ifs <;> trivial
  | admitted user =>
      simp only [paymentStep]
      split
      · trivial
      · rename_i order found
        split_ifs with own
        · trivial
        · refine ⟨?_, not_not.mp own⟩
          rw [Table.key_of_find? found]
          exact found
  | found user order =>
      simp only [paymentStep]
      split
      · trivial
      · exact fits
  | unpaid user order =>
      simp only [paymentStep]
      split <;> trivial
  | done result => trivial

/-- What the insert of a declared body has found and stored. -/
theorem saved_payment {db : Db} {body : Fields} {generated : String} {user : UserRow}
    {order : OrderRow} {payment : PaymentRow}
    {payments : Table String PaymentRow PaymentRow.id} (declared : Declared body)
    (saved : paymentMapping.save db.acceptsPayment generated db.payments
      (paymentEntity body user order) = some (payment, payments)) :
    payments.rows = db.payments.rows ++ [payment] ∧ payment.userId = user.id ∧
      payment.orderId = order.id ∧ ∀ other ∈ db.payments.rows, other.orderId ≠ order.id := by
  have id : (paymentEntity body user order).read "id" = none := by
    simp [paymentEntity, Fields.read_append, declared.read]
  rcases Mapping.save_cases saved with
    ⟨_, -, -, named, -⟩ | ⟨⟨_, written⟩, accepted, inserted⟩
  · rw [id] at named
    cases named
  · obtain ⟨fresh, rows⟩ := Table.insert_eq_some inserted
    obtain ⟨-, payer, paid, -⟩ := paymentRow_columns written
    refine ⟨rows, payer, paid, ?_⟩
    intro other mem
    -- The unique index: another payment's order is another order.
    have unique := accepted
    simp only [Db.acceptsPayment, Bool.and_eq_true, List.all_eq_true, Bool.or_eq_true,
      decide_eq_true_eq] at unique
    rcases unique.2 other mem with same | different
    · exact absurd same (Table.find?_eq_none_iff.mp fresh other mem)
    · rw [← paid]
      exact different

/-- A new payment of an order that has none, by the order's customer. -/
theorem OnePayment.insert {db : Db} {user : UserRow} {order : OrderRow} {payment : PaymentRow}
    {payments : Table String PaymentRow PaymentRow.id} (inv : OnePayment db)
    (found : db.orders.find? order.id = some order) (own : order.customerId = some user.id)
    (rows : payments.rows = db.payments.rows ++ [payment]) (payer : payment.userId = user.id)
    (paid : payment.orderId = order.id)
    (others : ∀ other ∈ db.payments.rows, other.orderId ≠ order.id) :
    OnePayment { db with payments } := by
  constructor
  · intro p hp q hq same
    simp only [rows, List.mem_append, List.mem_singleton] at hp hq
    rcases hp with hp | rfl
    · rcases hq with hq | rfl
      · exact inv.one p hp q hq same
      · exact absurd (same.trans paid) (others p hp)
    · rcases hq with hq | rfl
      · exact absurd (same.symm.trans paid) (others q hq)
      · rfl
  · intro p hp
    simp only [rows, List.mem_append, List.mem_singleton] at hp
    rcases hp with hp | rfl
    · exact inv.own p hp
    · refine ⟨order, ?_, ?_⟩
      · rw [paid]
        exact found
      · rw [payer]
        exact own

end Step

/-! ### Runs -/

/-- The invariant of the race that started with `db`: the rows that were added
are those that the successful requests report. -/
structure PaidOnce {ι : Type} (db : Db) (c : Config ι Db PaymentPhase) : Prop where
  fits : ∀ i, (c.locals i).Fits c.store
  one : OnePayment c.store
  reported : ∃ paid : List (ι × PaymentRow), (paid.map Prod.fst).Nodup ∧
    (∀ i payment, (i, payment) ∈ paid ↔ c.locals i = .done (.ok payment)) ∧
    c.store.payments.rows = db.payments.rows ++ paid.map Prod.snd

section Run

variable {ι : Type} {calls : ι → PaymentCall} {db : Db}

/-- The invariant survives a step that stores nothing and reports nothing new. -/
theorem PaidOnce.unchanged {before after : Config ι Db PaymentPhase} {i : ι}
    (inv : PaidOnce db before) (others : ∀ j, j ≠ i → after.locals j = before.locals j)
    (store : after.store = before.store) (fits : (after.locals i).Fits before.store)
    (silent : ∀ payment, before.locals i = .done (.ok payment) ↔
      after.locals i = .done (.ok payment)) : PaidOnce db after := by
  obtain ⟨paid, nodup, reported, rows⟩ := inv.reported
  constructor
  · rw [store]
    apply forall_locals (P := fun _ phase => PaymentPhase.Fits before.store phase) others fits
    intro j _
    exact inv.fits j
  · rw [store]
    exact inv.one
  · refine ⟨paid, nodup, ?_, by rw [store]; exact rows⟩
    apply forall_locals (P := fun j phase => ∀ payment, (j, payment) ∈ paid ↔
      phase = .done (.ok payment)) others
    · intro payment
      rw [reported, silent]
    · intro j _ payment
      exact reported j payment

/-- The invariant survives a step that stores a payment and reports it. -/
theorem PaidOnce.added {before after : Config ι Db PaymentPhase} {i : ι} {user : UserRow}
    {order : OrderRow} {payment : PaymentRow} (inv : PaidOnce db before)
    (others : ∀ j, j ≠ i → after.locals j = before.locals j)
    (unpaid : before.locals i = .unpaid user order) (done : after.locals i = .done (.ok payment))
    (orders : after.store.orders = before.store.orders) (one : OnePayment after.store)
    (added : after.store.payments.rows = before.store.payments.rows ++ [payment]) :
    PaidOnce db after := by
  obtain ⟨paid, nodup, reported, rows⟩ := inv.reported
  refine ⟨?_, one, paid ++ [(i, payment)], ?_, ?_, ?_⟩
  · apply forall_locals (P := fun _ phase => PaymentPhase.Fits after.store phase) others
    · rw [done]
      trivial
    · intro j _
      have fits := inv.fits j
      unfold PaymentPhase.Fits at fits ⊢
      rw [orders]
      exact fits
  · have absent : i ∉ paid.map Prod.fst := by
      intro mem
      obtain ⟨⟨j, stored⟩, listed, rfl⟩ := List.mem_map.mp mem
      have already := (reported j stored).mp listed
      rw [show before.locals j = _ from unpaid] at already
      cases already
    rw [List.map_append, List.nodup_append]
    refine ⟨nodup, by simp, ?_⟩
    intro j mem k last
    rw [List.map_singleton, List.mem_singleton] at last
    rintro rfl
    rw [last] at mem
    exact absent mem
  · intro j stored
    rw [List.mem_append, List.mem_singleton, Prod.mk.injEq, reported]
    by_cases same : j = i
    · rw [same, done, unpaid]
      simp [eq_comm]
    · simp [others j same, same]
  · rw [added, rows, List.map_append, List.append_assoc]
    rfl

variable [DecidableEq ι] {e : Event (Config ι Db PaymentPhase) (ι × Unit) Unit}

theorem PaidOnce.step (declared : ∀ i, Declared (calls i).body)
    (step : (paymentRace calls).step e.before e.input = (e.after, e.output))
    (inv : PaidOnce db e.before) : PaidOnce db e.after := by
  obtain ⟨moved, others⟩ := interleave_step step
  obtain ⟨before, ⟨i, _⟩, _, after⟩ := e
  simp only at moved others
  rcases paymentStep_cases calls i before.store (before.locals i) with
    ⟨store, silent⟩ | ⟨user, order, payment, payments, unpaid, saved, result⟩
  · have phase : (paymentStep calls i () before.store (before.locals i)).2.Fits before.store :=
      paymentStep_fits (inv.fits i)
    rw [moved] at phase store silent
    apply inv.unchanged others store phase
    intro payment
    refine ⟨?_, silent payment⟩
    intro done
    rw [done] at moved
    exact (congrArg Prod.snd moved).symm
  · rw [moved] at result
    simp only [Prod.mk.injEq] at result
    obtain ⟨store, done⟩ := result
    have here := inv.fits i
    rw [unpaid] at here
    obtain ⟨added, payer, paid, other⟩ := saved_payment (declared i) saved
    apply inv.added others unpaid done
    · rw [store]
    · rw [store]
      exact inv.one.insert here.1 here.2 added payer paid other
    · rw [store]
      exact added

/-- What a request has returned stays returned. -/
theorem done_of_run {c : Config ι Db PaymentPhase} {schedule : List (ι × Unit)} {i : ι}
    {result : Except ApiError PaymentRow} (done : c.locals i = .done result) :
    ((paymentRace calls).run c schedule).locals i = .done result := by
  apply (Machine.history_invariant (m := paymentRace calls) (fun c => c.locals i = .done result)
    (fun _ => True) ?_ done fun _ _ => trivial).1
  intro e step _ done
  obtain ⟨moved, others⟩ := interleave_step step
  by_cases same : e.input.1 = i
  · rw [same, done] at moved
    exact (congrArg Prod.snd moved).symm
  · rw [others i (Ne.symm same)]
    exact done

/-- However requests with declared bodies interleave, an order has one payment
at most, by its customer; the requests that report success are those whose row
was stored, each once; and a request that is refused has stored nothing. -/
theorem paid_once {schedule : List (ι × Unit)} (declared : ∀ i, Declared (calls i).body)
    (start : OnePayment db) :
    let c := (paymentRace calls).run (paymentStart db) schedule
    OnePayment c.store ∧
      (∃ paid : List (ι × PaymentRow), (paid.map Prod.fst).Nodup ∧
        (∀ i payment, (i, payment) ∈ paid ↔ c.locals i = .done (.ok payment)) ∧
        c.store.payments.rows = db.payments.rows ++ paid.map Prod.snd) ∧
      ∀ e ∈ (paymentRace calls).history (paymentStart db) schedule, ∀ error,
        c.locals e.input.1 = .done (.error error) → e.after.store = e.before.store := by
  have initial : PaidOnce (ι := ι) db (paymentStart db) :=
    ⟨fun _ => trivial, start, [], List.nodup_nil, by simp [paymentStart], by simp [paymentStart]⟩
  have final : PaidOnce db ((paymentRace calls).run (paymentStart db) schedule) :=
    (Machine.history_invariant (PaidOnce db) (fun _ => True)
      (fun _ step _ inv => PaidOnce.step declared step inv) initial fun _ _ => trivial).1
  refine ⟨final.one, final.reported, ?_⟩
  intro e mem error refused
  obtain ⟨moved, -⟩ := interleave_step (Machine.step_of_mem_history mem)
  rcases paymentStep_cases calls e.input.1 e.before.store
    (e.before.locals e.input.1) with ⟨store, -⟩ | ⟨_, _, payment, _, -, -, result⟩
  · rw [moved] at store
    exact store
  · -- The step has stored a row, so its request reports success to the end.
    rw [moved] at result
    obtain ⟨first, rest, split⟩ := List.append_of_mem mem
    obtain ⟨late, -, last⟩ := Machine.run_of_split split
    have done : ((paymentRace calls).run e.after late).locals e.input.1 = .done (.ok payment) :=
      done_of_run (congrArg Prod.snd result)
    rw [← last, refused] at done
    cases done

end Run

/-! ### Two payments of one order -/

/-- Two requests of the customer to pay the sample order. -/
def twoPayments (first : Bool) : PaymentCall :=
  { samplePayment with generated := if first then "payment" else "payment2" }

/-- Both requests find the order unpaid; it is paid once. -/
theorem both_find_unpaid :
    OnePayment ((paymentRace twoPayments).run (paymentStart orderedStore)
      [(true, ()), (false, ()), (true, ()), (false, ()), (true, ()), (false, ()), (true, ()),
        (false, ())]).store := by
  have none : orderedStore.payments.rows = [] := by decide +kernel
  have start : OnePayment orderedStore := by
    constructor
    · intro p mem
      rw [none] at mem
      cases mem
    · intro p mem
      rw [none] at mem
      cases mem
  exact (paid_once (by decide) start).1

end CoupangEats
