import CoupangEats.Base.Machine
import Mathlib.Logic.Function.Basic

/-!
Threads that take atomic steps on one shared store, and linearization.

A schedule is a list of steps, each naming the thread that moves and what it
reads from outside (a clock, say); every interleaving of the threads is a
schedule of the machine `interleave`. A thread's step may decide its answer.
`linearize` is the proof rule for serializability: if every step that decides an
answer changes the store and answers exactly as the whole request would when
executed alone at that moment, and every other step leaves the store alone, then
the decided requests, in the order of their deciding steps, form a serial
execution with the same answers and the same final store.
-/

namespace CoupangEats.Base

variable {ι σ ℓ α χ : Type*}

/-- A shared store and the local state of every thread. -/
structure Config (ι σ ℓ : Type*) where
  store : σ
  locals : ι → ℓ

/-- One atomic step of a thread: what it reads from outside, the store and the
thread's local state give the next store and the next local state. -/
abbrev ThreadStep (ι α σ ℓ : Type*) := ι → α → σ → ℓ → σ × ℓ

/-- The machine whose runs are the interleavings of the threads. -/
def interleave [DecidableEq ι] (act : ThreadStep ι α σ ℓ) :
    Machine (Config ι σ ℓ) (ι × α) Unit where
  step c a :=
    let next := act a.1 a.2 c.store (c.locals a.1)
    (⟨next.1, Function.update c.locals a.1 next.2⟩, ())

section Steps

variable [DecidableEq ι] {act : ThreadStep ι α σ ℓ}

/-- What one step of an interleaving does: the moving thread acts, the others
keep their local states. -/
theorem interleave_step {e : Event (Config ι σ ℓ) (ι × α) Unit}
    (step : (interleave act).step e.before e.input = (e.after, e.output)) :
    act e.input.1 e.input.2 e.before.store (e.before.locals e.input.1) =
        (e.after.store, e.after.locals e.input.1) ∧
      ∀ j, j ≠ e.input.1 → e.after.locals j = e.before.locals j := by
  have after := (congrArg Prod.fst step).symm
  simp only [interleave] at after
  rw [after]
  exact ⟨by simp, fun j other => by simp [Function.update_of_ne other]⟩

end Steps

/-- What holds of the thread that has moved, and held of the others, holds of
all. -/
theorem forall_locals {P : ι → ℓ → Prop} {before after : ι → ℓ} {i : ι}
    (others : ∀ j, j ≠ i → after j = before j) (moved : P i (after i))
    (kept : ∀ j, j ≠ i → P j (before j)) (j : ι) : P j (after j) := by
  by_cases same : j = i
  · rw [same]
    exact moved
  · rw [others j same]
    exact kept j same

/-- A step either leaves the store and its thread's decision alone, or decides
its thread by executing the whole request on the store at once. -/
def Linear (serial : Machine σ ι χ) (decided : ℓ → Option χ)
    (e : Event (Config ι σ ℓ) (ι × α) Unit) : Prop :=
  (e.after.store = e.before.store ∧
      decided (e.after.locals e.input.1) = decided (e.before.locals e.input.1)) ∨
    (decided (e.before.locals e.input.1) = none ∧
      ∃ answer, decided (e.after.locals e.input.1) = some answer ∧
        serial.step e.before.store e.input.1 = (e.after.store, answer))

section Linearize

variable {serial : Machine σ ι χ} {decided : ℓ → Option χ}

/-- The threads that are decided between two configurations, in an order in which they
execute serially with the same answers and the same store. Threads that are decided
before keep their answer. -/
structure SerialOrder (serial : Machine σ ι χ) (decided : ℓ → Option χ)
    (first final : Config ι σ ℓ) (order : List ι) : Prop where
  nodup : order.Nodup
  mem : ∀ i, i ∈ order ↔
    decided (first.locals i) = none ∧ (decided (final.locals i)).isSome
  kept : ∀ i answer, decided (first.locals i) = some answer →
    decided (final.locals i) = some answer
  store : serial.run first.store order = final.store
  answers : ∀ e ∈ serial.history first.store order,
    decided (final.locals e.input) = some e.output

namespace SerialOrder

variable {first next final : Config ι σ ℓ} {order : List ι} {i : ι}

theorem refl : SerialOrder serial decided first first [] := by
  refine ⟨List.nodup_nil, fun i => ?_, fun i answer given => given, rfl, by simp⟩
  cases decided (first.locals i) <;> simp

/-- Behind a silent step the serial execution of the rest serves unchanged. -/
theorem silent (rest : SerialOrder serial decided next final order)
    (others : ∀ j, j ≠ i → next.locals j = first.locals j) (sameStore : next.store = first.store)
    (sameDecision : decided (next.locals i) = decided (first.locals i)) :
    SerialOrder serial decided first final order := by
  have same : ∀ j, decided (next.locals j) = decided (first.locals j) := by
    intro j
    by_cases moved : j = i
    · rw [moved, sameDecision]
    · rw [others j moved]
  obtain ⟨nodup, mem, kept, store, answers⟩ := rest
  rw [sameStore] at store answers
  refine ⟨nodup, fun j => ?_, fun j answer given => kept j answer ?_, store, answers⟩
  · rw [mem j, same j]
  · rw [same j, given]

/-- The thread of a deciding step comes first in the serial execution. -/
theorem deciding {answer : χ} (rest : SerialOrder serial decided next final order)
    (others : ∀ j, j ≠ i → next.locals j = first.locals j)
    (undecided : decided (first.locals i) = none) (decides : decided (next.locals i) = some answer)
    (whole : serial.step first.store i = (next.store, answer)) :
    SerialOrder serial decided first final (i :: order) := by
  have absent : i ∉ order := by
    intro present
    have unanswered := ((rest.mem i).mp present).1
    rw [decides] at unanswered
    cases unanswered
  have answered := rest.kept i answer decides
  refine ⟨List.nodup_cons.mpr ⟨absent, rest.nodup⟩, fun j => ?_, fun j answer' given => ?_, ?_, ?_⟩
  · rw [List.mem_cons, rest.mem j]
    by_cases moved : j = i
    · rw [moved, undecided, answered]
      simp
    · rw [others j moved]
      simp [moved]
  · by_cases moved : j = i
    · rw [moved, undecided] at given
      cases given
    · exact rest.kept j answer' (by rw [others j moved, given])
  · rw [Machine.run_cons, whole]
    exact rest.store
  · intro e mem
    rw [Machine.history_cons, List.mem_cons, whole] at mem
    rcases mem with rfl | later
    · rw [Machine.event_input, Machine.event_output, whole]
      exact answered
    · exact rest.answers e later

end SerialOrder

variable [DecidableEq ι] {act : ThreadStep ι α σ ℓ}

/-- The threads decided by a run of linear steps, listed in the order of their
deciding steps, execute serially with the same answers and the same store. -/
theorem linearize_from {c : Config ι σ ℓ} {schedule : List (ι × α)}
    (linear : ∀ e ∈ (interleave act).history c schedule, Linear serial decided e) :
    ∃ order, SerialOrder serial decided c ((interleave act).run c schedule) order := by
  induction schedule generalizing c with
  | nil => exact ⟨[], .refl⟩
  | cons a schedule ih =>
      have head := linear ((interleave act).event c a) (by simp)
      have others := (interleave_step (e := (interleave act).event c a) rfl).2
      obtain ⟨order, rest⟩ := ih fun e mem => linear e (List.mem_cons_of_mem _ mem)
      rcases head with ⟨sameStore, sameDecision⟩ | ⟨undecided, answer, decides, whole⟩
      · exact ⟨order, rest.silent others sameStore sameDecision⟩
      · exact ⟨a.1 :: order, rest.deciding others undecided decides whole⟩

/-- Linearization of a complete run: when no thread was decided at the start and
every thread is decided at the end, all requests execute serially with the same
answers and the same final store. -/
theorem linearize {c : Config ι σ ℓ} {schedule : List (ι × α)}
    (start : ∀ i, decided (c.locals i) = none)
    (complete : ∀ i, (decided (((interleave act).run c schedule).locals i)).isSome)
    (linear : ∀ e ∈ (interleave act).history c schedule, Linear serial decided e) :
    ∃ order : List ι, order.Nodup ∧ (∀ i, i ∈ order) ∧
      serial.run c.store order = ((interleave act).run c schedule).store ∧
      ∀ e ∈ serial.history c.store order,
        decided (((interleave act).run c schedule).locals e.input) = some e.output := by
  obtain ⟨order, serialOrder⟩ := linearize_from linear
  exact ⟨order, serialOrder.nodup, fun i => (serialOrder.mem i).mpr ⟨start i, complete i⟩,
    serialOrder.store, serialOrder.answers⟩

end Linearize

end CoupangEats.Base
