import CoupangEats.Base.Interleave

/-!
Programs that run beside one another.

A `Program` is what is left of a request: its answer, or its next atomic step, which may
look at the store and change it, and what comes then. Programs on one store interleave
step by step (`concurrent`).

They are verified one at a time, by what they rely on and what they guarantee. A
`Discipline` is an invariant of the store with a preorder that says how the store may
move. `Guards` follows one program through its steps: before each of them the others may
have moved the store in any way that the discipline permits, and the step itself has to
keep the discipline. Programs that are guarded one by one keep it together under every
schedule, and each answer is what its program promises (`concurrent_guards`).
-/

namespace CoupangEats.Base

variable {ι σ χ : Type*}

/-- What is left of a request. -/
inductive Program (σ χ : Type*) where
  | done (answer : χ)
  | step (write : σ → σ) (next : σ → Program σ χ)

namespace Program

/-- A step that only looks at the store. -/
def read (next : σ → Program σ χ) : Program σ χ := .step id next

/-- A last step, which leaves a store and an answer. -/
def write (run : σ → σ × χ) : Program σ χ := .step (fun s => (run s).1) fun s => .done (run s).2

/-- The program on its own. -/
def alone : Program σ χ → σ → σ × χ
  | .done answer, s => (s, answer)
  | .step write next, s => (next s).alone (write s)

@[simp] theorem alone_done (answer : χ) (s : σ) : (done answer).alone s = (s, answer) := rfl

@[simp] theorem alone_read (next : σ → Program σ χ) (s : σ) :
    (read next).alone s = (next s).alone s := rfl

@[simp] theorem alone_write (run : σ → σ × χ) (s : σ) : (write run).alone s = run s := rfl

/-- The next step of a program. -/
def act : ThreadStep ι Unit σ (Program σ χ)
  | _, _, s, .done answer => (s, .done answer)
  | _, _, s, .step write next => (write s, next s)

end Program

/-- The interleavings of programs. -/
abbrev concurrent [DecidableEq ι] : Machine (Config ι σ (Program σ χ)) (ι × Unit) Unit :=
  interleave Program.act

/-- What everybody keeps: an invariant, and how the store may move. -/
structure Discipline (σ : Type*) where
  Inv : σ → Prop
  Moves : σ → σ → Prop
  refl : ∀ s, Moves s s
  trans : ∀ {s t u}, Moves s t → Moves t u → Moves s u

namespace Program

variable {d : Discipline σ} {post : χ → σ → Prop} {p : Program σ χ} {s t : σ}

/-- The program keeps the discipline beside others that keep it, from a store on, and what
it promises of its answer holds from then on. -/
def Guards (d : Discipline σ) (post : χ → σ → Prop) : Program σ χ → σ → Prop
  | .done answer, s => ∀ t, d.Moves s t → d.Inv t → post answer t
  | .step write next, s => ∀ t, d.Moves s t → d.Inv t →
      d.Moves t (write t) ∧ d.Inv (write t) ∧ (next t).Guards d post (write t)

/-- Others may move the store. -/
theorem Guards.moves (guards : p.Guards d post s) (moves : d.Moves s t) :
    p.Guards d post t := by
  cases p with
  | done answer => exact fun u later inv => guards u (d.trans moves later) inv
  | step write next => exact fun u later inv => guards u (d.trans moves later) inv

theorem guards_done {answer : χ} (stable : ∀ t, d.Moves s t → d.Inv t → post answer t) :
    (done answer).Guards d post s :=
  stable

theorem guards_read {next : σ → Program σ χ}
    (reads : ∀ t, d.Moves s t → d.Inv t → (next t).Guards d post t) :
    (read next).Guards d post s :=
  fun t moves inv => ⟨d.refl t, inv, reads t moves inv⟩

theorem guards_write {run : σ → σ × χ}
    (writes : ∀ t, d.Moves s t → d.Inv t → d.Moves t (run t).1 ∧ d.Inv (run t).1 ∧
      ∀ u, d.Moves (run t).1 u → d.Inv u → post (run t).2 u) :
    (write run).Guards d post s :=
  writes

/-- A step of a guarded program keeps the discipline, and what is left is guarded. -/
theorem Guards.act {i : ι} (guards : p.Guards d post s) (inv : d.Inv s) :
    d.Moves s (Program.act i () s p).1 ∧ d.Inv (Program.act i () s p).1 ∧
      (Program.act i () s p).2.Guards d post (Program.act i () s p).1 := by
  cases p with
  | done answer => exact ⟨d.refl s, inv, guards⟩
  | step write next => exact guards s (d.refl s) inv

end Program

open Program

section Concurrent

variable [DecidableEq ι] {d : Discipline σ} {programs : ι → Program σ χ}
  {post : ι → χ → σ → Prop} {s : σ}

/-- Where programs that are guarded have got to. -/
structure Together (d : Discipline σ) (post : ι → χ → σ → Prop) (s : σ)
    (c : Config ι σ (Program σ χ)) : Prop where
  inv : d.Inv c.store
  moves : d.Moves s c.store
  guards : ∀ i, (c.locals i).Guards d (post i) c.store

/-- One step of one of the programs. -/
theorem Together.step {e : Event (Config ι σ (Program σ χ)) (ι × Unit) Unit}
    (step : concurrent.step e.before e.input = (e.after, e.output))
    (together : Together d post s e.before) : Together d post s e.after := by
  obtain ⟨acts, others⟩ := interleave_step step
  obtain ⟨moves, inv, guards⟩ :=
    (together.guards e.input.1).act (i := e.input.1) together.inv
  rw [acts] at moves inv guards
  refine ⟨inv, d.trans together.moves moves, ?_⟩
  exact forall_locals (P := fun j p => p.Guards d (post j) e.after.store) others guards
    fun j _ => (together.guards j).moves moves

/-- Programs that are guarded one by one keep the discipline together, and their answers
are what they promise. -/
theorem concurrent_guards (start : d.Inv s) (guards : ∀ i, (programs i).Guards d (post i) s)
    (schedule : List (ι × Unit)) :
    let final := concurrent.run ⟨s, programs⟩ schedule
    d.Inv final.store ∧ d.Moves s final.store ∧
      ∀ i answer, final.locals i = .done answer → post i answer final.store := by
  have together : Together d post s (concurrent.run ⟨s, programs⟩ schedule) :=
    (Machine.history_invariant (Together d post s) (fun _ => True)
      (fun _ step _ together => together.step step) ⟨start, d.refl s, guards⟩ fun _ _ => trivial).1
  refine ⟨together.inv, together.moves, fun i answer answered => ?_⟩
  have promised := together.guards i
  rw [answered] at promised
  exact promised _ (d.refl _) together.inv

end Concurrent

end CoupangEats.Base
