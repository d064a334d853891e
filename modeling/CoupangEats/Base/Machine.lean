import Mathlib.Data.List.Basic

/-!
Runs of a deterministic machine.

A `Machine` answers inputs one after another; its answers and its next state
depend on nothing else. `history` records a run as events: the state before an
input, the input, the answer and the state after. Safety properties of runs are
stated about the events of a history, and "once this, then that" properties
about the events behind one of them (`history_split`).

* `step_of_mem_history`: every event is one step of the machine.
* `history_invariant`: what every permitted step keeps, every permitted run keeps.
* `history_after`: what one event establishes and later steps keep holds from
  then on.
* `history_until`: so does what the steps between two events keep.
* `history_past`: an invariant may speak of the events so far.
-/

namespace CoupangEats.Base

variable {σ α ω β χ : Type*}

/-- A deterministic machine: a state and an input give a state and an answer. -/
structure Machine (σ α ω : Type*) where
  step : σ → α → σ × ω

/-- One step of a run: the input, the answer, and the state on either side. -/
structure Event (σ α ω : Type*) where
  before : σ
  input : α
  output : ω
  after : σ

namespace Machine

/-- The state a run ends in. -/
def run (m : Machine σ α ω) : σ → List α → σ
  | s, [] => s
  | s, a :: inputs => m.run (m.step s a).1 inputs

/-- The event of one step. -/
def event (m : Machine σ α ω) (s : σ) (a : α) : Event σ α ω :=
  ⟨s, a, (m.step s a).2, (m.step s a).1⟩

/-- The events of a run, in order. -/
def history (m : Machine σ α ω) : σ → List α → List (Event σ α ω)
  | _, [] => []
  | s, a :: inputs => m.event s a :: m.history (m.step s a).1 inputs

/-- Two machines over one state, each with its own inputs. -/
def both (m : Machine σ α ω) (n : Machine σ β χ) : Machine σ (α ⊕ β) (ω ⊕ χ) where
  step s
    | .inl a => ((m.step s a).1, .inl (m.step s a).2)
    | .inr b => ((n.step s b).1, .inr (n.step s b).2)

variable {m : Machine σ α ω}

@[simp] theorem run_nil (s : σ) : m.run s [] = s := rfl

@[simp] theorem run_cons (s : σ) (a : α) (inputs : List α) :
    m.run s (a :: inputs) = m.run (m.step s a).1 inputs := rfl

@[simp] theorem history_nil (s : σ) : m.history s [] = [] := rfl

@[simp] theorem history_cons (s : σ) (a : α) (inputs : List α) :
    m.history s (a :: inputs) = m.event s a :: m.history (m.step s a).1 inputs := rfl

@[simp] theorem event_before (s : σ) (a : α) : (m.event s a).before = s := rfl

@[simp] theorem event_input (s : σ) (a : α) : (m.event s a).input = a := rfl

@[simp] theorem event_output (s : σ) (a : α) : (m.event s a).output = (m.step s a).2 := rfl

@[simp] theorem event_after (s : σ) (a : α) : (m.event s a).after = (m.step s a).1 := rfl

/-- Every event of a history is a step of the machine. -/
theorem step_of_mem_history {s : σ} {inputs : List α} {e : Event σ α ω}
    (mem : e ∈ m.history s inputs) : m.step e.before e.input = (e.after, e.output) := by
  induction inputs generalizing s with
  | nil => simp at mem
  | cons a inputs ih =>
      rcases List.mem_cons.mp mem with rfl | mem
      · rfl
      · exact ih mem

/-- The inputs of a history are those of the run. -/
theorem input_mem {s : σ} {inputs : List α} {e : Event σ α ω} (mem : e ∈ m.history s inputs) :
    e.input ∈ inputs := by
  induction inputs generalizing s with
  | nil => simp at mem
  | cons a inputs ih =>
      rcases List.mem_cons.mp mem with rfl | mem
      · exact List.mem_cons_self
      · exact List.mem_cons_of_mem _ (ih mem)

/-- A history splits where its inputs split: the events behind `e` are the
history of the remaining inputs from the state `e` leaves. -/
theorem history_split {s : σ} {inputs : List α} {first rest : List (Event σ α ω)}
    {e : Event σ α ω} (split : m.history s inputs = first ++ e :: rest) :
    ∃ early late, inputs = early ++ e.input :: late ∧ first = m.history s early ∧
      e.before = m.run s early ∧ rest = m.history e.after late := by
  induction first generalizing s inputs with
  | nil =>
      cases inputs with
      | nil => simp at split
      | cons a inputs =>
          simp only [history_cons, List.nil_append, List.cons.injEq] at split
          obtain ⟨rfl, rfl⟩ := split
          exact ⟨[], inputs, rfl, rfl, rfl, rfl⟩
  | cons f first ih =>
      cases inputs with
      | nil => simp at split
      | cons a inputs =>
          simp only [history_cons, List.cons_append, List.cons.injEq] at split
          obtain ⟨early, late, hinputs, hfirst, hbefore, hrest⟩ := ih split.2
          exact ⟨a :: early, late, by simp [hinputs], by simp [← split.1, hfirst], hbefore, hrest⟩

/-- A step of two machines is a step of one of them. -/
theorem step_both {n : Machine σ β χ} {e : Event σ (α ⊕ β) (ω ⊕ χ)}
    (step : (m.both n).step e.before e.input = (e.after, e.output)) :
    (∃ a w, e.input = .inl a ∧ e.output = .inl w ∧ m.step e.before a = (e.after, w)) ∨
      ∃ b x, e.input = .inr b ∧ e.output = .inr x ∧ n.step e.before b = (e.after, x) := by
  obtain ⟨before, input, output, after⟩ := e
  cases input with
  | inl a =>
      simp only [both, Prod.mk.injEq] at step
      exact .inl ⟨a, _, rfl, step.2.symm, Prod.ext step.1 rfl⟩
  | inr b =>
      simp only [both, Prod.mk.injEq] at step
      exact .inr ⟨b, _, rfl, step.2.symm, Prod.ext step.1 rfl⟩

/-- The inputs of a run follow one another in time: no instant of an input lies
behind one of a later input. -/
def Chronological (instants : α → List Int) (inputs : List α) : Prop :=
  inputs.Pairwise fun a b => ∀ s ∈ instants a, ∀ t ∈ instants b, s ≤ t

/-- What happens in the earlier events of a run happens before what happens in
the later ones. -/
theorem Chronological.order {instants : α → List Int} {s : σ} {inputs : List α}
    {first rest : List (Event σ α ω)} {e : Event σ α ω}
    (chronological : Chronological instants inputs)
    (split : m.history s inputs = first ++ e :: rest) {f g : Event σ α ω} (earlier : f ∈ first)
    (later : g ∈ e :: rest) : ∀ s ∈ instants f.input, ∀ t ∈ instants g.input, s ≤ t := by
  obtain ⟨early, late, rfl, before, -, after⟩ := history_split split
  apply (List.pairwise_append.mp chronological).2.2 f.input (input_mem (before ▸ earlier))
  rcases List.mem_cons.mp later with rfl | later
  · exact List.mem_cons_self
  · exact List.mem_cons_of_mem _ (input_mem (after ▸ later))

theorem run_append (s : σ) (early late : List α) :
    m.run s (early ++ late) = m.run (m.run s early) late := by
  induction early generalizing s with
  | nil => rfl
  | cons a early ih => exact ih _

theorem mem_of_split {s : σ} {inputs : List α} {first rest : List (Event σ α ω)}
    {e : Event σ α ω} (split : m.history s inputs = first ++ e :: rest) :
    e ∈ m.history s inputs := by
  rw [split]
  exact List.mem_append_cons_self

/-- Behind an event the run goes on from the state that it leaves. -/
theorem run_of_split {s : σ} {inputs : List α} {first rest : List (Event σ α ω)}
    {e : Event σ α ω} (split : m.history s inputs = first ++ e :: rest) :
    ∃ late, rest = m.history e.after late ∧ m.run s inputs = m.run e.after late := by
  have step := step_of_mem_history (mem_of_split split)
  obtain ⟨early, late, rfl, -, before, later⟩ := history_split split
  refine ⟨late, later, ?_⟩
  rw [run_append, run_cons, ← before, step]

/-- Two events of a run are one event, or one of them comes later. -/
theorem order_of_mem {l : List α} {a b : α} (ha : a ∈ l) (hb : b ∈ l) :
    a = b ∨ (∃ first rest, l = first ++ a :: rest ∧ b ∈ rest) ∨
      ∃ first rest, l = first ++ b :: rest ∧ a ∈ rest := by
  obtain ⟨first, rest, rfl⟩ := List.append_of_mem ha
  rcases List.mem_append.mp hb with early | late
  · obtain ⟨before, between, rfl⟩ := List.append_of_mem early
    exact .inr (.inr ⟨before, between ++ a :: rest, by simp, by simp⟩)
  · rcases List.mem_cons.mp late with rfl | late
    · exact .inl rfl
    · exact .inr (.inl ⟨first, rest, rfl, late⟩)

/-- An invariant that holds at the start and is kept by every permitted step
holds on both sides of every event of a run whose steps are all permitted. -/
theorem history_invariant (Inv : σ → Prop) (Permitted : Event σ α ω → Prop)
    (keeps : ∀ e : Event σ α ω, m.step e.before e.input = (e.after, e.output) →
      Permitted e → Inv e.before → Inv e.after)
    {s : σ} {inputs : List α} (start : Inv s)
    (permitted : ∀ e ∈ m.history s inputs, Permitted e) :
    Inv (m.run s inputs) ∧ ∀ e ∈ m.history s inputs, Inv e.before ∧ Inv e.after := by
  induction inputs generalizing s with
  | nil => exact ⟨start, by simp⟩
  | cons a inputs ih =>
      have next : Inv (m.step s a).1 :=
        keeps (m.event s a) rfl (permitted _ (by simp)) start
      obtain ⟨final, rest⟩ := ih next fun e mem => permitted e (by simp [mem])
      refine ⟨final, fun e mem => ?_⟩
      rcases List.mem_cons.mp mem with rfl | mem
      · exact ⟨start, next⟩
      · exact rest e mem

/-- What holds after an event and is kept by every permitted step holds before
every later event. -/
theorem history_after (Inv : σ → Prop) (Permitted : Event σ α ω → Prop)
    (keeps : ∀ e : Event σ α ω, m.step e.before e.input = (e.after, e.output) →
      Permitted e → Inv e.before → Inv e.after)
    {s : σ} {inputs : List α} {first rest : List (Event σ α ω)} {e : Event σ α ω}
    (split : m.history s inputs = first ++ e :: rest) (established : Inv e.after)
    (permitted : ∀ f ∈ rest, Permitted f) : ∀ f ∈ rest, Inv f.before := by
  obtain ⟨_, late, -, -, -, rfl⟩ := history_split split
  exact fun f mem => ((history_invariant Inv Permitted keeps established permitted).2 f mem).1

/-- What holds after an event and is kept by every step up to a later event holds
before that. -/
theorem history_until (Inv : σ → Prop) (Permitted : Event σ α ω → Prop)
    (keeps : ∀ e : Event σ α ω, m.step e.before e.input = (e.after, e.output) →
      Permitted e → Inv e.before → Inv e.after)
    {s : σ} {inputs : List α} {first between rest : List (Event σ α ω)} {e f : Event σ α ω}
    (split : m.history s inputs = first ++ e :: (between ++ f :: rest)) (established : Inv e.after)
    (permitted : ∀ g ∈ between, Permitted g) : Inv f.before := by
  obtain ⟨_, late, -, -, -, later⟩ := history_split split
  obtain ⟨early, _, -, rfl, before, -⟩ := history_split later.symm
  rw [before]
  exact (history_invariant Inv Permitted keeps established permitted).1

/-- An invariant of the state and the events so far that every permitted step
keeps holds on both sides of every event of a permitted run, with the events up
to there, and at the end, with all events. -/
theorem history_past (Inv : List (Event σ α ω) → σ → Prop) (Permitted : Event σ α ω → Prop)
    (keeps : ∀ (past : List (Event σ α ω)) (e : Event σ α ω),
      m.step e.before e.input = (e.after, e.output) → Permitted e → Inv past e.before →
      Inv (past ++ [e]) e.after)
    {s : σ} {inputs : List α} (start : Inv [] s)
    (permitted : ∀ e ∈ m.history s inputs, Permitted e) :
    Inv (m.history s inputs) (m.run s inputs) ∧
      ∀ first e rest, m.history s inputs = first ++ e :: rest →
        Inv first e.before ∧ Inv (first ++ [e]) e.after := by
  -- For the induction the events so far are not the whole past.
  suffices general : ∀ past, Inv past s →
      Inv (past ++ m.history s inputs) (m.run s inputs) ∧
        ∀ first e rest, m.history s inputs = first ++ e :: rest →
          Inv (past ++ first) e.before ∧ Inv (past ++ (first ++ [e])) e.after by
    simpa using general [] start
  clear start
  induction inputs generalizing s with
  | nil => exact fun past holds => ⟨by simpa using holds, by simp⟩
  | cons a inputs ih =>
      intro past holds
      have next : Inv (past ++ [m.event s a]) (m.step s a).1 :=
        keeps past (m.event s a) rfl (permitted _ (by simp)) holds
      obtain ⟨final, later⟩ :=
        ih (fun e mem => permitted e (by simp [mem])) (past ++ [m.event s a]) next
      refine ⟨by simpa using final, ?_⟩
      intro first e rest split
      cases first with
      | nil =>
          simp only [history_cons, List.nil_append, List.cons.injEq] at split
          rw [← split.1]
          exact ⟨by simpa using holds, next⟩
      | cons f first =>
          simp only [history_cons, List.cons_append, List.cons.injEq] at split
          rw [← split.1]
          simpa using later first e rest split.2

end Machine

end CoupangEats.Base
