import CoupangEats.Base.Machine

/-!
Replaying a run from its inputs and answers.

Some part of a machine's state may be known to whoever sees the inputs and the
answers of a run: `replay` starts from the part as it was and lets every event
change it by what it shows. Where each step changes the part just so (`Tracks`),
the replay gives the part as it is, at every moment of a run (`replay_history`).
-/

namespace CoupangEats.Base

variable {σ α ω χ : Type*}

/-- What events make of a part of the state, judged by their inputs and answers. -/
def replay (apply : χ → α → ω → χ) : χ → List (Event σ α ω) → χ
  | part, [] => part
  | part, e :: events => replay apply (apply part e.input e.output) events

/-- The event changes the part as its input and answer say. -/
def Tracks (view : σ → χ) (apply : χ → α → ω → χ) (e : Event σ α ω) : Prop :=
  view e.after = apply (view e.before) e.input e.output

section Replay

variable {apply : χ → α → ω → χ}

@[simp] theorem replay_nil (part : χ) : replay apply part ([] : List (Event σ α ω)) = part := rfl

theorem replay_append (part : χ) (first rest : List (Event σ α ω)) :
    replay apply part (first ++ rest) = replay apply (replay apply part first) rest := by
  induction first generalizing part with
  | nil => rfl
  | cons e first ih => exact ih _

end Replay

namespace Machine

variable {m : Machine σ α ω}

/-- In a run whose steps track a part of the state, the part is at every moment
what the events up to there make of the part at the start. -/
theorem replay_history (view : σ → χ) (apply : χ → α → ω → χ) (Inv : σ → Prop)
    (Permitted : Event σ α ω → Prop)
    (keeps : ∀ e : Event σ α ω, m.step e.before e.input = (e.after, e.output) →
      Permitted e → Inv e.before → Inv e.after)
    (tracks : ∀ e : Event σ α ω, m.step e.before e.input = (e.after, e.output) →
      Permitted e → Inv e.before → Tracks view apply e)
    {s : σ} {inputs : List α} (start : Inv s)
    (permitted : ∀ e ∈ m.history s inputs, Permitted e) :
    view (m.run s inputs) = replay apply (view s) (m.history s inputs) ∧
      ∀ first e rest, m.history s inputs = first ++ e :: rest →
        view e.before = replay apply (view s) first ∧
          view e.after = replay apply (view s) (first ++ [e]) := by
  have step (past : List (Event σ α ω)) (e : Event σ α ω)
      (step : m.step e.before e.input = (e.after, e.output)) (allowed : Permitted e)
      (inv : Inv e.before ∧ view e.before = replay apply (view s) past) :
      Inv e.after ∧ view e.after = replay apply (view s) (past ++ [e]) := by
    refine ⟨keeps e step allowed inv.1, ?_⟩
    rw [replay_append, ← inv.2]
    exact tracks e step allowed inv.1
  obtain ⟨final, moments⟩ := Machine.history_past
    (fun past s' => Inv s' ∧ view s' = replay apply (view s) past) Permitted step
    ⟨start, rfl⟩ permitted
  refine ⟨final.2, fun first e rest split => ?_⟩
  obtain ⟨before, after⟩ := moments first e rest split
  exact ⟨before.2, after.2⟩

end Machine

end CoupangEats.Base
