import Mathlib.Tactic.TypeStar

/-!
Transactional methods.

The body of a transactional method works on its own copy of the store. It may
send notices at once, and it may register notices to be sent when the
transaction commits. `transactional` is the wrapper around it: a body that fails
or whose commit fails leaves the store as it was; what it has already sent stays
sent, and what it has registered is dropped.
-/

namespace CoupangEats.Base

variable {σ ε ν α : Type*}

/-- What the body of a transactional method leaves behind. -/
structure Body (σ ε ν α : Type*) where
  result : Except ε α
  store : σ
  sent : List ν
  onCommit : List ν

/-- What a call leaves behind: its answer, the store and the notices sent. -/
structure Outcome (σ ε ν α : Type*) where
  result : Except ε α
  store : σ
  sent : List ν

/-- The call did what it was asked to do. -/
def Outcome.Accepted (out : Outcome σ ε ν α) : Prop := ∃ a, out.result = .ok a

instance (out : Outcome σ ε ν α) : Decidable out.Accepted :=
  match h : out.result with
  | .ok a => isTrue ⟨a, h⟩
  | .error e => isFalse fun accepted => by
      obtain ⟨a, ok⟩ := accepted
      rw [h] at ok
      cases ok

/-- Run a body as a transaction on the store `before`. -/
def transactional (commitFails : Bool) (refused : ε) (before : σ) (body : Body σ ε ν α) :
    Outcome σ ε ν α :=
  match body.result with
  | .error e => ⟨.error e, before, body.sent⟩
  | .ok a =>
      if commitFails then ⟨.error refused, before, body.sent⟩
      else ⟨.ok a, body.store, body.sent ++ body.onCommit⟩

variable {commitFails : Bool} {refused : ε} {before : σ} {body : Body σ ε ν α}

/-- A call is accepted exactly when its body succeeds and the commit does. -/
theorem transactional_eq_ok {a : α} :
    (transactional commitFails refused before body).result = .ok a ↔
      body.result = .ok a ∧ commitFails = false := by
  unfold transactional
  split
  · rename_i e failed
    simp [failed]
  · rename_i b succeeded
    cases commitFails <;> simp [succeeded]

/-- An accepted call leaves the store of its body. -/
theorem transactional_store {a : α}
    (accepted : (transactional commitFails refused before body).result = .ok a) :
    (transactional commitFails refused before body).store = body.store := by
  obtain ⟨succeeded, committed⟩ := transactional_eq_ok.mp accepted
  simp [transactional, succeeded, committed]

/-- A call that is not accepted leaves the store as it was. -/
theorem transactional_rollback
    (refusal : ¬ (transactional commitFails refused before body).Accepted) :
    (transactional commitFails refused before body).store = before := by
  unfold transactional at refusal ⊢
  split
  · rfl
  · rename_i a succeeded
    cases commitFails with
    | true => rfl
    | false => exact absurd ⟨a, by simp [succeeded]⟩ refusal

end CoupangEats.Base
