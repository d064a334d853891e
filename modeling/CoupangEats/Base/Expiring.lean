import Mathlib.Logic.Function.Basic
import Mathlib.Tactic.SplitIfs

/-!
A key-value store whose keys expire.

`set` stores a value that never expires, `expire` gives a stored key a time to
live (none at all deletes it), `del` deletes, and `get` reads what has not
expired. `Holds` is what a key has been set to, expired or not: it says nothing
about time, so invariants about the values a key can ever be read as are stated
with it (`holds_of_get`).
-/

namespace CoupangEats.Base

/-- A stored value, and the last moment at which it can be read. -/
structure Entry (ν : Type) where
  value : ν
  expires : Option Int

/-- A store with expiring keys. -/
abbrev Expiring (κ ν : Type) := κ → Option (Entry ν)

namespace Expiring

variable {κ ν : Type}

/-- The store without keys. -/
def empty : Expiring κ ν := fun _ => none

/-- What a key reads as at the time `now`. -/
def get (s : Expiring κ ν) (now : Int) (k : κ) : Option ν :=
  match s k with
  | none => none
  | some entry => if entry.expires.any (· < now) then none else some entry.value

/-- What a key has been set to. -/
def Holds (s : Expiring κ ν) (k : κ) (v : ν) : Prop := ∃ expires, s k = some ⟨v, expires⟩

theorem holds_of_get {s : Expiring κ ν} {now : Int} {k : κ} {v : ν} (found : s.get now k = some v) :
    s.Holds k v := by
  unfold get at found
  split at found
  · cases found
  · rename_i entry stored
    split at found
    · cases found
    · cases found
      exact ⟨entry.expires, stored⟩

/-- A key is read from its own entry. -/
theorem get_congr {s s' : Expiring κ ν} {k : κ} (same : s' k = s k) (now : Int) :
    s'.get now k = s.get now k := by
  simp only [get, same]

/-- What is read later could be read before. -/
theorem get_earlier {s : Expiring κ ν} {now later : Int} {k : κ} {v : ν} (order : now ≤ later)
    (found : s.get later k = some v) : s.get now k = some v := by
  unfold get at found ⊢
  split at found
  · cases found
  · rename_i entry stored
    cases expires : entry.expires with
    | none => simpa [expires] using found
    | some last =>
        simp only [expires, Option.any_some, decide_eq_true_eq] at found ⊢
        split_ifs at found with gone
        rw [if_neg (by omega), found]

theorem not_holds_empty (k : κ) (v : ν) : ¬ (empty : Expiring κ ν).Holds k v :=
  fun ⟨_, stored⟩ => by cases stored

section Update

variable [DecidableEq κ]

/-- `SET key value`. -/
def set (s : Expiring κ ν) (k : κ) (v : ν) : Expiring κ ν :=
  Function.update s k (some ⟨v, none⟩)

/-- `DEL key`. -/
def del (s : Expiring κ ν) (k : κ) : Expiring κ ν := Function.update s k none

/-- `EXPIRE key ttl`, with the time to live in the unit of the clock. -/
def expire (s : Expiring κ ν) (now : Int) (k : κ) (ttl : Int) : Expiring κ ν :=
  match s.get now k with
  | none => s
  | some v => Function.update s k (if ttl ≤ 0 then none else some ⟨v, some (now + ttl)⟩)

variable {s : Expiring κ ν} {now : Int} {k k' : κ} {v v' : ν}

theorem holds_set : (s.set k v).Holds k' v' ↔ if k' = k then v' = v else s.Holds k' v' := by
  unfold Holds set
  split
  · rename_i same
    subst same
    simp [eq_comm]
  · rename_i other
    simp [Function.update_of_ne other]

theorem holds_of_del (holds : (s.del k).Holds k' v') : s.Holds k' v' := by
  obtain ⟨expires, stored⟩ := holds
  unfold del at stored
  by_cases same : k' = k
  · subst same
    simp at stored
  · rw [Function.update_of_ne same] at stored
    exact ⟨expires, stored⟩

theorem not_holds_del : ¬ (s.del k).Holds k v := by
  rintro ⟨expires, stored⟩
  rw [del, Function.update_self] at stored
  cases stored

theorem holds_of_expire {ttl : Int} (holds : (s.expire now k ttl).Holds k' v') :
    s.Holds k' v' := by
  unfold expire at holds
  split at holds
  · exact holds
  · rename_i v found
    obtain ⟨expires, stored⟩ := holds
    by_cases same : k' = k
    · subst same
      rw [Function.update_self] at stored
      split at stored
      · cases stored
      · cases stored
        exact holds_of_get found
    · rw [Function.update_of_ne same] at stored
      exact ⟨expires, stored⟩

/-- Each command changes the entry of its own key only. -/
theorem set_of_ne (other : k' ≠ k) : (s.set k v) k' = s k' := Function.update_of_ne other _ _

theorem del_of_ne (other : k' ≠ k) : (s.del k) k' = s k' := Function.update_of_ne other _ _

theorem expire_of_ne {ttl : Int} (other : k' ≠ k) : (s.expire now k ttl) k' = s k' := by
  cases found : s.get now k with
  | none => simp only [expire, found]
  | some v =>
      simp only [expire, found]
      exact Function.update_of_ne other _ _

@[simp] theorem get_set : (s.set k v).get now k' = if k' = k then some v else s.get now k' := by
  unfold get set
  by_cases same : k' = k
  · subst same
    simp
  · simp [same]

/-- A key that expires later is read until then. -/
theorem get_expire {later ttl : Int} (found : s.get now k = some v) (positive : 0 < ttl)
    (early : later ≤ now + ttl) : (s.expire now k ttl).get later k = some v := by
  have stored : s.expire now k ttl = Function.update s k (some ⟨v, some (now + ttl)⟩) := by
    simp only [expire, found, if_neg (Int.not_le.mpr positive)]
  simp only [stored, get, Function.update_self, Option.any_some, decide_eq_true_eq,
    if_neg (Int.not_lt.mpr early)]

/-- A key cannot be read once it has expired. -/
theorem get_expire_late {later ttl : Int} (found : s.get now k = some v)
    (late : now + ttl < later) : (s.expire now k ttl).get later k = none := by
  have stored : s.expire now k ttl =
      Function.update s k (if ttl ≤ 0 then none else some ⟨v, some (now + ttl)⟩) := by
    simp only [expire, found]
  simp only [stored, get, Function.update_self]
  by_cases positive : ttl ≤ 0
  · simp [positive]
  · simp [positive, late]

end Update

end Expiring

end CoupangEats.Base
