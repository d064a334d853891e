import Mathlib.Data.Rat.Init

/-!
JSON values and plain objects.

`Json` is a parsed document; numbers are exact. `Fields` is a plain object as a
list of properties, where a later property of one name replaces an earlier one,
so the object spread of two objects is the concatenation of their properties
(`read_append`). A missing property reads as `none`, the `undefined` of the
language; `null` is a value.
-/

namespace CoupangEats.Base

inductive Json where
  | null
  | bool (value : Bool)
  | num (value : ℚ)
  | str (value : String)
  | arr (items : List Json)
  | obj (fields : List (String × Json))
  deriving Repr

/-- The properties of a plain object. -/
abbrev Fields := List (String × Json)

namespace Json

mutual
def decEq : (a b : Json) → Decidable (a = b)
  | .null, .null => isTrue rfl
  | .bool a, .bool b => decidable_of_iff (a = b) (by simp)
  | .num a, .num b => decidable_of_iff (a = b) (by simp)
  | .str a, .str b => decidable_of_iff (a = b) (by simp)
  | .arr a, .arr b =>
      match decEqItems a b with
      | isTrue h => isTrue (by rw [h])
      | isFalse h => isFalse (by simpa using h)
  | .obj a, .obj b =>
      match decEqFields a b with
      | isTrue h => isTrue (by rw [h])
      | isFalse h => isFalse (by simpa using h)
  | .null, .bool _ | .null, .num _ | .null, .str _ | .null, .arr _ | .null, .obj _
  | .bool _, .null | .bool _, .num _ | .bool _, .str _ | .bool _, .arr _ | .bool _, .obj _
  | .num _, .null | .num _, .bool _ | .num _, .str _ | .num _, .arr _ | .num _, .obj _
  | .str _, .null | .str _, .bool _ | .str _, .num _ | .str _, .arr _ | .str _, .obj _
  | .arr _, .null | .arr _, .bool _ | .arr _, .num _ | .arr _, .str _ | .arr _, .obj _
  | .obj _, .null | .obj _, .bool _ | .obj _, .num _ | .obj _, .str _ | .obj _, .arr _ =>
      isFalse (by simp)

def decEqItems : (a b : List Json) → Decidable (a = b)
  | [], [] => isTrue rfl
  | [], _ :: _ => isFalse (by simp)
  | _ :: _, [] => isFalse (by simp)
  | a :: as, b :: bs =>
      match decEq a b, decEqItems as bs with
      | isTrue h, isTrue t => isTrue (by rw [h, t])
      | isFalse h, _ => isFalse (by simp [h])
      | _, isFalse t => isFalse (by simp [t])

def decEqFields : (a b : List (String × Json)) → Decidable (a = b)
  | [], [] => isTrue rfl
  | [], _ :: _ => isFalse (by simp)
  | _ :: _, [] => isFalse (by simp)
  | (k, a) :: as, (l, b) :: bs =>
      match decEq a b, decEqFields as bs with
      | isTrue h, isTrue t => decidable_of_iff (k = l) (by simp [h, t])
      | isFalse h, _ => isFalse (by simp [h])
      | _, isFalse t => isFalse (by simp [t])
end

instance : DecidableEq Json := decEq

/-- What a condition makes of a value. -/
def truthy : Json → Bool
  | .null => false
  | .bool value => value
  | .num value => value ≠ 0
  | .str value => value ≠ ""
  | .arr _ => true
  | .obj _ => true

end Json

namespace Fields

/-- The value of a property; the last one of its name counts. -/
def read : Fields → String → Option Json
  | [], _ => none
  | (property, value) :: rest, name =>
      (read rest name).or (if property = name then some value else none)

@[simp] theorem read_nil (name : String) : read [] name = none := rfl

@[simp] theorem read_cons (property : String) (value : Json) (rest : Fields) (name : String) :
    read ((property, value) :: rest) name =
      (read rest name).or (if property = name then some value else none) := rfl

/-- An object without a property of a name has no value for it. -/
theorem read_eq_none {e : Fields} {name : String} (absent : ∀ entry ∈ e, entry.1 ≠ name) :
    read e name = none := by
  induction e with
  | nil => rfl
  | cons entry e ih =>
      obtain ⟨property, value⟩ := entry
      have other : property ≠ name := absent _ List.mem_cons_self
      rw [read_cons, ih fun entry mem => absent entry (List.mem_cons_of_mem _ mem), if_neg other]
      rfl

/-- In a spread of two objects the second one's properties win. -/
theorem read_append (first second : Fields) (name : String) :
    read (first ++ second) name = (read second name).or (read first name) := by
  induction first with
  | nil => simp
  | cons entry first ih =>
      obtain ⟨property, value⟩ := entry
      simp [ih, Option.or_assoc]

/-- What is picked of an object reads as it does there, and nothing else. -/
theorem read_pick (e : Fields) (picks : String → Bool) (name : String) :
    read (e.filter fun entry => picks entry.1) name = if picks name then read e name else none := by
  induction e with
  | nil => simp
  | cons entry e ih =>
      obtain ⟨head, value⟩ := entry
      cases picked : picks head with
      | false =>
          rw [List.filter_cons_of_neg (by simp [picked]), ih]
          split
          · rename_i here
            have other : head ≠ name := by
              rintro rfl
              rw [picked] at here
              cases here
            simp [other]
          · rfl
      | true =>
          rw [List.filter_cons_of_pos (by simp [picked]), read_cons, ih]
          split
          · rfl
          · rename_i here
            have other : head ≠ name := by
              rintro rfl
              exact here picked
            simp [other]

/-- Without a property, only that property reads differently. -/
theorem read_without (e : Fields) (property name : String) :
    read (e.filter fun entry => entry.1 ≠ property) name =
      if name = property then none else read e name := by
  rw [read_pick e fun other => other ≠ property]
  by_cases same : name = property <;> simp [same]

/-- A string property, when the object has one of that name. -/
def readString (e : Fields) (name : String) : Option String :=
  match read e name with
  | some (.str value) => some value
  | _ => none

theorem readString_eq_some {e : Fields} {name value : String} :
    readString e name = some value ↔ read e name = some (.str value) := by
  unfold readString
  split <;> simp_all

end Fields

end CoupangEats.Base
