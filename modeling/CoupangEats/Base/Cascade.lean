import CoupangEats.Base.Schema

/-!
Deleting rows under foreign keys.

A row that is deleted takes along the rows that refer to it by a foreign key with
`CASCADE`, and the rows of those; references with `SET NULL` to rows that go are lost,
and a reference with no action stands in the way. What is left refers to rows that are
there (`Integral.delete`).
-/

namespace CoupangEats.Base

variable {κ : Type}

/-- The rows of the tables: what the columns of each refer to. -/
abbrev Rows (κ : Type) := String → κ → Option (String → Option κ)

section Cascade

variable (keys : List ForeignKey) (rows : Rows κ) (selected : String → κ → Prop)

/-- The row goes when the selected ones are deleted. -/
inductive Goes : String → κ → Prop
  | selected {table k} (stored : (rows table k).isSome) (chosen : selected table k) : Goes table k
  | cascade {key k row target} (mem : key ∈ keys) (cascades : key.onDelete = .cascade)
      (stored : rows key.table k = some row) (refers : row key.column = some target)
      (gone : Goes key.target target) : Goes key.table k

/-- A row refers without an action to one that goes. -/
def Refused : Prop :=
  ∃ key ∈ keys, key.onDelete = .noAction ∧ ∃ k row target, rows key.table k = some row ∧
    row key.column = some target ∧ Goes keys rows selected key.target target

/-- The value of the column is lost with the row that it refers to. -/
def Nulled (table column : String) (value : Option κ) : Prop :=
  ∃ key ∈ keys, key.onDelete = .setNull ∧ key.table = table ∧ key.column = column ∧
    ∃ target, value = some target ∧ Goes keys rows selected key.target target

open Classical in
/-- `DELETE` of the selected rows, when it is not refused. -/
noncomputable def deleteRows : Rows κ := fun table k =>
  if Goes keys rows selected table k then none
  else (rows table k).map fun row column =>
    if Nulled keys rows selected table column (row column) then none else row column

/-- Every reference is to a row that is there. -/
def Integral : Prop :=
  ∀ key ∈ keys, ∀ k row target, rows key.table k = some row → row key.column = some target →
    (rows key.target target).isSome

variable {keys rows selected}

theorem deleteRows_of_goes {table : String} {k : κ} (goes : Goes keys rows selected table k) :
    deleteRows keys rows selected table k = none :=
  if_pos goes

/-- A row that stays and loses nothing. -/
theorem deleteRows_of_kept {table : String} {k : κ} (stays : ¬ Goes keys rows selected table k)
    (kept : ∀ column value, ¬ Nulled keys rows selected table column value) :
    deleteRows keys rows selected table k = rows table k := by
  rw [deleteRows, if_neg stays]
  cases rows table k with
  | none => rfl
  | some row =>
      rw [Option.map_some, Option.some.injEq]
      exact funext fun column => if_neg (kept column (row column))

theorem deleteRows_eq_some {table : String} {k : κ} {after : String → Option κ} :
    deleteRows keys rows selected table k = some after ↔
      ¬ Goes keys rows selected table k ∧ ∃ row, rows table k = some row ∧
        ∀ column, (¬ Nulled keys rows selected table column (row column) →
          after column = row column) ∧
          (Nulled keys rows selected table column (row column) → after column = none) := by
  unfold deleteRows
  split_ifs with goes
  · simp [goes]
  · rw [Option.map_eq_some_iff]
    constructor
    · rintro ⟨row, stored, rfl⟩
      exact ⟨goes, row, stored, fun column => ⟨fun kept => if_neg kept, fun lost => if_pos lost⟩⟩
    · rintro ⟨-, row, stored, same⟩
      refine ⟨row, stored, funext fun column => ?_⟩
      split_ifs with lost
      · exact ((same column).2 lost).symm
      · exact ((same column).1 lost).symm

/-- A reference that is left was there before. -/
theorem deleteRows_refers {table column : String} {k target : κ} {after : String → Option κ}
    (stays : deleteRows keys rows selected table k = some after)
    (refers : after column = some target) :
    ¬ Goes keys rows selected table k ∧ ∃ row, rows table k = some row ∧
      row column = some target ∧
        ¬ Nulled keys rows selected table column (some target) := by
  obtain ⟨kept, row, stored, same⟩ := deleteRows_eq_some.mp stays
  have unlost : ¬ Nulled keys rows selected table column (row column) := by
    intro lost
    rw [(same column).2 lost] at refers
    cases refers
  have here : row column = some target := by rw [← (same column).1 unlost, refers]
  exact ⟨kept, row, stored, here, here ▸ unlost⟩

/-- A deletion that is not refused leaves no reference to a row that has gone. -/
theorem Integral.delete (integral : Integral keys rows) (allowed : ¬ Refused keys rows selected) :
    Integral keys (deleteRows keys rows selected) := by
  intro key mem k after target stays refers
  obtain ⟨kept, row, stored, here, unlost⟩ := deleteRows_refers stays refers
  have there := integral key mem k row target stored here
  have target_kept : ¬ Goes keys rows selected key.target target := by
    intro gone
    cases action : key.onDelete with
    | cascade => exact kept (.cascade mem action stored here gone)
    | setNull => exact unlost ⟨key, mem, action, rfl, rfl, target, rfl, gone⟩
    | noAction => exact allowed ⟨key, mem, action, k, row, target, stored, here, gone⟩
  obtain ⟨found, stored'⟩ := Option.isSome_iff_exists.mp there
  rw [deleteRows, if_neg target_kept, stored']
  rfl

end Cascade

end CoupangEats.Base
