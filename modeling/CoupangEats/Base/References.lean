import CoupangEats.Base.Save

/-!
Foreign keys and unique indexes.

A table whose rows carry the keys of rows of another one refers to it (`Refers`);
the relation says what a row and the row it refers to have to do with each other.
A unique index tells the rows of a table apart (`Indexed`). Both are kept when a
row is put at its key (`Puts`) that looks after its own references and its own
value of the index, and when the row that is put in place of another one still
suits the rows that refer to it. Rows without a reference, or without a value for
the index, are left out of account.
-/

namespace CoupangEats.Base

namespace Table

variable {κ κ' ι ρ ρ' : Type} {key : ρ → κ} {key' : ρ' → κ'}

/-! ### Putting a row -/

section Puts

variable [DecidableEq κ] {t t' : Table κ ρ key} {row : ρ}

/-- `t'` is `t` with the row at its key. -/
def Puts (t : Table κ ρ key) (row : ρ) (t' : Table κ ρ key) : Prop :=
  ∀ k, t'.find? k = if k = key row then some row else t.find? k

theorem puts_insert (inserted : t.insert row = some t') : t.Puts row t' :=
  find?_insert inserted

/-- A change of a stored row puts what it makes of it. -/
theorem puts_modify {old : ρ} {k : κ} {f : ρ → ρ} {keeps : ∀ r, key r = k → key (f r) = k}
    (stored : t.find? k = some old) (same : f old = row) : t.Puts row (t.modify k f keeps) := by
  have here : key row = k := by
    rw [← same]
    exact keeps old (key_of_find? stored)
  intro k'
  rw [find?_modify, here, stored, Option.map_some, same]

theorem Puts.stored (puts : t.Puts row t') : t'.find? (key row) = some row := by
  rw [puts, if_pos rfl]

theorem Puts.mem (puts : t.Puts row t') {other : ρ} :
    other ∈ t'.rows ↔ other = row ∨ other ∈ t.rows ∧ key other ≠ key row := by
  have stored (t : Table κ ρ key) : other ∈ t.rows ↔ t.find? (key other) = some other := by
    rw [find?_eq_some_iff, and_iff_left rfl]
  rw [stored t', stored t, puts]
  split
  · rename_i same
    rw [Option.some.injEq, eq_comm]
    exact ⟨.inl, fun given => given.resolve_right fun apart => apart.2 same⟩
  · rename_i apart
    constructor
    · exact fun found => .inr ⟨found, apart⟩
    · rintro (rfl | ⟨found, -⟩)
      · exact absurd rfl apart
      · exact found

/-- What holds of the row that is put and of the old ones holds of all. -/
theorem Puts.forall {P : ρ → Prop} (puts : t.Puts row t') (old : ∀ r ∈ t.rows, P r)
    (new : P row) : ∀ r ∈ t'.rows, P r := by
  intro r mem
  rcases puts.mem.mp mem with rfl | ⟨stored, -⟩
  · exact new
  · exact old r stored

/-- Rows of a kind that neither the row that is put nor the one in its place is of are
there as before. -/
theorem Puts.mem_of_other (puts : t.Puts row t') (P : ρ → Prop) (new : ¬ P row)
    (old : ∀ r, t.find? (key row) = some r → ¬ P r) {r : ρ} (other : P r) :
    r ∈ t'.rows ↔ r ∈ t.rows := by
  rw [puts.mem]
  constructor
  · rintro (rfl | ⟨mem, -⟩)
    · exact absurd other new
    · exact mem
  · intro mem
    refine .inr ⟨mem, fun same => ?_⟩
    exact old r (same ▸ find?_of_mem mem) other

end Puts

/-! ### References -/

section Refers

variable [DecidableEq κ'] {t t' : Table κ ρ key} {u u' : Table κ' ρ' key'}
  {ref : ρ → Option κ'} {suits : ρ → ρ' → Prop}

/-- Every reference is the key of a row of the other table, which suits. -/
def Refers (t : Table κ ρ key) (ref : ρ → Option κ') (u : Table κ' ρ' key')
    (suits : ρ → ρ' → Prop) : Prop :=
  ∀ row ∈ t.rows, ∀ k, ref row = some k → ∃ target, u.find? k = some target ∧ suits row target

/-- A row that is put looks after its own reference. -/
theorem Refers.puts [DecidableEq κ] {row : ρ} (refers : t.Refers ref u suits)
    (puts : t.Puts row t')
    (looked : ∀ k, ref row = some k → ∃ target, u.find? k = some target ∧ suits row target) :
    t'.Refers ref u suits :=
  puts.forall refers looked

/-- A row that is put in the other table suits those that the row in its place has
suited. -/
theorem Refers.target {target : ρ'} (refers : t.Refers ref u suits) (puts : u.Puts target u')
    (still : ∀ old, u.find? (key' target) = some old → ∀ row ∈ t.rows,
      ref row = some (key' target) → suits row old → suits row target) :
    t.Refers ref u' suits := by
  intro row mem k here
  obtain ⟨old, found, suited⟩ := refers row mem k here
  rw [puts]
  split
  · rename_i same
    subst same
    exact ⟨target, rfl, still old found row mem here suited⟩
  · exact ⟨old, found, suited⟩

theorem Refers.filter {p : ρ → Bool} (refers : t.Refers ref u suits) :
    (t.filter p).Refers ref u suits :=
  fun row mem => refers row (mem_filter.mp mem).1

/-- Rows may go from the other table when no reference is to them. -/
theorem Refers.filter_target {p : ρ' → Bool} (refers : t.Refers ref u suits)
    (kept : ∀ row ∈ t.rows, ∀ k target, ref row = some k → u.find? k = some target →
      suits row target → p target = true) : t.Refers ref (u.filter p) suits := by
  intro row mem k here
  obtain ⟨target, found, suited⟩ := refers row mem k here
  refine ⟨target, ?_, suited⟩
  rw [find?_filter, found, Option.filter_some, if_pos (kept row mem k target here found suited)]

end Refers

/-! ### Indexes -/

section Indexed

variable {t t' : Table κ ρ key} {index : ρ → Option ι}

/-- Rows with one value of the index are one row. -/
def Indexed (t : Table κ ρ key) (index : ρ → Option ι) : Prop :=
  ∀ row ∈ t.rows, ∀ other ∈ t.rows, ∀ i, index row = some i → index other = some i → row = other

/-- A row that is put has its value of the index to itself. -/
theorem Indexed.puts [DecidableEq κ] {row : ρ} (indexed : t.Indexed index) (puts : t.Puts row t')
    (unique : ∀ other ∈ t.rows, ∀ i, index row = some i → index other = some i →
      key other = key row) : t'.Indexed index := by
  intro first mem second mem' i here there
  rcases puts.mem.mp mem with rfl | ⟨stored, apart⟩
  · rcases puts.mem.mp mem' with rfl | ⟨stored', apart'⟩
    · rfl
    · exact absurd (unique second stored' i here there) apart'
  · rcases puts.mem.mp mem' with rfl | ⟨stored', -⟩
    · exact absurd (unique first stored i there here) apart
    · exact indexed first stored second stored' i here there

end Indexed

end Table

/-- A save puts its row. -/
theorem Mapping.puts_save {ρ : Type} {key : ρ → String} {m : Mapping ρ key} {accepts : ρ → Bool}
    {generated : String} {t t' : Table String ρ key} {e : Fields} {row : ρ}
    (saved : m.save accepts generated t e = some (row, t')) : t.Puts row t' :=
  m.find?_save saved

end CoupangEats.Base
