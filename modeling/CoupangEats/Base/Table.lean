import Mathlib.Data.List.Nodup
import Mathlib.Data.Set.Finite.List

/-!
Tables with a primary key.

A `Table` is a list of rows whose keys are pairwise different; the uniqueness
of the key is a field, so no operation can build a table with two rows of one
key. `find?` reads by key, `insert` refuses a key that is taken, `modify` changes
the row of one key, `mapRows` every row, and `filter` deletes. Each operation
has one lemma that says what `find?` reads afterwards; proofs about stores use
these and never the row lists.
-/

namespace CoupangEats.Base

/-- Rows with pairwise different keys. -/
@[ext] structure Table (κ ρ : Type) (key : ρ → κ) where
  rows : List ρ
  unique : (rows.map key).Nodup
  deriving DecidableEq

namespace Table

variable {κ ρ : Type} {key : ρ → κ}

/-- The table without rows. -/
def empty : Table κ ρ key := ⟨[], List.nodup_nil⟩

/-- Change every row, keeping its key. -/
def mapRows (t : Table κ ρ key) (f : ρ → ρ) (keeps : ∀ r, key (f r) = key r) : Table κ ρ key where
  rows := t.rows.map f
  unique := by
    rw [List.map_map, show key ∘ f = key from funext keeps]
    exact t.unique

/-- Delete the rows that do not satisfy `p`. -/
def filter (t : Table κ ρ key) (p : ρ → Bool) : Table κ ρ key where
  rows := t.rows.filter p
  unique := (List.filter_sublist.map key).nodup t.unique

/-- A row of a table is determined by its key. -/
theorem eq_of_key_eq (t : Table κ ρ key) {r r' : ρ} (mem : r ∈ t.rows) (mem' : r' ∈ t.rows)
    (same : key r = key r') : r = r' :=
  List.inj_on_of_nodup_map t.unique mem mem' same

theorem mem_filter {t : Table κ ρ key} {p : ρ → Bool} {r : ρ} :
    r ∈ (t.filter p).rows ↔ r ∈ t.rows ∧ p r = true :=
  List.mem_filter

section Keyed

variable [DecidableEq κ]

/-- The row of a key. -/
def find? (t : Table κ ρ key) (k : κ) : Option ρ := t.rows.find? fun r => key r = k

theorem find?_eq_some_iff {t : Table κ ρ key} {k : κ} {r : ρ} :
    t.find? k = some r ↔ r ∈ t.rows ∧ key r = k := by
  constructor
  · intro found
    exact ⟨List.mem_of_find?_eq_some found, by simpa using List.find?_some found⟩
  · rintro ⟨mem, rfl⟩
    cases found : t.find? (key r) with
    | none =>
        have := List.find?_eq_none.mp found r mem
        simp at this
    | some r' =>
        have mem' := List.mem_of_find?_eq_some found
        have same : key r' = key r := by simpa using List.find?_some found
        rw [t.eq_of_key_eq mem' mem same]

theorem find?_eq_none_iff {t : Table κ ρ key} {k : κ} :
    t.find? k = none ↔ ∀ r ∈ t.rows, key r ≠ k := by
  simp [find?, List.find?_eq_none]

theorem key_of_find? {t : Table κ ρ key} {k : κ} {r : ρ} (found : t.find? k = some r) :
    key r = k :=
  (find?_eq_some_iff.mp found).2

theorem mem_of_find? {t : Table κ ρ key} {k : κ} {r : ρ} (found : t.find? k = some r) :
    r ∈ t.rows :=
  (find?_eq_some_iff.mp found).1

theorem find?_of_mem {t : Table κ ρ key} {r : ρ} (mem : r ∈ t.rows) : t.find? (key r) = some r :=
  find?_eq_some_iff.mpr ⟨mem, rfl⟩

/-- A key selects one row. -/
theorem filter_key {t : Table κ ρ key} {k : κ} {r : ρ} (found : t.find? k = some r) :
    t.rows.filter (fun r' => key r' = k) = [r] := by
  have nodup : (t.rows.filter fun r' => key r' = k).Nodup := t.unique.of_map.filter _
  apply List.perm_singleton.mp
  refine (List.perm_ext_iff_of_nodup nodup (List.nodup_singleton r)).mpr fun r' => ?_
  rw [List.mem_filter, List.mem_singleton, decide_eq_true_iff, ← find?_eq_some_iff, found,
    Option.some.injEq, eq_comm]

@[simp] theorem find?_empty (k : κ) : (empty : Table κ ρ key).find? k = none := rfl

/-- Add a row; a key that is taken is refused. -/
def insert (t : Table κ ρ key) (r : ρ) : Option (Table κ ρ key) :=
  if fresh : t.find? (key r) = none then
    some
      { rows := t.rows ++ [r]
        unique := by
          rw [List.map_append, List.nodup_append]
          refine ⟨t.unique, by simp, ?_⟩
          rintro a mem b hb rfl
          obtain ⟨r', mem', same⟩ := List.mem_map.mp mem
          rw [List.map_singleton, List.mem_singleton] at hb
          exact find?_eq_none_iff.mp fresh r' mem' (same.trans hb) }
  else none

theorem insert_eq_some {t t' : Table κ ρ key} {r : ρ} (inserted : t.insert r = some t') :
    t.find? (key r) = none ∧ t'.rows = t.rows ++ [r] := by
  unfold insert at inserted
  split at inserted
  · rename_i fresh
    cases inserted
    exact ⟨fresh, rfl⟩
  · cases inserted

theorem insert_of_fresh {t : Table κ ρ key} {r : ρ} (fresh : t.find? (key r) = none) :
    ∃ t', t.insert r = some t' := by
  simp [insert, fresh]

/-- Only a taken key is refused. -/
theorem insert_isSome {t : Table κ ρ key} {r : ρ} :
    (t.insert r).isSome = (t.find? (key r)).isNone := by
  cases taken : t.find? (key r) <;> simp [insert, taken]

theorem find?_insert {t t' : Table κ ρ key} {r : ρ} (inserted : t.insert r = some t') (k : κ) :
    t'.find? k = if k = key r then some r else t.find? k := by
  obtain ⟨fresh, rows⟩ := insert_eq_some inserted
  split
  · rename_i same
    subst same
    exact find?_of_mem (by simp [rows])
  · rename_i other
    rw [find?, rows, List.find?_append]
    simp [Ne.symm other, find?]

/-- Change the row of one key. -/
def modify (t : Table κ ρ key) (k : κ) (f : ρ → ρ) (keeps : ∀ r, key r = k → key (f r) = k) :
    Table κ ρ key :=
  t.mapRows (fun r => if key r = k then f r else r) fun r => by
    split
    · rename_i same
      rw [keeps r same, same]
    · rfl

theorem mem_modify {t : Table κ ρ key} {k : κ} {f : ρ → ρ}
    {keeps : ∀ r, key r = k → key (f r) = k} {r' : ρ} :
    r' ∈ (t.modify k f keeps).rows ↔ ∃ r ∈ t.rows, (if key r = k then f r else r) = r' :=
  List.mem_map

theorem find?_mapRows {t : Table κ ρ key} {f : ρ → ρ} {keeps : ∀ r, key (f r) = key r} (k : κ) :
    (t.mapRows f keeps).find? k = (t.find? k).map f := by
  have same : (fun r => decide (key r = k)) ∘ f = fun r => decide (key r = k) := by
    funext r
    simp only [Function.comp_apply, keeps]
  simp only [find?, mapRows, List.find?_map, same]

theorem find?_modify {t : Table κ ρ key} {k : κ} {f : ρ → ρ}
    {keeps : ∀ r, key r = k → key (f r) = k} (k' : κ) :
    (t.modify k f keeps).find? k' = if k' = k then (t.find? k).map f else t.find? k' := by
  rw [modify, find?_mapRows]
  cases found : t.find? k' with
  | none =>
      split
      · rename_i same
        rw [← same, found]
        rfl
      · rfl
  | some r =>
      have hkey := key_of_find? found
      split
      · rename_i same
        rw [← same, found]
        simp [hkey, same]
      · rename_i other
        simp [hkey, other]

/-- Only what a change makes of the row of the key matters. -/
theorem modify_congr {t : Table κ ρ key} {k k' : κ} {f g : ρ → ρ}
    {keepsF : ∀ r, key r = k → key (f r) = k} {keepsG : ∀ r, key r = k' → key (g r) = k'}
    (sameKey : k = k') (same : ∀ r, t.find? k = some r → f r = g r) :
    t.modify k f keepsF = t.modify k' g keepsG := by
  subst sameKey
  have rows : (t.modify k f keepsF).rows = (t.modify k g keepsG).rows := by
    refine List.map_congr_left fun r mem => ?_
    split
    · rename_i here
      exact same r (find?_eq_some_iff.mpr ⟨mem, here⟩)
    · rfl
  exact Table.ext rows

/-- A change that leaves the row of the key as it is changes nothing. -/
theorem modify_self {t : Table κ ρ key} {k : κ} {f : ρ → ρ}
    {keeps : ∀ r, key r = k → key (f r) = k} (same : ∀ r, t.find? k = some r → f r = r) :
    t.modify k f keeps = t := by
  have unchanged : t.modify k id (fun _ here => here) = t := by
    apply Table.ext
    simp [modify, mapRows]
  exact (modify_congr rfl same).trans unchanged

theorem find?_filter {t : Table κ ρ key} {p : ρ → Bool} (k : κ) :
    (t.filter p).find? k = (t.find? k).filter p := by
  cases found : t.find? k with
  | none =>
      rw [find?_eq_none_iff] at found
      exact find?_eq_none_iff.mpr fun r mem => found r (mem_filter.mp mem).1
  | some r =>
      obtain ⟨mem, hkey⟩ := find?_eq_some_iff.mp found
      cases keep : p r with
      | true =>
          rw [Option.filter_some, if_pos keep]
          exact find?_eq_some_iff.mpr ⟨mem_filter.mpr ⟨mem, keep⟩, hkey⟩
      | false =>
          rw [Option.filter_some, if_neg (by simp [keep])]
          refine find?_eq_none_iff.mpr fun r' mem' same => ?_
          obtain ⟨mem', kept⟩ := mem_filter.mp mem'
          rw [t.eq_of_key_eq mem' mem (same.trans hkey.symm), keep] at kept
          cases kept

/-- Of infinitely many keys, infinitely many are free. -/
theorem exists_fresh [Infinite κ] (t : Table κ ρ key) :
    ∃ fresh : ℕ → κ, Function.Injective fresh ∧ ∀ n, t.find? (fresh n) = none := by
  have free : Set.Infinite (Set.compl {k | k ∈ t.rows.map key}) :=
    (List.finite_toSet _).infinite_compl
  refine ⟨fun n => free.natEmbedding _ n, fun n m same => ?_, fun n => ?_⟩
  · exact (free.natEmbedding _).injective (Subtype.ext same)
  · refine find?_eq_none_iff.mpr fun r mem taken => ?_
    exact (free.natEmbedding _ n).property (List.mem_map.mpr ⟨r, mem, taken⟩)

end Keyed

end Table

end CoupangEats.Base
