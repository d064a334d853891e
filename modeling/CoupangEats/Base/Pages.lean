import Mathlib.Algebra.Order.Floor.Ring
import Mathlib.Algebra.Order.Archimedean.Basic
import Mathlib.Data.Rat.Floor
import Mathlib.Data.List.Basic
import Mathlib.Tactic.Linarith

/-!
Lists cut into pages.

Pages are counted from 1. `page` is what a query with an offset and a limit
gives of a list, and `pageCount` the number of pages that hold anything. The
pages tile the list (`flatMap_page`), and a page exists behind a page exactly
when a row does (`lt_pageCount_iff`).
-/

namespace CoupangEats.Base

variable {α : Type*}

/-- A page of a list whose pages have `limit` rows. -/
def page (limit number : ℕ) (rows : List α) : List α :=
  (rows.drop ((number - 1) * limit)).take limit

/-- How many pages of `limit` rows `total` rows fill, the last one possibly in part. -/
def pageCount (limit total : ℕ) : ℕ := ⌈(total : ℚ) / limit⌉₊

variable {limit : ℕ}

/-- A page starts behind the rows of the pages before it, and has `limit` places. -/
theorem getElem?_page (number : ℕ) (rows : List α) (i : ℕ) :
    (page limit number rows)[i]? =
      if i < limit then rows[(number - 1) * limit + i]? else none := by
  rw [page, List.getElem?_take]
  split
  · rw [List.getElem?_drop]
  · rfl

theorem length_page (number : ℕ) (rows : List α) :
    (page limit number rows).length = min limit (rows.length - (number - 1) * limit) := by
  rw [page, List.length_take, List.length_drop]

/-- The first pages are a beginning of the list. -/
theorem flatMap_page_eq_take (rows : List α) (count : ℕ) :
    ((List.range count).flatMap fun i => page limit (i + 1) rows) = rows.take (count * limit) := by
  induction count with
  | zero => simp
  | succ count ih =>
      have next : rows.take ((count + 1) * limit) =
          rows.take (count * limit) ++ page limit (count + 1) rows := by
        rw [page, Nat.add_sub_cancel, ← List.take_add, Nat.succ_mul]
      rw [next, ← ih, List.range_succ, List.flatMap_append, List.flatMap_singleton]

/-- A page has a successor exactly when rows are left behind it. -/
theorem lt_pageCount_iff (positive : 0 < limit) {number total : ℕ} :
    number < pageCount limit total ↔ number * limit < total := by
  have positive' : (0 : ℚ) < limit := by exact_mod_cast positive
  rw [pageCount, Nat.lt_ceil, lt_div_iff₀ positive']
  exact_mod_cast Iff.rfl

/-- All pages together hold the list. -/
theorem flatMap_page (positive : 0 < limit) (rows : List α) :
    ((List.range (pageCount limit rows.length)).flatMap fun i => page limit (i + 1) rows) =
      rows := by
  rw [flatMap_page_eq_take]
  apply List.take_of_length_le
  by_contra more
  exact absurd ((lt_pageCount_iff positive).mpr (not_le.mp more)) (lt_irrefl _)

/-- Behind the last page there is nothing. -/
theorem page_eq_nil (positive : 0 < limit) {number : ℕ} {rows : List α}
    (beyond : pageCount limit rows.length < number) : page limit number rows = [] := by
  have last : ¬ number - 1 < pageCount limit rows.length := by omega
  rw [lt_pageCount_iff positive, not_lt] at last
  rw [← List.length_eq_zero_iff, length_page]
  omega

/-- Every page but the last one is full. -/
theorem length_page_eq (positive : 0 < limit) {number : ℕ} {rows : List α} (first : 1 ≤ number)
    (before : number < pageCount limit rows.length) : (page limit number rows).length = limit := by
  rw [lt_pageCount_iff positive] at before
  obtain ⟨previous, rfl⟩ := Nat.exists_eq_add_of_le' first
  rw [length_page, Nat.add_sub_cancel]
  rw [Nat.succ_mul] at before
  omega

/-- A list that fits a page is its first page. -/
theorem page_one {rows : List α} (fits : rows.length ≤ limit) : page limit 1 rows = rows := by
  simp [page, fits]

/-- What two of the pages of a walk hold is met twice on it. -/
theorem one_lt_count_flatMap [DecidableEq α] {pages : ℕ → List α} {count : ℕ} {a : α}
    (two : 1 < count) (first : a ∈ pages 0) (second : a ∈ pages 1) :
    1 < ((List.range count).flatMap pages).count a := by
  obtain ⟨others, rfl⟩ := Nat.exists_eq_add_of_le two
  have here : 0 < (pages 0).count a := List.count_pos_iff.mpr first
  have there : 0 < (pages 1).count a := List.count_pos_iff.mpr second
  rw [List.range_add, List.flatMap_append, List.count_append]
  simp only [List.range_succ, List.range_zero, List.nil_append, List.flatMap_append,
    List.flatMap_singleton, List.count_append]
  omega

end CoupangEats.Base
