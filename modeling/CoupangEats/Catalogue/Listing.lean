import CoupangEats.Core.Pagination
import CoupangEats.Entity
import Mathlib.Data.List.Rotate

/-!
The paginated list of restaurants.

`getRestaurants` names no order for its query, and SQL promises none for the
rows of such a query. The pages of one walk are therefore cut out of lists that
are ordered independently of each other: each page may repeat what another one
has shown. Walking through the pages returns every restaurant exactly once, in
whatever orders, only where there is one page (`listing_iff`).
-/

namespace CoupangEats

open CoupangEats.Base

/-- What SQL promises of a query without `ORDER BY`: the rows, in some order. -/
structure Unordered (ρ : Type) where
  answer : List ρ → List ρ
  perm : ∀ rows, (answer rows).Perm rows

namespace Unordered

variable {ρ : Type}

/-- Rows as they are stored. -/
def asStored : Unordered ρ := ⟨id, List.Perm.refl⟩

/-- Rows from the place of a cursor on, and then those before it. -/
def fromCursor (cursor : List ρ → ℕ) : Unordered ρ where
  answer rows := rows.rotate (cursor rows)
  perm rows := rows.rotate_perm (cursor rows)

end Unordered

/-- `categoryId ? { categoryId } : {}`. -/
def inCategory (categoryId : Option String) (restaurant : RestaurantRow) : Bool :=
  match categoryId with
  | none => true
  | some id => id = "" || restaurant.categoryId = some id

/-- The restaurants that match the filter; `find` skips soft-deleted rows. -/
def Db.matching (db : Db) (categoryId : Option String) : List RestaurantRow :=
  db.restaurants.rows.filter fun restaurant =>
    restaurant.deletedAt.isNone && inCategory categoryId restaurant

def getRestaurants (db : Db) (query : Unordered RestaurantRow) (pagination : PaginationRequest)
    (categoryId : Option String) : PaginationResponse RestaurantRow :=
  paginate (query.answer (db.matching categoryId)) pagination

/-- What the pages from the first to the last one return together, when the
database orders the rows of page `i + 1` as `queries i` does. -/
def listing (db : Db) (queries : ℕ → Unordered RestaurantRow) (request : PaginationRequest)
    (categoryId : Option String) : List RestaurantRow :=
  let totalPages := (getRestaurants db (queries 0) (request.turnTo 0) categoryId).totalPages
  (List.range totalPages).flatMap fun i =>
    (getRestaurants db (queries i) (request.turnTo i) categoryId).list

/-- Every matching restaurant is returned exactly once. -/
def EachOnce (db : Db) (queries : ℕ → Unordered RestaurantRow) (request : PaginationRequest)
    (categoryId : Option String) : Prop :=
  ∀ restaurant ∈ db.matching categoryId,
    (listing db queries request categoryId).count restaurant = 1

section Listing

variable (db : Db) (queries : ℕ → Unordered RestaurantRow) (request : PaginationRequest)
  (categoryId : Option String)

theorem matching_nodup : (db.matching categoryId).Nodup :=
  db.restaurants.unique.of_map.filter _

/-- The number of rows, and with it the number of pages, is the same in every order. -/
theorem listing_eq :
    listing db queries request categoryId =
      (List.range (pageCount request.limit (db.matching categoryId).length)).flatMap fun i =>
        page request.limit (i + 1) ((queries i).answer (db.matching categoryId)) := by
  simp only [listing, getRestaurants, paginate_totalPages, paginate_list,
    ((queries 0).perm (db.matching categoryId)).length_eq]
  rfl

/-- One page holds every row, in whatever order. -/
theorem eachOnce_of_fits (fits : (db.matching categoryId).length ≤ request.limit) :
    EachOnce db queries request categoryId := by
  have positive : 0 < request.limit := request.limit_min
  intro restaurant mem
  have some_row : 0 < (db.matching categoryId).length := List.length_pos_of_mem mem
  have one_page : pageCount request.limit (db.matching categoryId).length = 1 := by
    apply le_antisymm
    · rw [← not_lt, lt_pageCount_iff positive, one_mul, not_lt]
      exact fits
    · rw [Nat.succ_le_iff, lt_pageCount_iff positive, zero_mul]
      exact some_row
  have order := (queries 0).perm (db.matching categoryId)
  have whole : page request.limit 1 ((queries 0).answer (db.matching categoryId)) =
      (queries 0).answer (db.matching categoryId) := page_one (order.length_eq.trans_le fits)
  rw [listing_eq, one_page, List.range_one, List.flatMap_singleton, whole, order.count_eq]
  exact List.count_eq_one_of_mem (matching_nodup db categoryId) mem

/-- Queries with an order of their own would do: where all of them order the rows
in one way, the pages tile them. -/
theorem eachOnce_of_sameOrder
    (same : ∀ i, (queries i).answer (db.matching categoryId) =
      (queries 0).answer (db.matching categoryId)) :
    EachOnce db queries request categoryId := by
  have order := (queries 0).perm (db.matching categoryId)
  intro restaurant mem
  simp only [listing_eq, same]
  rw [← order.length_eq, flatMap_page request.limit_min, order.count_eq]
  exact List.count_eq_one_of_mem (matching_nodup db categoryId) mem

/-- An order of a second query in which the first restaurant comes behind the first page. -/
def again (limit : ℕ) : ℕ → Unordered RestaurantRow
  | 0 => .asStored
  | _ + 1 => .fromCursor fun rows => rows.length - limit

theorem first_mem_page_one {limit : ℕ} (positive : 0 < limit) (first : RestaurantRow)
    (rest : List RestaurantRow) : first ∈ page limit 1 (first :: rest) := by
  obtain ⟨places, rfl⟩ := Nat.exists_eq_add_of_le' positive
  rw [page, Nat.sub_self, zero_mul, List.drop_zero, List.take_succ_cons]
  exact List.mem_cons_self

/-- In that order the second page starts with the restaurant that the first page
has started with. -/
theorem first_mem_page_two {limit : ℕ} (positive : 0 < limit) {first : RestaurantRow}
    {rest : List RestaurantRow} (more : limit < (first :: rest).length) :
    first ∈ page limit 2 (((again limit) 1).answer (first :: rest)) := by
  have back : (2 - 1) * limit + 0 + ((first :: rest).length - limit) = (first :: rest).length := by
    omega
  have place : (page limit 2 (((again limit) 1).answer (first :: rest)))[0]? = some first := by
    rw [getElem?_page, if_pos positive, again, Unordered.fromCursor,
      List.getElem?_rotate (by omega), back, Nat.mod_self]
    rfl
  exact List.mem_of_getElem? place

theorem not_eachOnce_again (more : request.limit < (db.matching categoryId).length) :
    ¬ EachOnce db (again request.limit) request categoryId := by
  have positive : 0 < request.limit := request.limit_min
  intro each
  cases rows : db.matching categoryId with
  | nil => simp [rows] at more
  | cons first rest =>
      rw [rows] at more
      have two_pages : 1 < pageCount request.limit (first :: rest).length := by
        rw [lt_pageCount_iff positive, one_mul]
        exact more
      have once := each first (rows ▸ List.mem_cons_self)
      rw [listing_eq, rows] at once
      refine absurd once (Nat.ne_of_gt (one_lt_count_flatMap two_pages ?_ ?_))
      · exact first_mem_page_one positive first rest
      · exact first_mem_page_two positive more

/-- Walking through the pages returns every matching restaurant exactly once, in
whatever orders the database answers the queries, exactly when all of them fit one page. -/
theorem listing_iff :
    (∀ queries, EachOnce db queries request categoryId) ↔
      (db.matching categoryId).length ≤ request.limit := by
  constructor
  · intro each
    by_contra more
    exact not_eachOnce_again db request categoryId (not_le.mp more) (each _)
  · intro fits queries
    exact eachOnce_of_fits db queries request categoryId fits

end Listing

/-- A store with two restaurants. -/
def twoRestaurants : Db :=
  { Db.empty with
    restaurants := ⟨[sampleRestaurant "gimbap" "owner", sampleRestaurant "pizza" "owner"],
      by simp [sampleRestaurant]⟩ }

/-- Two pages of one restaurant each, the second one asked for when the rows come
the other way around. -/
theorem listing_loses_restaurant :
    ¬ EachOnce twoRestaurants (again 1) ⟨1, 1, le_refl 1, le_refl 1⟩ none :=
  not_eachOnce_again twoRestaurants ⟨1, 1, le_refl 1, le_refl 1⟩ none (by
    simp [twoRestaurants, Db.matching, sampleRestaurant, inCategory])

end CoupangEats
