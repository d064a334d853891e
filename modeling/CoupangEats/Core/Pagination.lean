import CoupangEats.Base.Pages

/-!
Pagination: `PaginationRequest`, `PaginationResponse` and the repositories'
`paginate`.

The response computes the number of pages by a ceiling and asks whether the page
lies before the last one; the request asks whether its pages so far hold all
rows. Both answer whether a row is left (`hasNext_iff`, `getHasNext_iff`).
-/

namespace CoupangEats

open CoupangEats.Base

def PaginationDefault.pageDefault : ℕ := 1

def PaginationDefault.limitDefault : ℕ := 10

/-- A request that has passed its validators: both numbers are integers from 1 on. -/
structure PaginationRequest where
  page : ℕ
  limit : ℕ
  page_min : 1 ≤ page
  limit_min : 1 ≤ limit

namespace PaginationRequest

/-- The request of a query string without `page` and `limit`. -/
instance : Inhabited PaginationRequest where
  default := ⟨PaginationDefault.pageDefault, PaginationDefault.limitDefault, le_refl _, by decide⟩

/-- The request for another page with the same limit; pages are counted from 0 here. -/
def turnTo (request : PaginationRequest) (i : ℕ) : PaginationRequest where
  page := i + 1
  limit := request.limit
  page_min := Nat.le_add_left 1 i
  limit_min := request.limit_min

def getHasNext (request : PaginationRequest) (totalCount : ℕ) : Bool :=
  request.page * request.limit < totalCount

end PaginationRequest

structure PaginationResponse (α : Type*) where
  total : ℕ
  list : List α
  page : ℕ
  limit : ℕ

namespace PaginationResponse

variable {α : Type*}

/-- `Math.ceil(this.total / this.limit)`. -/
def totalPages (response : PaginationResponse α) : ℕ := ⌈(response.total : ℚ) / response.limit⌉₊

def hasNext (response : PaginationResponse α) : Bool := response.totalPages > response.page

end PaginationResponse

section Paginate

variable {α : Type*}

/-- `paginate`, on the matching rows in the order in which the database goes
through them: `findAndCount` gives `take` of them behind the first `skip`, and
counts them all. -/
def paginate (rows : List α) (pagination : PaginationRequest) : PaginationResponse α where
  total := rows.length
  list := (rows.drop ((pagination.page - 1) * pagination.limit)).take pagination.limit
  page := pagination.page
  limit := pagination.limit

variable (rows : List α) (request : PaginationRequest)

theorem paginate_list : (paginate rows request).list = page request.limit request.page rows := rfl

theorem paginate_totalPages :
    (paginate rows request).totalPages = pageCount request.limit rows.length := rfl

theorem hasNext_iff :
    (paginate rows request).hasNext = true ↔ request.page * request.limit < rows.length := by
  rw [PaginationResponse.hasNext, decide_eq_true_iff, paginate_totalPages]
  exact lt_pageCount_iff request.limit_min

theorem getHasNext_iff {totalCount : ℕ} :
    request.getHasNext totalCount = true ↔ request.page * request.limit < totalCount := by
  rw [PaginationRequest.getHasNext, decide_eq_true_iff]

/-- Pagination is exact. A page holds the rows from its place on; the pages tile
the list, only the last one is not full, and behind it there is nothing; and both
ways of asking for a next page say whether a row is left. -/
theorem paginate_exact :
    (∀ i, (paginate rows request).list[i]? =
        if i < request.limit then rows[(request.page - 1) * request.limit + i]? else none) ∧
      ((List.range (paginate rows request).totalPages).flatMap fun i =>
        (paginate rows (request.turnTo i)).list) = rows ∧
      ((paginate rows request).totalPages < request.page → (paginate rows request).list = []) ∧
      (request.page < (paginate rows request).totalPages →
        (paginate rows request).list.length = request.limit) ∧
      ((paginate rows request).hasNext = true ↔
        ∃ i row, request.page * request.limit ≤ i ∧ rows[i]? = some row) ∧
      (paginate rows request).hasNext = request.getHasNext (paginate rows request).total := by
  have positive : 0 < request.limit := request.limit_min
  refine ⟨?slice, ?tiles, ?beyond, ?full, ?next, ?agree⟩
  case slice =>
    intro i
    rw [paginate_list, getElem?_page]
  case tiles =>
    rw [paginate_totalPages]
    exact flatMap_page positive rows
  case beyond =>
    rw [paginate_totalPages, paginate_list]
    exact page_eq_nil positive
  case full =>
    rw [paginate_totalPages, paginate_list]
    exact length_page_eq positive request.page_min
  case next =>
    rw [hasNext_iff]
    constructor
    · intro left
      exact ⟨_, rows[request.page * request.limit], le_refl _, List.getElem?_eq_getElem left⟩
    · rintro ⟨i, row, beyond, found⟩
      obtain ⟨inside, -⟩ := List.getElem?_eq_some_iff.mp found
      exact lt_of_le_of_lt beyond inside
  case agree =>
    rw [Bool.eq_iff_iff, hasNext_iff, getHasNext_iff]
    rfl

end Paginate

end CoupangEats
