import CoupangEats.Base.Contest
import CoupangEats.Base.References
import CoupangEats.Base.Text
import CoupangEats.Catalogue.Service

/-!
The categories.

A category is created under the slug of its name: `createCategory` looks for a live
category with the slug and saves the whole body with the slug written over it. The
lookup leaves the deleted categories out, the unique indexes on the name and the slug
do not, and they decide between requests that find a slug free at the same time.

The lower case of a text is that of the language's `toLowerCase`, a parameter here.
-/

namespace CoupangEats

open CoupangEats.Base

structure CategoryEntity where
  id : String
  name : String
  coverImg : Option String
  slug : String
  deletedAt : Option Json
  deriving DecidableEq, Repr

abbrev Categories := Table String CategoryEntity CategoryEntity.id

/-- A nullable `varchar(255)` column. -/
def nullableFreeTextColumn : Json → Option (Option String)
  | .null => some none
  | value => (freeTextColumn value).map some

def CategoryEntity.write (id : String) (base : Option CategoryEntity) (e : Fields) :
    Option CategoryEntity := do
  let name ← column e "name" freeTextColumn (base.map CategoryEntity.name)
  let coverImg ← column e "coverImg" nullableFreeTextColumn
    (some (base.bind CategoryEntity.coverImg))
  let slug ← column e "slug" freeTextColumn (base.map CategoryEntity.slug)
  let deletedAt ← column e "deletedAt" timestampColumn (some (base.bind CategoryEntity.deletedAt))
  return { id, name, coverImg, slug, deletedAt }

def categoryMapping : Mapping CategoryEntity CategoryEntity.id :=
  .ofWrite CategoryEntity.write fun written => by
    simp only [CategoryEntity.write, Option.bind_eq_bind, Option.bind_eq_some_iff, Option.pure_def,
      Option.some.injEq] at written
    obtain ⟨_, _, _, _, _, _, _, _, rfl⟩ := written
    rfl

/-- The name and the slug are unique, soft-deleted categories included. -/
def acceptsCategory (t : Categories) (row : CategoryEntity) : Bool :=
  t.rows.all fun other => other.id = row.id || (other.name ≠ row.name && other.slug ≠ row.slug)

/-- What the validation pipe asks of a `CreateCategoryDto`. -/
def validCreateCategory (body : Fields) : Bool :=
  required body ("name", isString) && optional body ("coverImg", isString)

/-- A request to create a category: the body, the id of a category that brings none,
and whether the database fails it. -/
structure CategoryCall where
  body : Fields
  generated : String
  fails : Bool

section Service

variable (toLowerCase : String → String)

/-- `name.trim().toLowerCase().replace(/ /g, '-')`. -/
def slugify (name : String) : String :=
  String.ofList ((toLowerCase (String.ofList (trim name.toList))).toList.map fun c =>
    if c = ' ' then '-' else c)

/-- The name of a body. -/
def CategoryCall.name (call : CategoryCall) : String := (call.body.readString "name").getD ""

def CategoryCall.slug (call : CategoryCall) : String := slugify toLowerCase call.name

/-- `CreateCategoryDto.toEntity`. -/
def CategoryCall.toEntity (call : CategoryCall) : Fields :=
  call.body ++ [("slug", .str (call.slug toLowerCase))]

/-- `findOneByFilters({ slug })`. -/
def categoryBySlug? (t : Categories) (slug : String) : Option CategoryEntity :=
  t.rows.find? fun category => category.deletedAt.isNone && category.slug = slug

/-- `CategoryService.createCategory`. -/
def createCategory (t : Categories) (call : CategoryCall) :
    Except ApiError (CategoryEntity × Categories) :=
  match categoryBySlug? t (call.slug toLowerCase) with
  | some _ => .error (.conflict "Category already exists")
  | none =>
      match (if call.fails then none
        else categoryMapping.save (acceptsCategory t) call.generated t
          (call.toEntity toLowerCase)) with
      | none => .error queryFailed
      | some out => .ok out

/-- `CategoryService.getAllCategories`. -/
def getAllCategories (t : Categories) : List CategoryEntity :=
  t.rows.filter fun category => category.deletedAt.isNone

/-- `POST /categories` behind its guards. -/
def categoryService : Machine Categories CategoryCall (Except ApiError CategoryEntity) where
  step t call :=
    if validCreateCategory call.body then
      match createCategory toLowerCase t call with
      | .error e => (t, .error e)
      | .ok (category, t') => (t', .ok category)
    else (t, .error (.badRequest "Bad Request Exception"))

end Service

/-! ### What a request stores -/

section Store

variable {toLowerCase : String → String} {t t' : Categories} {call : CategoryCall}
  {row : CategoryEntity}

/-- The categories are under the slugs of their names, each under its own. -/
structure Sluggish (toLowerCase : String → String) (t : Categories) : Prop where
  named : ∀ category ∈ t.rows, category.slug = slugify toLowerCase category.name
  slugs : t.Indexed fun category => some category.slug

theorem acceptsCategory_eq_true :
    acceptsCategory t row = true ↔
      ∀ other ∈ t.rows, other.id ≠ row.id → other.name ≠ row.name ∧ other.slug ≠ row.slug := by
  simp only [acceptsCategory, List.all_eq_true, Bool.or_eq_true, Bool.and_eq_true,
    decide_eq_true_eq, or_iff_not_imp_left]

theorem categoryBySlug?_eq_none {slug : String} :
    categoryBySlug? t slug = none ↔
      ∀ category ∈ t.rows, category.slug = slug → category.deletedAt.isSome := by
  simp only [categoryBySlug?, List.find?_eq_none, Bool.and_eq_true, decide_eq_true_eq, not_and']
  refine forall₂_congr fun category _ => forall_congr' fun _ => ?_
  cases category.deletedAt <;> simp

theorem read_categoryName (valid : validCreateCategory call.body = true) :
    call.body.read "name" = some (.str call.name) := by
  simp only [validCreateCategory, Bool.and_eq_true, required, Option.any_eq_true] at valid
  obtain ⟨⟨value, here, text⟩, -⟩ := valid
  cases value with
  | str name => simp [CategoryCall.name, Fields.readString, here]
  | null | bool | num | arr | obj => cases text

/-- Wherever the entity of a body is written, it has the body's name and its slug. -/
theorem category_columns {id : String} {base : Option CategoryEntity}
    (valid : validCreateCategory call.body = true)
    (written : CategoryEntity.write id base (call.toEntity toLowerCase) = some row) :
    row.id = id ∧ row.name = call.name ∧ row.slug = call.slug toLowerCase := by
  simp only [CategoryEntity.write, Option.bind_eq_bind, Option.bind_eq_some_iff, Option.pure_def,
    Option.some.injEq] at written
  obtain ⟨name, hname, coverImg, -, slug, hslug, deletedAt, -, rfl⟩ := written
  have text {value read : String} (stored : freeTextColumn (.str value) = some read) :
      read = value := by
    simp only [freeTextColumn] at stored
    split_ifs at stored
    exact (Option.some.inj stored).symm
  refine ⟨rfl, ?_, ?_⟩
  · have own : (call.toEntity toLowerCase).read "name" = some (.str call.name) := by
      rw [CategoryCall.toEntity, Fields.read_append, read_categoryName valid]
      simp
    rw [column, own] at hname
    exact text hname
  · have own : (call.toEntity toLowerCase).read "slug" = some (.str (call.slug toLowerCase)) := by
      rw [CategoryCall.toEntity, Fields.read_append]
      simp
    rw [column, own] at hslug
    exact text hslug

theorem createCategory_eq_ok :
    createCategory toLowerCase t call = .ok (row, t') ↔
      categoryBySlug? t (call.slug toLowerCase) = none ∧ call.fails = false ∧
        categoryMapping.save (acceptsCategory t) call.generated t (call.toEntity toLowerCase) =
          some (row, t') := by
  unfold createCategory
  cases categoryBySlug? t (call.slug toLowerCase) with
  | some category => simp
  | none =>
      cases call.fails with
      | true => simp
      | false =>
          simp only [Bool.false_eq_true, if_false, true_and]
          cases categoryMapping.save (acceptsCategory t) call.generated t
            (call.toEntity toLowerCase) <;> simp

/-- A category that is saved has the slug to itself and is under its name's. -/
theorem Sluggish.save (sluggish : Sluggish toLowerCase t)
    (valid : validCreateCategory call.body = true)
    (saved : categoryMapping.save (acceptsCategory t) call.generated t
      (call.toEntity toLowerCase) = some (row, t')) : Sluggish toLowerCase t' := by
  have puts := Mapping.puts_save saved
  have columns : row.name = call.name ∧ row.slug = call.slug toLowerCase := by
    rcases Mapping.save_cases saved with ⟨old, -, -, -, -, updated, -, -⟩ | ⟨⟨id, made⟩, -, -⟩
    · exact (category_columns valid updated).2
    · exact (category_columns valid made).2
  have unique := acceptsCategory_eq_true.mp (Mapping.save_accepted saved)
  constructor
  · apply puts.forall sluggish.named
    rw [columns.1, columns.2]
    rfl
  · apply sluggish.slugs.puts puts
    intro other mem slug here there
    by_contra apart
    rw [Option.some.injEq] at here there
    exact (unique other mem apart).2 (there.trans here.symm)

theorem Sluggish.step {e : Event Categories CategoryCall (Except ApiError CategoryEntity)}
    (step : (categoryService toLowerCase).step e.before e.input = (e.after, e.output))
    (sluggish : Sluggish toLowerCase e.before) : Sluggish toLowerCase e.after := by
  obtain ⟨t, call, output, t'⟩ := e
  simp only [categoryService] at step
  split at step
  · rename_i valid
    split at step
    · cases step
      exact sluggish
    · rename_i created
      cases step
      exact sluggish.save valid (createCategory_eq_ok.mp created).2.2
  · cases step
    exact sluggish

/-- Categories under the slugs of their names differ in their names as well. -/
theorem Sluggish.names (sluggish : Sluggish toLowerCase t) :
    t.Indexed fun category => some category.name := by
  intro row mem other mem' name here there
  refine sluggish.slugs row mem other mem' row.slug rfl ?_
  rw [Option.some.injEq] at here there ⊢
  rw [sluggish.named other mem', sluggish.named row mem, here, there]

/-! ### What a request is answered -/

/-- A body with nothing but the fields that the request declares. -/
def CategoryCall.Declared (call : CategoryCall) : Prop :=
  ∀ entry ∈ call.body, entry.1 ∈ ["name", "coverImg"]

/-- The columns take the texts of the request. -/
structure CategoryCall.Fits (toLowerCase : String → String) (call : CategoryCall) : Prop where
  name : call.name.length ≤ 255
  slug : (call.slug toLowerCase).length ≤ 255
  coverImg : (column call.body "coverImg" nullableFreeTextColumn (some none)).isSome

/-- The new row of a declared body. -/
theorem insertRow_toCategory (id : String) (valid : validCreateCategory call.body = true)
    (declared : call.Declared) :
    (∃ row, categoryMapping.insertRow id (call.toEntity toLowerCase) = some row) ↔
      call.Fits toLowerCase := by
  have absent {name : String} (other : name ∉ ["name", "coverImg"]) : call.body.read name = none :=
    Fields.read_eq_none fun entry mem same => other (same ▸ declared entry mem)
  have read {name : String} (other : name ≠ "slug") :
      (call.toEntity toLowerCase).read name = call.body.read name := by
    rw [CategoryCall.toEntity, Fields.read_append]
    simp [other.symm]
  have slug : (call.toEntity toLowerCase).read "slug" = some (.str (call.slug toLowerCase)) := by
    rw [CategoryCall.toEntity, Fields.read_append]
    simp
  simp only [categoryMapping, Mapping.ofWrite, CategoryEntity.write, column,
    read (show "name" ≠ "slug" by decide), read (show "coverImg" ≠ "slug" by decide),
    read (show "deletedAt" ≠ "slug" by decide), slug, read_categoryName valid,
    absent (show "deletedAt" ∉ _ by decide), freeTextColumn]
  constructor
  · rintro ⟨row, written⟩
    simp only [Option.bind_none, Option.bind_eq_bind, Option.bind_eq_some_iff,
      Option.pure_def, Option.some.injEq] at written
    obtain ⟨name, hname, coverImg, hcover, slug', hslug, -⟩ := written
    split_ifs at hname hslug with fitsName fitsSlug
    exact ⟨fitsName, fitsSlug, Option.isSome_iff_exists.mpr ⟨coverImg, hcover⟩⟩
  · intro fits
    obtain ⟨coverImg, hcover⟩ := Option.isSome_iff_exists.mp fits.coverImg
    simp only [column] at hcover
    simp [fits.name, fits.slug, hcover]

/-- How a request with declared fields is answered, by the categories that are there. -/
structure AnsweredBySlug (toLowerCase : String → String)
    (e : Event Categories CategoryCall (Except ApiError CategoryEntity)) : Prop where
  created : (∃ row, e.output = .ok row) ↔
    (∀ category ∈ e.before.rows, category.slug ≠ e.input.slug toLowerCase) ∧
      e.input.Fits toLowerCase ∧ e.input.fails = false ∧ e.before.find? e.input.generated = none
  conflict : (∃ m, e.output = .error (.conflict m)) ↔
    ∃ category ∈ e.before.rows, category.deletedAt = none ∧
      category.slug = e.input.slug toLowerCase
  stored : ∀ row, e.output = .ok row → row.name = e.input.name ∧ row.deletedAt = none ∧
    e.after.rows = e.before.rows ++ [row]
  refused : ∀ error, e.output = .error error → e.after = e.before

theorem toEntity_unnamed (declared : call.Declared) :
    (call.toEntity toLowerCase).read "id" = none := by
  have absent : call.body.read "id" = none := by
    apply Fields.read_eq_none
    intro entry mem same
    have listed := declared entry mem
    simp [same] at listed
  simp [CategoryCall.toEntity, Fields.read_append, absent]

/-- The row of a declared body, if it is stored. -/
theorem createCategory_row (valid : validCreateCategory call.body = true)
    (declared : call.Declared) (created : createCategory toLowerCase t call = .ok (row, t')) :
    row.name = call.name ∧ row.slug = call.slug toLowerCase ∧ row.deletedAt = none ∧
      t.insert row = some t' ∧ acceptsCategory t row = true ∧
      categoryMapping.insertRow call.generated (call.toEntity toLowerCase) = some row := by
  obtain ⟨-, -, saved⟩ := createCategory_eq_ok.mp created
  rw [Mapping.save_unnamed (toEntity_unnamed declared)] at saved
  obtain ⟨made, accepted, inserted⟩ := Mapping.saveNew_eq_some saved
  obtain ⟨-, name, slug⟩ := category_columns valid made
  refine ⟨name, slug, ?_, inserted, accepted, made⟩
  have absent : (call.toEntity toLowerCase).read "deletedAt" = none := by
    rw [CategoryCall.toEntity, Fields.read_append,
      Fields.read_eq_none (e := call.body) fun entry mem same => by
        have listed := declared entry mem
        simp [same] at listed]
    simp
  simp only [categoryMapping, Mapping.ofWrite, CategoryEntity.write, Option.bind_eq_bind,
    Option.bind_eq_some_iff, Option.pure_def, Option.some.injEq] at made
  obtain ⟨_, -, _, -, _, -, deletedAt, column, rfl⟩ := made
  simpa [CoupangEats.column, absent, eq_comm] using column

/-- A declared body is stored exactly when its slug is free, in whatever category. -/
theorem createCategory_isOk (sluggish : Sluggish toLowerCase t)
    (valid : validCreateCategory call.body = true) (declared : call.Declared) :
    (∃ out, createCategory toLowerCase t call = .ok out) ↔
      (∀ category ∈ t.rows, category.slug ≠ call.slug toLowerCase) ∧ call.Fits toLowerCase ∧
        call.fails = false ∧ t.find? call.generated = none := by
  constructor
  · rintro ⟨⟨row, t'⟩, created⟩
    obtain ⟨-, slug, -, inserted, accepted, made⟩ := createCategory_row valid declared created
    have id := categoryMapping.key_insertRow made
    have fresh := (Table.insert_eq_some inserted).1
    refine ⟨fun category mem same => ?_, (insertRow_toCategory _ valid declared).mp ⟨row, made⟩,
      (createCategory_eq_ok.mp created).2.1, by rwa [id] at fresh⟩
    have apart := Table.find?_eq_none_iff.mp fresh category mem
    exact (acceptsCategory_eq_true.mp accepted category mem apart).2 (same.trans slug.symm)
  · rintro ⟨free, fits, works, fresh⟩
    obtain ⟨row, made⟩ := (insertRow_toCategory call.generated valid declared).mpr fits
    obtain ⟨-, name, slug⟩ := category_columns valid made
    have accepted : acceptsCategory t row = true := by
      rw [acceptsCategory_eq_true]
      intro other mem _
      refine ⟨fun same => free other mem ?_, fun same => free other mem (same.trans slug)⟩
      rw [sluggish.named other mem, same, name]
      rfl
    obtain ⟨out, saved⟩ := Mapping.saveNew_isSome.mpr ⟨row, made, accepted, fresh⟩
    refine ⟨out, createCategory_eq_ok.mpr ⟨?_, works, ?_⟩⟩
    · exact categoryBySlug?_eq_none.mpr fun category mem same => absurd same (free category mem)
    · rw [Mapping.save_unnamed (toEntity_unnamed declared), saved]

/-- A conflict is reported exactly for the slug of a live category. -/
theorem createCategory_conflict :
    (∃ m, createCategory toLowerCase t call = .error (.conflict m)) ↔
      ∃ category ∈ t.rows, category.deletedAt = none ∧
        category.slug = call.slug toLowerCase := by
  unfold createCategory
  cases found : categoryBySlug? t (call.slug toLowerCase) with
  | some category =>
      have here := List.find?_some found
      simp only [Bool.and_eq_true, Option.isNone_iff_eq_none, decide_eq_true_eq] at here
      exact iff_of_true ⟨_, rfl⟩ ⟨category, List.mem_of_find?_eq_some found, here⟩
  | none =>
      apply iff_of_false
      · rintro ⟨m, refused⟩
        simp only at refused
        split at refused <;> cases refused
      · rintro ⟨category, mem, live, slug⟩
        have deleted := categoryBySlug?_eq_none.mp found category mem slug
        simp [live] at deleted

theorem answeredBySlug {e : Event Categories CategoryCall (Except ApiError CategoryEntity)}
    (step : (categoryService toLowerCase).step e.before e.input = (e.after, e.output))
    (sluggish : Sluggish toLowerCase e.before) (valid : validCreateCategory e.input.body = true)
    (declared : e.input.Declared) : AnsweredBySlug toLowerCase e := by
  obtain ⟨t, call, output, t'⟩ := e
  simp only at valid declared sluggish
  have isOk := createCategory_isOk sluggish valid declared
  have conflict := @createCategory_conflict toLowerCase t call
  simp only [categoryService, valid, if_true] at step
  cases created : createCategory toLowerCase t call with
  | error error =>
      rw [created] at step isOk conflict
      cases step
      refine ⟨?_, ?_, fun row stored => ?_, fun _ _ => rfl⟩
      · rw [← isOk]
        simp
      · rw [← conflict]
        simp
      · cases stored
  | ok out =>
      rw [created] at step isOk conflict
      cases step
      obtain ⟨name, -, live, inserted, -⟩ := createCategory_row valid declared created
      refine ⟨?_, ?_, fun row stored => ?_, fun error refused => ?_⟩
      · rw [← isOk]
        simp
      · rw [← conflict]
        simp
      · cases stored
        exact ⟨name, live, (Table.insert_eq_some inserted).2⟩
      · cases refused

end Store

/-- In every run of requests with arbitrary bodies that starts without categories, every
category is under the slug of its name, no two categories share their slug or their
name, and a request with declared fields is answered by its slug: it is stored exactly
when no category has the slug (and the columns take it), and a conflict is reported
exactly when a live category has it. -/
theorem categories_by_slug (toLowerCase : String → String) (calls : List CategoryCall) :
    let run := (categoryService toLowerCase).run .empty calls
    let history := (categoryService toLowerCase).history .empty calls
    Sluggish toLowerCase run ∧ (run.Indexed fun category => some category.name) ∧
      ∀ e ∈ history, validCreateCategory e.input.body = true → e.input.Declared →
        AnsweredBySlug toLowerCase e := by
  intro run history
  have start : Sluggish toLowerCase .empty :=
    ⟨fun _ mem => absurd mem List.not_mem_nil, fun _ mem => absurd mem List.not_mem_nil⟩
  have permitted : ∀ e ∈ history, True := fun _ _ => trivial
  obtain ⟨final, moments⟩ := Machine.history_invariant (Sluggish toLowerCase) (fun _ => True)
    (fun _ step _ sluggish => sluggish.step step) start permitted
  refine ⟨final, final.names, fun e mem valid declared => ?_⟩
  exact answeredBySlug (Machine.step_of_mem_history mem) (moments e mem).1 valid declared

/-! ### Concurrent requests -/

section Race

variable {ι : Type} {toLowerCase : String → String} {call : ι → CategoryCall}

/-- The two statements of `createCategory`. -/
def categoryContest (toLowerCase : String → String) (call : ι → CategoryCall) :
    Contest ι Categories String ApiError CategoryEntity where
  key i := (call i).slug toLowerCase
  look i t := (categoryBySlug? t ((call i).slug toLowerCase)).map fun _ =>
    .conflict "Category already exists"
  store i t :=
    match (if (call i).fails then none
      else categoryMapping.save (acceptsCategory t) (call i).generated t
        ((call i).toEntity toLowerCase)) with
    | none => .error queryFailed
    | some out => .ok out

/-- A request on its own is `createCategory`. -/
theorem categoryContest_alone (i : ι) (t : Categories) :
    let step (s : Categories × Attempt ApiError CategoryEntity) :=
      (categoryContest toLowerCase call).step i () s.1 s.2
    step (step (t, .ready)) =
      match createCategory toLowerCase t (call i) with
      | .error e => (t, .done (.error e))
      | .ok (row, t') => (t', .done (.ok row)) := by
  simp only [createCategory, Contest.step, categoryContest]
  cases categoryBySlug? t ((call i).slug toLowerCase) with
  | some category => rfl
  | none =>
      simp only [Option.map_none]
      generalize (if (call i).fails = true then none
        else categoryMapping.save (acceptsCategory t) (call i).generated t
          ((call i).toEntity toLowerCase)) = saved
      cases saved <;> rfl

/-- Nothing but a taken slug stands in the way of the request. -/
structure CanCreate (toLowerCase : String → String) (call : CategoryCall) (t : Categories) :
    Prop where
  sluggish : Sluggish toLowerCase t
  fits : call.Fits toLowerCase
  works : call.fails = false
  fresh : t.find? call.generated = none

/-- The category is stored, with the name of the request. -/
structure IsCategory (call : CategoryCall) (t : Categories) (row : CategoryEntity) : Prop where
  stored : row ∈ t.rows
  name : row.name = call.name

theorem categoryContest_store {i : ι} {t t' : Categories} {row : CategoryEntity}
    (valid : ∀ i, validCreateCategory (call i).body = true) (declared : ∀ i, (call i).Declared)
    (stored : (categoryContest toLowerCase call).store i t = .ok (row, t')) :
    row.name = (call i).name ∧ row.slug = (call i).slug toLowerCase ∧
      row.id = (call i).generated ∧ t.insert row = some t' ∧ acceptsCategory t row = true ∧
      categoryMapping.save (acceptsCategory t) (call i).generated t
        ((call i).toEntity toLowerCase) = some (row, t') := by
  simp only [categoryContest] at stored
  split at stored
  · cases stored
  · rename_i out saved
    split_ifs at saved
    cases stored
    have inserts := saved
    rw [Mapping.save_unnamed (toEntity_unnamed (declared i))] at inserts
    obtain ⟨made, accepted, inserted⟩ := Mapping.saveNew_eq_some inserts
    obtain ⟨id, name, slug⟩ := category_columns (valid i) made
    exact ⟨name, slug, id, inserted, accepted, saved⟩

theorem categoryContest_lawful (valid : ∀ i, validCreateCategory (call i).body = true)
    (declared : ∀ i, (call i).Declared)
    (distinct : ∀ i j, (call i).generated = (call j).generated → i = j) :
    (categoryContest toLowerCase call).Lawful
      (fun t slug => ∃ category ∈ t.rows, category.slug = slug)
      (fun i => CanCreate toLowerCase (call i)) (fun i => IsCategory (call i)) := by
  constructor
  · intro i t e seen
    obtain ⟨category, found, -⟩ := Option.map_eq_some_iff.mp seen
    have here := List.find?_some found
    simp only [Bool.and_eq_true, decide_eq_true_eq] at here
    exact ⟨category, List.mem_of_find?_eq_some found, here.2⟩
  · intro i t row t' stored
    obtain ⟨name, slug, -, inserted, accepted, -⟩ := categoryContest_store valid declared stored
    obtain ⟨fresh, rows⟩ := Table.insert_eq_some inserted
    refine ⟨?_, ⟨by simp [rows], name⟩, fun key => ?_⟩
    · rintro ⟨other, mem, same⟩
      have apart := Table.find?_eq_none_iff.mp fresh other mem
      exact (acceptsCategory_eq_true.mp accepted other mem apart).2 (same.trans slug.symm)
    · simp only [rows, List.mem_append, List.mem_singleton, or_and_right, exists_or,
        exists_eq_left, slug]
      exact or_congr Iff.rfl eq_comm
  · intro i t able free
    have isOk := createCategory_isOk able.sluggish (valid i) (declared i)
    obtain ⟨⟨row, t'⟩, created⟩ := isOk.mpr
      ⟨fun category mem same => free ⟨category, mem, same⟩, able.fits, able.works, able.fresh⟩
    refine ⟨(row, t'), ?_⟩
    simp [categoryContest, able.works, (createCategory_eq_ok.mp created).2.2]
  · intro i j t row t' stored other
    obtain ⟨-, -, id, inserted, -, saved⟩ := categoryContest_store valid declared stored
    obtain ⟨-, rows⟩ := Table.insert_eq_some inserted
    constructor
    · intro able
      refine ⟨able.sluggish.save (valid i) saved, able.fits, able.works, ?_⟩
      have apart : (call j).generated ≠ row.id := by
        rw [id]
        exact fun same => other (distinct j i same)
      rw [Table.find?_insert inserted, if_neg apart]
      exact able.fresh
    · intro row' category
      exact ⟨by simp [rows, category.stored], category.name⟩

/-- However requests with declared fields and ids of their own interleave, a slug that was
free gets one category at most, the categories that requests report are stored, and a
request that could have been stored is refused because its slug was taken at the start
or is another's who has succeeded. -/
theorem one_category_per_slug [DecidableEq ι]
    (valid : ∀ i, validCreateCategory (call i).body = true) (declared : ∀ i, (call i).Declared)
    (distinct : ∀ i j, (call i).generated = (call j).generated → i = j) (t : Categories)
    (schedule : List (ι × Unit)) :
    let slug := fun i => (call i).slug toLowerCase
    let final := (interleave (categoryContest toLowerCase call).step).run (Contest.start t) schedule
    (∀ i row, final.locals i = .done (.ok row) →
        IsCategory (call i) final.store row ∧ ∀ category ∈ t.rows, category.slug ≠ slug i) ∧
      (∀ i j row row', final.locals i = .done (.ok row) → final.locals j = .done (.ok row') →
        slug i = slug j → i = j) ∧
      ∀ i e, CanCreate toLowerCase (call i) t → final.locals i = .done (.error e) →
        (∃ category ∈ t.rows, category.slug = slug i) ∨
          ∃ j, j ≠ i ∧ (∃ row, final.locals j = .done (.ok row)) ∧ slug j = slug i := by
  intro slug final
  have lawful := @categoryContest_lawful _ toLowerCase _ valid declared distinct
  obtain ⟨kept, -, fresh, single, lost⟩ := Contest.contest_decided lawful (s := t) schedule
  refine ⟨?_, ?_, ?_⟩
  · intro i row won
    refine ⟨kept i row won, fun category mem same => ?_⟩
    exact fresh i ⟨row, won⟩ ⟨category, mem, same⟩
  · intro i j row row' won won' same
    exact single i j ⟨row, won⟩ ⟨row', won'⟩ same
  · intro i e able refused
    exact lost i able ⟨e, refused⟩

end Race

/-- Two requests for one slug, under names that differ in their case and blanks. -/
def twinCategories (second : Bool) : CategoryCall :=
  ⟨[("name", .str (if second then " korean food" else "Korean Food"))],
    if second then "id2" else "id1", false⟩

/-- The lower case of the letters of the alphabet. -/
def toLowerAscii (text : String) : String := String.ofList (text.toList.map Char.toLower)

/-- Both find the slug free; the second one is stored. -/
theorem twin_categories :
    let final := (interleave (categoryContest toLowerAscii twinCategories).step).run
      (Contest.start .empty) [(false, ()), (true, ()), (true, ()), (false, ())]
    final.locals false = .done (.error queryFailed) ∧
      ((∃ category ∈ (Table.empty : Categories).rows, category.slug = "korean-food") ∨
        ∃ j, j ≠ false ∧ (∃ row, final.locals j = .done (.ok row)) ∧
          (twinCategories j).slug toLowerAscii = "korean-food") := by
  have refused : ((interleave (categoryContest toLowerAscii twinCategories).step).run
      (Contest.start .empty) [(false, ()), (true, ()), (true, ()), (false, ())]).locals false =
        .done (.error queryFailed) := by
    decide +kernel
  have decided := @one_category_per_slug _ toLowerAscii twinCategories _
    (by decide +kernel) (fun i entry mem => by
      rw [twinCategories, List.mem_singleton] at mem
      simp [mem]) (by decide) .empty [(false, ()), (true, ()), (true, ()), (false, ())]
  have able : CanCreate toLowerAscii (twinCategories false) .empty :=
    ⟨⟨fun _ mem => absurd mem List.not_mem_nil, fun _ mem => absurd mem List.not_mem_nil⟩,
      ⟨by decide +kernel, by decide +kernel, by decide +kernel⟩, rfl, rfl⟩
  have slug : (twinCategories false).slug toLowerAscii = "korean-food" := by
    decide +kernel
  refine ⟨refused, ?_⟩
  rw [← slug]
  exact decided.2.2 false _ able refused

end CoupangEats
