import Mathlib.Data.List.Induction

/-!
Schemas, and scripts that change them.

A schema has tables and the foreign keys between them. A table can be added under a free
name, and a foreign key when its columns are there and fit; whatever is still needed
cannot be removed.

* `removeAll_undo`: the removals of what a script adds, in the opposite order, undo it.
* `addAll_append`, `addAll_free`: a script that succeeds on the empty schema succeeds on
  another one exactly when its names are free there, and then adds the same to it.
-/

namespace CoupangEats.Base

/-! ### Schemas -/

inductive ColumnType where
  | varchar (length : ℕ)
  | int
  | tinyint
  | json
  | timestamp (digits : ℕ)
  | enum (values : List String)
  deriving DecidableEq

/-- A reference may be to a text of another length. -/
def ColumnType.fits : ColumnType → ColumnType → Bool
  | .varchar _, .varchar _ => true
  | type, type' => type = type'

structure Column where
  name : String
  type : ColumnType
  nullable : Bool
  deriving DecidableEq

/-- A unique index of one column. -/
structure UniqueIndex where
  name : String
  column : String
  deriving DecidableEq

structure TableDef where
  name : String
  columns : List Column
  uniques : List UniqueIndex
  primaryKey : String
  deriving DecidableEq

/-- What becomes of a row when the row that it refers to is deleted. -/
inductive OnDelete where
  | cascade
  | setNull
  | noAction
  deriving DecidableEq

structure ForeignKey where
  name : String
  table : String
  column : String
  target : String
  targetColumn : String
  onDelete : OnDelete
  deriving DecidableEq

/-- Foreign keys are between tables that are there. -/
@[ext] structure Schema where
  tables : List TableDef
  foreignKeys : List ForeignKey
  closed : ∀ key ∈ foreignKeys,
    key.table ∈ tables.map TableDef.name ∧ key.target ∈ tables.map TableDef.name
  deriving DecidableEq

/-- A change that makes a schema larger. -/
inductive Addition where
  | createTable (table : TableDef)
  | addForeignKey (key : ForeignKey)

inductive Removal where
  | dropForeignKey (table name : String)
  | dropIndex (table name : String)
  | dropTable (name : String)

/-- The columns of the primary key and of the indexes are there, and each index has a name
of its own. -/
def TableDef.Valid (table : TableDef) : Prop :=
  table.primaryKey ∈ table.columns.map Column.name ∧
    (∀ index ∈ table.uniques, index.column ∈ table.columns.map Column.name) ∧
    (table.uniques.map UniqueIndex.name).Nodup

instance (table : TableDef) : Decidable table.Valid :=
  inferInstanceAs (Decidable (_ ∧ _ ∧ _))

namespace Schema

def empty : Schema := ⟨[], [], by simp⟩

def table? (s : Schema) (name : String) : Option TableDef :=
  s.tables.find? fun table => table.name = name

/-- The columns of a foreign key are there and fit, it is to a primary key, and it can be
null when that is to be its value. -/
def admits (s : Schema) (key : ForeignKey) : Bool :=
  match s.table? key.table, s.table? key.target with
  | some table, some target =>
      match table.columns.find? fun column => column.name = key.column,
        target.columns.find? fun column => column.name = key.targetColumn with
      | some column, some column' =>
          target.primaryKey = key.targetColumn && column.type.fits column'.type &&
            (key.onDelete != .setNull || column.nullable)
      | _, _ => false
  | _, _ => false

/-- A foreign key needs the index when no other index has its column. -/
def needs (s : Schema) (table : TableDef) (index : UniqueIndex) : Bool :=
  s.foreignKeys.any (fun key => key.table = table.name ∧ key.column = index.column) &&
    index.column != table.primaryKey &&
    !table.uniques.any fun other => other.column = index.column ∧ other.name ≠ index.name

theorem name_mem_of_table? {s : Schema} {name : String} {table : TableDef}
    (found : s.table? name = some table) : name ∈ s.tables.map TableDef.name := by
  have same := List.find?_some found
  rw [decide_eq_true_eq] at same
  rw [← same]
  exact List.mem_map_of_mem (List.mem_of_find?_eq_some found)

theorem closed_of_admits {s : Schema} {key : ForeignKey} (admitted : s.admits key = true) :
    key.table ∈ s.tables.map TableDef.name ∧ key.target ∈ s.tables.map TableDef.name := by
  unfold admits at admitted
  split at admitted
  · rename_i table target found found'
    exact ⟨name_mem_of_table? found, name_mem_of_table? found'⟩
  · cases admitted

/-- The schema with one more table. -/
def withTable (s : Schema) (table : TableDef) : Schema where
  tables := s.tables ++ [table]
  foreignKeys := s.foreignKeys
  closed key mem := by
    rw [List.map_append, List.mem_append, List.mem_append]
    exact ⟨.inl (s.closed key mem).1, .inl (s.closed key mem).2⟩

def add (s : Schema) : Addition → Option Schema
  | .createTable table =>
      if table.name ∉ s.tables.map TableDef.name ∧ table.Valid then some (s.withTable table)
      else none
  | .addForeignKey key =>
      if fits : key.name ∉ s.foreignKeys.map ForeignKey.name ∧ s.admits key = true then
        some
          { s with
            foreignKeys := s.foreignKeys ++ [key]
            closed := fun key' mem => by
              rcases List.mem_append.mp mem with old | new
              · exact s.closed key' old
              · rw [List.mem_singleton.mp new]
                exact closed_of_admits fits.2 }
      else none

/-- The table of the name without the index. -/
def withoutIndex (table name : String) (other : TableDef) : TableDef :=
  if other.name = table then
    { other with uniques := other.uniques.filter fun index => index.name ≠ name }
  else other

theorem name_withoutIndex (table name : String) :
    TableDef.name ∘ withoutIndex table name = TableDef.name := by
  funext other
  simp only [Function.comp_apply, withoutIndex]
  split <;> rfl

def remove (s : Schema) : Removal → Option Schema
  | .dropForeignKey table name =>
      if s.foreignKeys.any fun key => key.name = name ∧ key.table = table then
        some
          { s with
            foreignKeys := s.foreignKeys.filter fun key => key.name ≠ name
            closed := fun key mem => s.closed key (List.mem_filter.mp mem).1 }
      else none
  | .dropIndex table name =>
      match s.table? table with
      | none => none
      | some found =>
          match found.uniques.find? fun index => index.name = name with
          | none => none
          | some index =>
              if s.needs found index then none
              else
                some
                  { s with
                    tables := s.tables.map (withoutIndex table name)
                    closed := fun key mem => by
                      rw [List.map_map, name_withoutIndex]
                      exact s.closed key mem }
  | .dropTable name =>
      if unused : name ∈ s.tables.map TableDef.name ∧
          ∀ key ∈ s.foreignKeys, key.target = name → key.table = name then
        some
          { tables := s.tables.filter fun table => table.name ≠ name
            foreignKeys := s.foreignKeys.filter fun key => key.table ≠ name
            closed := fun key mem => by
              obtain ⟨mem, other⟩ := List.mem_filter.mp mem
              rw [decide_eq_true_eq] at other
              have kept {name' : String} (mem : name' ∈ s.tables.map TableDef.name)
                  (other : name' ≠ name) : name' ∈
                    (s.tables.filter fun table => table.name ≠ name).map TableDef.name := by
                obtain ⟨table, found, rfl⟩ := List.mem_map.mp mem
                exact List.mem_map_of_mem (List.mem_filter.mpr ⟨found, decide_eq_true other⟩)
              exact ⟨kept (s.closed key mem).1 other,
                kept (s.closed key mem).2 fun same => other (unused.2 key mem same)⟩ }
      else none

def addAll (s : Schema) (script : List Addition) : Option Schema := script.foldlM add s

def removeAll (s : Schema) (script : List Removal) : Option Schema := script.foldlM remove s

end Schema

/-! ### Undoing a script -/

/-- What takes an addition back: the indexes of a table go one by one. -/
def Addition.undo : Addition → List Removal
  | .createTable table =>
      (table.uniques.reverse.map fun index => .dropIndex table.name index.name) ++
        [.dropTable table.name]
  | .addForeignKey key => [.dropForeignKey key.table key.name]

def undo (script : List Addition) : List Removal := script.reverse.flatMap Addition.undo

namespace Schema

section Undo

variable {s s' : Schema} {table : TableDef}

/-- No foreign key is from or to a table that is not there. -/
theorem ne_of_free {key : ForeignKey} (mem : key ∈ s.foreignKeys) {name : String}
    (free : name ∉ s.tables.map TableDef.name) : key.table ≠ name ∧ key.target ≠ name := by
  constructor
  · rintro rfl
    exact free (s.closed key mem).1
  · rintro rfl
    exact free (s.closed key mem).2

theorem ne_of_mem_tables {other : TableDef} (mem : other ∈ s.tables) {name : String}
    (free : name ∉ s.tables.map TableDef.name) : other.name ≠ name := by
  rintro rfl
  exact free (List.mem_map_of_mem mem)

theorem table?_withTable (free : table.name ∉ s.tables.map TableDef.name) :
    (s.withTable table).table? table.name = some table := by
  have others : (s.tables.find? fun other => other.name = table.name) = none := by
    rw [List.find?_eq_none]
    intro other mem
    simpa using ne_of_mem_tables mem free
  rw [table?, withTable, List.find?_append, others, Option.none_or, List.find?_singleton,
    if_pos (decide_eq_true rfl)]

theorem remove_withTable (free : table.name ∉ s.tables.map TableDef.name) :
    (s.withTable table).remove (.dropTable table.name) = some s := by
  have unused : table.name ∈ (s.withTable table).tables.map TableDef.name ∧
      ∀ key ∈ (s.withTable table).foreignKeys, key.target = table.name →
        key.table = table.name := by
    refine ⟨by simp [withTable], fun key mem here => ?_⟩
    exact absurd here (ne_of_free (s := s) mem free).2
  rw [remove, dif_pos unused, Option.some.injEq]
  apply Schema.ext
  · have kept : s.tables.filter (fun other => other.name ≠ table.name) = s.tables :=
      List.filter_eq_self.mpr fun other mem => decide_eq_true (ne_of_mem_tables mem free)
    simpa [withTable, List.filter_append] using kept
  · exact List.filter_eq_self.mpr fun key mem =>
      decide_eq_true (ne_of_free (s := s) mem free).1

/-- The last index of a new table goes. -/
theorem remove_index {uniques : List UniqueIndex} {index : UniqueIndex}
    (free : table.name ∉ s.tables.map TableDef.name)
    (distinct : ((uniques ++ [index]).map UniqueIndex.name).Nodup) :
    (s.withTable { table with uniques := uniques ++ [index] }).remove
        (.dropIndex table.name index.name) =
      some (s.withTable { table with uniques := uniques }) := by
  have others : ∀ other ∈ uniques, other.name ≠ index.name := by
    intro other mem same
    rw [List.map_append, List.nodup_append] at distinct
    exact distinct.2.2 _ (List.mem_map_of_mem mem) _ (by simp) same
  have found : (uniques ++ [index]).find? (fun other => other.name = index.name) = some index := by
    rw [List.find?_append, List.find?_eq_none.mpr, Option.none_or, List.find?_singleton,
      if_pos (decide_eq_true rfl)]
    intro other mem
    simpa using others other mem
  have unneeded : (s.withTable { table with uniques := uniques ++ [index] }).needs
      { table with uniques := uniques ++ [index] } index = false := by
    have silent : (s.foreignKeys.any fun key =>
        key.table = table.name ∧ key.column = index.column) = false := by
      rw [List.any_eq_false]
      intro key mem
      simpa using fun here => absurd here (ne_of_free mem free).1
    simp only [needs, withTable, silent, Bool.false_and]
  have here := @table?_withTable s { table with uniques := uniques ++ [index] } free
  simp only at here
  simp only [remove, here, found, unneeded, Bool.false_eq_true, if_false, Option.some.injEq]
  apply Schema.ext
  · have same : s.tables.map (withoutIndex table.name index.name) = s.tables := by
      conv => rhs; rw [← List.map_id s.tables]
      exact List.map_congr_left fun other mem => if_neg (ne_of_mem_tables mem free)
    simpa [withTable, same, withoutIndex, List.filter_append] using others
  · rfl

/-- A new table loses its indexes, and then goes. -/
theorem remove_undo_table (free : table.name ∉ s.tables.map TableDef.name)
    (distinct : (table.uniques.map UniqueIndex.name).Nodup) :
    (s.withTable table).removeAll (Addition.createTable table).undo = some s := by
  obtain ⟨name, columns, uniques, primaryKey⟩ := table
  induction uniques using List.reverseRecOn with
  | nil =>
      have gone := remove_withTable free
      simpa [Addition.undo, removeAll] using gone
  | append_singleton uniques index ih =>
      have fewer : (uniques.map UniqueIndex.name).Nodup := by
        rw [List.map_append] at distinct
        exact (List.nodup_append.mp distinct).1
      have first := @remove_index s ⟨name, columns, uniques, primaryKey⟩ uniques index free distinct
      simp only [Addition.undo, List.reverse_append, List.reverse_singleton, List.map_cons,
        List.cons_append, removeAll, List.foldlM_cons]
      rw [show Schema.remove _ _ = _ from first]
      exact ih free fewer

theorem remove_undo {addition : Addition} (added : s.add addition = some s') :
    s'.removeAll addition.undo = some s := by
  cases addition with
  | createTable table =>
      simp only [add] at added
      split at added
      · rename_i fits
        cases added
        exact remove_undo_table fits.1 fits.2.2.2
      · cases added
  | addForeignKey key =>
      simp only [add] at added
      split at added
      · rename_i fits
        cases added
        have others : ∀ other ∈ s.foreignKeys, other.name ≠ key.name :=
          fun other mem same => fits.1 (same ▸ List.mem_map_of_mem mem)
        have kept : s.foreignKeys.filter (fun other => other.name ≠ key.name) = s.foreignKeys :=
          List.filter_eq_self.mpr fun other mem => decide_eq_true (others other mem)
        simp only [Addition.undo, removeAll, List.foldlM_cons, List.foldlM_nil, remove]
        rw [if_pos (by simp)]
        simp only [Option.pure_def, Option.bind_eq_bind, Option.bind_some, Option.some.injEq]
        apply Schema.ext
        · rfl
        · simpa [List.filter_append] using kept
      · cases added

/-- The removals of what a script adds, in the opposite order, undo it. -/
theorem removeAll_undo {script : List Addition} (added : s.addAll script = some s') :
    s'.removeAll (undo script) = some s := by
  induction script generalizing s with
  | nil =>
      cases added
      rfl
  | cons addition rest ih =>
      rw [addAll, List.foldlM_cons] at added
      obtain ⟨next, first, later⟩ := Option.bind_eq_some_iff.mp added
      have undone : List.foldlM remove s' (rest.reverse.flatMap Addition.undo) = some next :=
        ih later
      rw [undo, List.reverse_cons, List.flatMap_append, removeAll, List.foldlM_append, undone]
      simpa [removeAll] using remove_undo first

end Undo

/-! ### Scripts on larger schemas -/

section Frame

variable {base s s' : Schema}

/-- The tables and foreign keys of both. -/
def append (base s : Schema) : Schema where
  tables := base.tables ++ s.tables
  foreignKeys := base.foreignKeys ++ s.foreignKeys
  closed key mem := by
    rw [List.map_append, List.mem_append, List.mem_append]
    rcases List.mem_append.mp mem with old | new
    · exact ⟨.inl (base.closed key old).1, .inl (base.closed key old).2⟩
    · exact ⟨.inr (s.closed key new).1, .inr (s.closed key new).2⟩

/-- The name of the addition is free in the schema. -/
def Free (base : Schema) : Addition → Prop
  | .createTable table => table.name ∉ base.tables.map TableDef.name
  | .addForeignKey key => key.name ∉ base.foreignKeys.map ForeignKey.name

/-- The schemas have no table name in common. -/
def Apart (base s : Schema) : Prop :=
  ∀ table ∈ s.tables, table.name ∉ base.tables.map TableDef.name

theorem table?_append {name : String} {table : TableDef} (apart : base.Apart s)
    (found : s.table? name = some table) : (base.append s).table? name = some table := by
  have here : table.name = name := by simpa using List.find?_some found
  have free := apart table (List.mem_of_find?_eq_some found)
  have others : (base.tables.find? fun other => other.name = name) = none := by
    rw [List.find?_eq_none]
    intro other mem
    simpa using ne_of_mem_tables mem (here ▸ free)
  rw [table?, append, List.find?_append, others, Option.none_or]
  exact found

theorem admits_append {key : ForeignKey} (apart : base.Apart s) (admitted : s.admits key = true) :
    (base.append s).admits key = true := by
  unfold admits at admitted ⊢
  split at admitted
  · rename_i table target found found'
    simp only [table?_append apart found, table?_append apart found']
    exact admitted
  · cases admitted

/-- An addition whose name is free is made in the larger schema, too. -/
theorem add_append {addition : Addition} (apart : base.Apart s) (free : base.Free addition)
    (added : s.add addition = some s') :
    (base.append s).add addition = some (base.append s') ∧ base.Apart s' := by
  cases addition with
  | createTable table =>
      simp only [add] at added
      split at added
      · rename_i fits
        cases added
        have fits' : table.name ∉ (base.append s).tables.map TableDef.name ∧ table.Valid := by
          rw [append, List.map_append, List.mem_append, not_or]
          exact ⟨⟨free, fits.1⟩, fits.2⟩
        constructor
        · rw [add, if_pos fits', Option.some.injEq]
          apply Schema.ext
          · exact List.append_assoc _ _ _
          · rfl
        · intro other mem
          rcases List.mem_append.mp mem with old | new
          · exact apart other old
          · rw [List.mem_singleton.mp new]
            exact free
      · cases added
  | addForeignKey key =>
      simp only [add] at added
      split at added
      · rename_i fits
        cases added
        have fits' : key.name ∉ (base.append s).foreignKeys.map ForeignKey.name ∧
            (base.append s).admits key = true := by
          rw [append, List.map_append, List.mem_append, not_or]
          exact ⟨⟨free, fits.1⟩, admits_append apart fits.2⟩
        refine ⟨?_, apart⟩
        rw [add, dif_pos fits', Option.some.injEq]
        apply Schema.ext
        · rfl
        · exact List.append_assoc _ _ _
      · cases added

/-- A script whose names are free adds to a larger schema what it adds to a smaller one. -/
theorem addAll_append {script : List Addition} (apart : base.Apart s)
    (free : ∀ addition ∈ script, base.Free addition) (added : s.addAll script = some s') :
    (base.append s).addAll script = some (base.append s') := by
  induction script generalizing s with
  | nil =>
      cases added
      rfl
  | cons addition rest ih =>
      rw [addAll, List.foldlM_cons] at added
      obtain ⟨next, first, later⟩ := Option.bind_eq_some_iff.mp added
      obtain ⟨here, apart'⟩ := add_append apart (free addition (List.mem_cons_self ..)) first
      rw [addAll, List.foldlM_cons, here]
      exact ih apart' (fun other mem => free other (List.mem_cons_of_mem _ mem)) later

theorem add_free {addition : Addition} (added : s.add addition = some s') :
    s.Free addition ∧ ∀ other, s'.Free other → s.Free other := by
  cases addition with
  | createTable table =>
      simp only [add] at added
      split at added
      · rename_i fits
        cases added
        refine ⟨fits.1, fun other free => ?_⟩
        cases other with
        | createTable table' =>
            intro mem
            apply free
            rw [withTable, List.map_append]
            exact List.mem_append_left _ mem
        | addForeignKey key => exact free
      · cases added
  | addForeignKey key =>
      simp only [add] at added
      split at added
      · rename_i fits
        cases added
        refine ⟨fits.1, fun other free => ?_⟩
        cases other with
        | createTable table => exact free
        | addForeignKey key' =>
            intro mem
            apply free
            rw [List.map_append]
            exact List.mem_append_left _ mem
      · cases added

/-- A script that succeeds has found all of its names free. -/
theorem addAll_free {script : List Addition} (added : s.addAll script = some s') :
    ∀ addition ∈ script, s.Free addition := by
  induction script generalizing s with
  | nil => exact fun addition mem => absurd mem List.not_mem_nil
  | cons addition rest ih =>
      rw [addAll, List.foldlM_cons] at added
      obtain ⟨next, first, later⟩ := Option.bind_eq_some_iff.mp added
      obtain ⟨free, before⟩ := add_free first
      intro other mem
      rcases List.mem_cons.mp mem with rfl | mem
      · exact free
      · exact before other (ih later other mem)

theorem empty_append (base : Schema) : base.append empty = base := by
  apply Schema.ext
  · exact List.append_nil _
  · exact List.append_nil _

end Frame

end Schema

end CoupangEats.Base
