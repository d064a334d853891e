import CoupangEats.Base.Json
import CoupangEats.Base.Table

/-!
The upserting save of an object mapper.

`save` writes a plain object to the table its entity is mapped to. The object's
`id` decides where: an object whose `id` is the key of a stored row updates that
row, every other one becomes a new row, under its own `id` or, when it carries
none, under a generated one. A `Mapping` says what the columns of a row are; it
may refuse an object whose values the columns cannot take, and `accepts` stands
for the constraints of the table (unique indexes, foreign keys) on the row that
would be stored. A refused save stores nothing.

The one fact the callers need is the frame (`save_keeps`): a save leaves alone
every row whose key is not the `id` the object carries. Whether the row that a
caller has checked is the row it writes is therefore a question about that `id`.
-/

namespace CoupangEats.Base

/-- How the properties of a plain object reach the columns of a row. -/
structure Mapping (ρ : Type) (key : ρ → String) where
  /-- The new row under an id. -/
  insertRow : String → Fields → Option ρ
  /-- A stored row with the columns the object carries overwritten. -/
  updateRow : ρ → Fields → Option ρ
  key_insertRow : ∀ {id e r}, insertRow id e = some r → key r = id
  key_updateRow : ∀ {row e r}, updateRow row e = some r → key r = key row

namespace Mapping

variable {ρ : Type} {key : ρ → String}

/-- The mapping of a function that writes the columns of a row under an id, over
the stored row if there is one. -/
def ofWrite (write : String → Option ρ → Fields → Option ρ)
    (keyed : ∀ {id base e r}, write id base e = some r → key r = id) : Mapping ρ key where
  insertRow id e := write id none e
  updateRow row e := write (key row) (some row) e
  key_insertRow := keyed
  key_updateRow := keyed

/-- Store `e` as a new row under `id`. -/
def saveNew (m : Mapping ρ key) (accepts : ρ → Bool) (t : Table String ρ key) (id : String)
    (e : Fields) : Option (ρ × Table String ρ key) :=
  match m.insertRow id e with
  | none => none
  | some r => if accepts r then (t.insert r).map fun t' => (r, t') else none

/-- Write `e` over the stored row `row`. -/
def saveOver (m : Mapping ρ key) (accepts : ρ → Bool) (t : Table String ρ key) (row : ρ)
    (e : Fields) : Option (ρ × Table String ρ key) :=
  match h : m.updateRow row e with
  | none => none
  | some r =>
      if accepts r then
        some (r, t.modify (key row) (fun _ => r) fun _ _ => m.key_updateRow h)
      else none

/-- Save a plain object; `generated` is the id of an object that carries none.
An id that is neither a string nor empty is refused. -/
def save (m : Mapping ρ key) (accepts : ρ → Bool) (generated : String) (t : Table String ρ key)
    (e : Fields) : Option (ρ × Table String ρ key) :=
  match e.read "id" with
  | none => m.saveNew accepts t generated e
  | some value =>
      if value.truthy then
        match value with
        | .str id =>
            match t.find? id with
            | some row => m.saveOver accepts t row e
            | none => m.saveNew accepts t id e
        | _ => none
      else m.saveNew accepts t generated e

variable {m : Mapping ρ key} {accepts : ρ → Bool} {generated : String}
  {t t' : Table String ρ key} {e : Fields} {r : ρ}

theorem saveNew_eq_some {id : String} (saved : m.saveNew accepts t id e = some (r, t')) :
    m.insertRow id e = some r ∧ accepts r = true ∧ t.insert r = some t' := by
  unfold saveNew at saved
  split at saved
  · cases saved
  · rename_i made
    split at saved
    · rename_i accepted
      obtain ⟨t'', inserted, same⟩ := Option.map_eq_some_iff.mp saved
      cases same
      exact ⟨made, accepted, inserted⟩
    · cases saved

/-- A new row is stored exactly when it is made and accepted and its id is free. -/
theorem saveNew_isSome {id : String} :
    (∃ out, m.saveNew accepts t id e = some out) ↔
      ∃ r, m.insertRow id e = some r ∧ accepts r = true ∧ t.find? id = none := by
  constructor
  · rintro ⟨⟨r, t'⟩, saved⟩
    obtain ⟨made, accepted, inserted⟩ := saveNew_eq_some saved
    refine ⟨r, made, accepted, ?_⟩
    rw [← m.key_insertRow made]
    exact (Table.insert_eq_some inserted).1
  · rintro ⟨r, made, accepted, free⟩
    rw [← m.key_insertRow made] at free
    obtain ⟨t', inserted⟩ := Table.insert_of_fresh free
    exact ⟨(r, t'), by simp [saveNew, made, accepted, inserted]⟩

/-- An object without an id becomes a new row under the generated one. -/
theorem save_unnamed (unnamed : e.read "id" = none) :
    m.save accepts generated t e = m.saveNew accepts t generated e := by
  simp only [save, unnamed]

theorem saveOver_eq_some {row : ρ} (saved : m.saveOver accepts t row e = some (r, t')) :
    m.updateRow row e = some r ∧ accepts r = true ∧
      ∃ keeps, t' = t.modify (key row) (fun _ => r) keeps := by
  unfold saveOver at saved
  split at saved
  · cases saved
  · rename_i made
    split at saved
    · rename_i accepted
      cases saved
      exact ⟨made, accepted, _, rfl⟩
    · cases saved

/-- What a save does: it updates the stored row whose key is the object's `id`,
or it stores a new row under a key that was free. -/
theorem save_cases (saved : m.save accepts generated t e = some (r, t')) :
    (∃ row keeps, t.find? (key row) = some row ∧ e.read "id" = some (.str (key row)) ∧
        key row ≠ "" ∧ m.updateRow row e = some r ∧ accepts r = true ∧
        t' = t.modify (key row) (fun _ => r) keeps) ∨
      ((∃ id, m.insertRow id e = some r) ∧ accepts r = true ∧ t.insert r = some t') := by
  have new {id : String} (saved : m.saveNew accepts t id e = some (r, t')) :
      (∃ id, m.insertRow id e = some r) ∧ accepts r = true ∧ t.insert r = some t' := by
    obtain ⟨made, accepted, inserted⟩ := saveNew_eq_some saved
    exact ⟨⟨id, made⟩, accepted, inserted⟩
  unfold save at saved
  split at saved
  · exact .inr (new saved)
  · rename_i value hid
    split at saved
    · rename_i truthy
      split at saved
      · rename_i id _
        split at saved
        · rename_i row found
          obtain ⟨made, accepted, keeps, rfl⟩ := saveOver_eq_some saved
          have hkey := Table.key_of_find? found
          exact .inl ⟨row, keeps, by rw [hkey, found], by rw [hid, hkey],
            by simpa [Json.truthy, hkey] using truthy, made, accepted, rfl⟩
        · exact .inr (new saved)
      · cases saved
    · exact .inr (new saved)

/-- What is saved is stored. -/
theorem save_stores (saved : m.save accepts generated t e = some (r, t')) : r ∈ t'.rows := by
  rcases save_cases saved with ⟨row, keeps, found, -, -, updated, -, rfl⟩ | ⟨-, -, inserted⟩
  · refine Table.mem_of_find? (k := key row) ?_
    rw [Table.find?_modify, if_pos rfl, found, Option.map_some]
  · rw [(Table.insert_eq_some inserted).2]
    exact List.mem_append_right _ List.mem_cons_self

/-- What is read after a save: the saved row under its key, and under every other
key what was there. -/
theorem find?_save (saved : m.save accepts generated t e = some (r, t')) (k : String) :
    t'.find? k = if k = key r then some r else t.find? k := by
  rcases save_cases saved with ⟨row, keeps, found, -, -, updated, -, rfl⟩ | ⟨-, -, inserted⟩
  · rw [Table.find?_modify, found, Option.map_some, m.key_updateRow updated]
  · exact Table.find?_insert inserted k

/-- What is saved is accepted. -/
theorem save_accepted (saved : m.save accepts generated t e = some (r, t')) :
    accepts r = true := by
  rcases save_cases saved with ⟨-, -, -, -, -, -, accepted, -⟩ | ⟨-, accepted, -⟩ <;>
    exact accepted

/-- A save keeps what is true of every row, when it is true of the new row and
stays true of an updated one. -/
theorem save_forall {P : ρ → Prop} (saved : m.save accepts generated t e = some (r, t'))
    (all : ∀ row ∈ t.rows, P row) (insert : ∀ id, m.insertRow id e = some r → P r)
    (update : ∀ row, P row → m.updateRow row e = some r → P r) : ∀ row ∈ t'.rows, P row := by
  intro row' mem
  rcases save_cases saved with ⟨old, keeps, found, -, -, updated, -, rfl⟩ |
    ⟨⟨id, made⟩, -, inserted⟩
  · obtain ⟨row, stored, same⟩ := Table.mem_modify.mp mem
    split_ifs at same
    · rw [← same]
      exact update old (all old (Table.mem_of_find? found)) updated
    · rw [← same]
      exact all row stored
  · rw [(Table.insert_eq_some inserted).2, List.mem_append, List.mem_singleton] at mem
    rcases mem with old | rfl
    · exact all row' old
    · exact insert id made

/-- The frame of a save: a row whose key is not the object's `id` stays. -/
theorem save_keeps (saved : m.save accepts generated t e = some (r, t')) {row : ρ}
    (mem : row ∈ t.rows) (other : e.read "id" ≠ some (.str (key row))) : row ∈ t'.rows := by
  rcases save_cases saved with ⟨target, keeps, -, hid, -, -, -, rfl⟩ | ⟨-, -, inserted⟩
  · have hne : key row ≠ key target := by
      intro same
      rw [hid, same] at other
      exact other rfl
    refine Table.mem_of_find? (k := key row) ?_
    rw [Table.find?_modify, if_neg hne]
    exact Table.find?_of_mem mem
  · rw [(Table.insert_eq_some inserted).2]
    exact List.mem_append_left _ mem

/-- An object with the `id` of a stored row is an update of that row. -/
theorem save_named {row : ρ} (found : t.find? (key row) = some row)
    (hid : e.read "id" = some (.str (key row))) (nonempty : key row ≠ "") :
    m.save accepts generated t e = m.saveOver accepts t row e := by
  simp [save, hid, Json.truthy, nonempty, found]

/-- Such an update is stored when it is made and accepted. -/
theorem save_over (generated : String) {row : ρ} (found : t.find? (key row) = some row)
    (hid : e.read "id" = some (.str (key row))) (nonempty : key row ≠ "")
    (made : m.updateRow row e = some r) (accepted : accepts r = true) :
    m.save accepts generated t e =
      some (r, t.modify (key row) (fun _ => r) fun _ _ => m.key_updateRow made) := by
  rw [save_named found hid nonempty]
  unfold saveOver
  split
  · rename_i refused
    rw [made] at refused
    cases refused
  · rename_i r' made'
    cases made.symm.trans made'
    rw [if_pos accepted]

end Mapping

end CoupangEats.Base
