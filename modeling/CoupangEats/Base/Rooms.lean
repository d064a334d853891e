import Mathlib.Data.List.Nodup

/-!
Rooms that sockets join.

`Rooms` records who is in which room, each once. A socket stays in the rooms it
has joined until it leaves them all; what is sent to a room goes to its `members`.
Every operation has one lemma that says who is in a room afterwards, and every
member is reached once (`nodup_members`).
-/

namespace CoupangEats.Base

/-- Who is in which room. -/
structure Rooms (σ ρ : Type) where
  pairs : List (σ × ρ)
  nodup : pairs.Nodup

namespace Rooms

variable {σ ρ : Type}

def empty : Rooms σ ρ := ⟨[], List.nodup_nil⟩

/-- The socket is in the room. -/
def Joined (t : Rooms σ ρ) (socket : σ) (room : ρ) : Prop := (socket, room) ∈ t.pairs

variable [DecidableEq σ] [DecidableEq ρ]

def join (t : Rooms σ ρ) (socket : σ) (room : ρ) : Rooms σ ρ :=
  if h : (socket, room) ∈ t.pairs then t
  else ⟨(socket, room) :: t.pairs, List.nodup_cons.mpr ⟨h, t.nodup⟩⟩

/-- Leave all rooms. -/
def leave (t : Rooms σ ρ) (socket : σ) : Rooms σ ρ :=
  ⟨t.pairs.filter fun pair => pair.1 ≠ socket, t.nodup.filter _⟩

def members (t : Rooms σ ρ) (room : ρ) : List σ :=
  (t.pairs.filter fun pair => pair.2 = room).map Prod.fst

variable {t : Rooms σ ρ} {socket other : σ} {room place : ρ}

omit [DecidableEq σ] [DecidableEq ρ] in
theorem not_joined_empty : ¬ (empty : Rooms σ ρ).Joined socket room := List.not_mem_nil

theorem joined_join :
    (t.join socket room).Joined other place ↔
      other = socket ∧ place = room ∨ t.Joined other place := by
  unfold join Joined
  split
  · rename_i here
    refine ⟨.inr, ?_⟩
    rintro (⟨rfl, rfl⟩ | old)
    · exact here
    · exact old
  · rw [List.mem_cons, Prod.mk.injEq]

omit [DecidableEq ρ] in
theorem joined_leave :
    (t.leave socket).Joined other place ↔ t.Joined other place ∧ other ≠ socket := by
  simp [leave, Joined]

omit [DecidableEq σ] in
theorem mem_members : socket ∈ t.members room ↔ t.Joined socket room := by
  simp [members, Joined]

omit [DecidableEq σ] in
/-- Every member is reached once. -/
theorem nodup_members : (t.members room).Nodup := by
  refine List.Nodup.map_on ?_ (t.nodup.filter _)
  rintro ⟨s, r⟩ mem ⟨s', r'⟩ mem' same
  have here : r = room := by simpa using (List.mem_filter.mp mem).2
  have here' : r' = room := by simpa using (List.mem_filter.mp mem').2
  rw [here, here', show s = s' from same]

end Rooms

end CoupangEats.Base
