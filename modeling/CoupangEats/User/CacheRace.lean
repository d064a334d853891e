import CoupangEats.Base.Interleave
import CoupangEats.User.Cache

/-!
Concurrent reads and updates of one profile.

A `getUser` call that has missed the cache reads the row and writes what it has
read into the cache; between the two an `updateUser` call can save the row and
delete the entry, and the late write puts the old account back for a minute.
Only such a write goes wrong: as long as every value is still that of the row
when it is written, or some update has yet to delete the entry, the completed
calls leave no entry that differs from the row (`entry_current`).
-/

namespace CoupangEats

open CoupangEats.Base

/-! ### Calls and their steps -/

/-- How far a `getUser` call has got: the cache looked up in vain, the row
read. -/
inductive ReadPhase where
  | ready
  | missed
  | loaded (result : Json)
  | done (result : Except ApiError Json)
  deriving DecidableEq

/-- How far an `updateUser` call has got: the row read, the row saved. -/
inductive UpdatePhase where
  | ready
  | found (user : UserRow)
  | saved
  | done (result : Except ApiError Unit)
  deriving DecidableEq

/-- A call and how far it has got. -/
inductive ProfilePhase where
  | reading (phase : ReadPhase)
  | updating (dto : Fields) (hashedPassword : String) (phase : UpdatePhase)
  deriving DecidableEq

/-- A call of the wrapped `getUser`, or of `updateUser` with the hash of its
password. -/
inductive ProfileCall where
  | getUser
  | updateUser (dto : Fields) (hashedPassword : String)

/-- The call has done nothing. -/
def ProfileCall.start : ProfileCall → ProfilePhase
  | .getUser => .reading .ready
  | .updateUser dto hashedPassword => .updating dto hashedPassword .ready

/-- The call has returned. -/
def ProfilePhase.finished : ProfilePhase → Bool
  | .reading (.done _) | .updating _ _ (.done _) => true
  | _ => false

section Threads

variable {ι : Type} (userId : String)

/-- One step of a `getUser` call: the cache read, the row read, the cache
written. -/
def readStep (now : Time) (s : AccountState) : ReadPhase → AccountState × ReadPhase
  | .ready =>
      match (cacheGet s.redis now ("user/" ++ userId)).filter Json.truthy with
      | some cachedData => (s, .done (.ok cachedData))
      | none => (s, .missed)
  | .missed =>
      match readUser s.db userId with
      | .error e => (s, .done (.error e))
      | .ok result => (s, .loaded result)
  | .loaded result =>
      ({ s with redis := cacheSet s.redis now ("user/" ++ userId) result (some 60) },
        .done (.ok result))
  | .done result => (s, .done result)

/-- One step of an `updateUser` call: the row read, the row saved, the entry
deleted. -/
def updateStep (dto : Fields) (hashedPassword : String) (s : AccountState) :
    UpdatePhase → AccountState × UpdatePhase
  | .ready =>
      match s.db.user? userId with
      | none => (s, .done (.error (.notFound ("don't exist " ++ userId))))
      | some user => (s, .found user)
  | .found user => ({ s with db := saveUser s.db (updatedUser user dto hashedPassword) }, .saved)
  | .saved => ({ s with redis := cacheDel s.redis ("user/" ++ userId) }, .done (.ok ()))
  | .done result => (s, .done result)

/-- One step of a call. -/
def profileStep : ThreadStep ι Time AccountState ProfilePhase
  | _, now, s, .reading phase =>
      let next := readStep userId now s phase
      (next.1, .reading next.2)
  | _, _, s, .updating dto hashedPassword phase =>
      let next := updateStep userId dto hashedPassword s phase
      (next.1, .updating dto hashedPassword next.2)

/-- A `getUser` call on its own is the wrapped method. -/
theorem readStep_alone (s : AccountState) (first second last : Time) :
    let step (now : Time) (s : AccountState × ReadPhase) := readStep userId now s.1 s.2
    let env : WrapEnv := ⟨first, last, false, false, false⟩
    step last (step second (step first (s, .ready))) =
      ((getUser s userId env).1, .done (getUser s userId env).2) := by
  simp only [readStep, getUser, wrapMethod, Bool.false_eq_true, if_false]
  cases (cacheGet s.redis first ("user/" ++ userId)).filter Json.truthy with
  | some cached => rfl
  | none => cases readUser s.db userId <;> rfl

/-- An `updateUser` call on its own is `updateUser`. -/
theorem updateStep_alone (dto : Fields) (hashedPassword : String) (s : AccountState) :
    let step (s : AccountState × UpdatePhase) := updateStep userId dto hashedPassword s.1 s.2
    let env : UpdateEnv := ⟨hashedPassword, false, false⟩
    step (step (step (s, .ready))) =
      ((updateUser s userId dto env).1, .done (updateUser s userId dto env).2) := by
  simp only [updateStep, updateUser, Bool.false_eq_true, if_false]
  cases s.db.user? userId <;> rfl

/-- The interleavings of the calls. -/
abbrev profileRace [DecidableEq ι] :
    Machine (Config ι AccountState ProfilePhase) (ι × Time) Unit :=
  interleave (profileStep userId)

/-- The start: no call has done anything. -/
def profileStart (s : AccountState) (calls : ι → ProfileCall) :
    Config ι AccountState ProfilePhase :=
  ⟨s, fun i => (calls i).start⟩

/-- The cache has no entry of the user that differs from the row. -/
def EntryCurrent (s : AccountState) : Prop :=
  ∀ cached, s.redis.Holds ("user/" ++ userId) cached → readUser s.db userId = .ok cached

/-- The call is an update that has yet to delete the entry. -/
def ProfilePhase.Pending (db : Db) : ProfilePhase → Prop
  | .updating _ _ .ready => (db.user? userId).isSome = true
  | .updating _ _ (.found _) | .updating _ _ .saved => True
  | _ => False

/-- The condition on a step of a call: a value that is written into the cache is
still that of the row, or some update has yet to delete the entry. -/
def SetsCurrent (c : Config ι AccountState ProfilePhase) (i : ι) : Prop :=
  match c.locals i with
  | .reading (.loaded result) =>
      readUser c.store.db userId = .ok result ∨ ∃ j, (c.locals j).Pending userId c.store.db
  | _ => True

/-- The invariant: an entry that differs from the row will be deleted. -/
def EntryPending (c : Config ι AccountState ProfilePhase) : Prop :=
  ∀ cached, c.store.redis.Holds ("user/" ++ userId) cached →
    readUser c.store.db userId = .ok cached ∨ ∃ j, (c.locals j).Pending userId c.store.db

end Threads

/-! ### One step -/

section Step

variable {ι : Type} {userId : String}

/-- What a step does: it changes nothing, or it writes a value into the cache, or
it saves an account and has the entry still to delete, or it deletes the entry. -/
theorem profileStep_cases (userId : String) (i : ι) (now : Time) (s : AccountState)
    (phase : ProfilePhase) :
    let out := profileStep userId i now s phase
    (out.1 = s ∧ (phase.Pending userId s.db → out.2.Pending userId s.db)) ∨
      (∃ result, phase = .reading (.loaded result) ∧
        out.1 = { s with redis := cacheSet s.redis now ("user/" ++ userId) result (some 60) }) ∨
      (∃ user, out.1 = { s with db := saveUser s.db user } ∧ out.2.Pending userId out.1.db) ∨
      out.1 = { s with redis := cacheDel s.redis ("user/" ++ userId) } := by
  cases phase with
  | reading phase =>
      cases phase with
      | ready =>
          left
          simp only [profileStep, readStep]
          split
          · exact ⟨rfl, id⟩
          · exact ⟨rfl, id⟩
      | missed =>
          left
          simp only [profileStep, readStep]
          split
          · exact ⟨rfl, id⟩
          · exact ⟨rfl, id⟩
      | loaded result => exact .inr (.inl ⟨result, rfl, rfl⟩)
      | done result => exact .inl ⟨rfl, id⟩
  | updating dto hashedPassword phase =>
      cases phase with
      | ready =>
          left
          cases known : s.db.user? userId with
          | none =>
              simp only [profileStep, updateStep, known]
              refine ⟨trivial, ?_⟩
              intro pending
              rw [ProfilePhase.Pending, known] at pending
              cases pending
          | some user =>
              simp only [profileStep, updateStep, known]
              exact ⟨trivial, fun _ => trivial⟩
      | found user => exact .inr (.inr (.inl ⟨_, rfl, trivial⟩))
      | saved => exact .inr (.inr (.inr rfl))
      | done result => exact .inl ⟨rfl, id⟩

variable [DecidableEq ι] {e : Event (Config ι AccountState ProfilePhase) (ι × Time) Unit}

/-- Where the accounts stay and the moving call stays pending, some update is
still pending. -/
theorem pending_of_step (others : ∀ j, j ≠ e.input.1 → e.after.locals j = e.before.locals j)
    (db : e.after.store.db = e.before.store.db)
    (own : (e.before.locals e.input.1).Pending userId e.before.store.db →
      (e.after.locals e.input.1).Pending userId e.before.store.db)
    (pending : ∃ j, (e.before.locals j).Pending userId e.before.store.db) :
    ∃ j, (e.after.locals j).Pending userId e.after.store.db := by
  obtain ⟨j, pending⟩ := pending
  refine ⟨j, ?_⟩
  rw [db]
  by_cases moved : j = e.input.1
  · rw [moved] at pending ⊢
    exact own pending
  · rw [others j moved]
    exact pending

/-- A step that writes no old value keeps the invariant. -/
theorem EntryPending.step
    (step : (profileRace userId).step e.before e.input = (e.after, e.output))
    (sets : SetsCurrent userId e.before e.input.1) (inv : EntryPending userId e.before) :
    EntryPending userId e.after := by
  obtain ⟨acts, others⟩ := interleave_step step
  have cases := profileStep_cases userId e.input.1 e.input.2 e.before.store
    (e.before.locals e.input.1)
  rw [acts] at cases
  intro cached holds
  rcases cases with ⟨same, own⟩ | ⟨result, phase, set⟩ | ⟨_, -, pending⟩ | deleted
  · simp only at same own
    rw [same] at holds ⊢
    exact (inv cached holds).imp id (same ▸ pending_of_step others (by rw [same]) own)
  · simp only at set
    have db : e.after.store.db = e.before.store.db := by rw [set]
    -- The moving call is no update.
    have own : ¬ (e.before.locals e.input.1).Pending userId e.before.store.db := by
      rw [phase]
      exact id
    have kept := pending_of_step others db fun pending => absurd pending own
    rw [db]
    rw [db] at kept
    rw [set] at holds
    simp only at holds
    rcases holds_of_cacheSet holds with ⟨-, rfl⟩ | ⟨-, old⟩
    · rw [SetsCurrent, phase] at sets
      exact sets.imp id kept
    · exact (inv cached old).imp id kept
  · exact .inr ⟨e.input.1, pending⟩
  · simp only at deleted
    rw [deleted] at holds
    exact absurd holds Expiring.not_holds_del

/-! ### Runs -/

/-- In a run that starts with a current entry, or none, and writes no old value
into the cache, the completed calls leave no entry that differs from the row. -/
theorem entry_current {s : AccountState} {calls : ι → ProfileCall} {schedule : List (ι × Time)}
    (start : EntryCurrent userId s)
    (sets : ∀ e ∈ (profileRace userId).history (profileStart s calls) schedule,
      SetsCurrent userId e.before e.input.1)
    (completed : ∀ i,
      (((profileRace userId).run (profileStart s calls) schedule).locals i).finished = true) :
    EntryCurrent userId ((profileRace userId).run (profileStart s calls) schedule).store := by
  obtain ⟨final, -⟩ := Machine.history_invariant (EntryPending userId)
    (fun e => SetsCurrent userId e.before e.input.1)
    (fun e step sets => EntryPending.step step sets)
    (fun cached holds => .inl (start cached holds)) sets
  intro cached holds
  rcases final cached holds with current | ⟨j, pending⟩
  · exact current
  · have done := completed j
    generalize ((profileRace userId).run (profileStart s calls) schedule).locals j = phase
      at pending done
    unfold ProfilePhase.finished at done
    split at done
    · exact pending.elim
    · exact pending.elim
    · cases done

end Step

/-! ### A reader and a writer -/

/-- A read of the sample account, and a change of its name. -/
def readerAndWriter : Bool → ProfileCall
  | false => .getUser
  | true => .updateUser [("name", .str "new")] ""

/-- A schedule of the two at the start of the clock. -/
def atOnce (moves : List Bool) : List (Bool × Time) := moves.map fun i => (i, 0)

/-- The reader writes the cache before the writer deletes the entry. -/
theorem written_before_deletion :
    EntryCurrent "user" ((profileRace "user").run
      (profileStart ⟨oneUserStore, .empty⟩ readerAndWriter)
      (atOnce [false, false, true, true, false, true])).store := by
  apply entry_current
  · exact fun cached holds => absurd holds (Expiring.not_holds_empty _ cached)
  · intro e mem
    simp only [atOnce, List.map_cons, List.map_nil, Machine.history_cons, Machine.history_nil,
      List.mem_cons, List.not_mem_nil, or_false] at mem
    rcases mem with rfl | rfl | rfl | rfl | rfl | rfl
    · trivial
    · trivial
    · trivial
    · trivial
    · exact .inr ⟨true, trivial⟩
    · trivial
  · intro i
    cases i <;> decide +kernel

/-- The reader writes the old account into the cache when the writer is done. -/
theorem written_after_deletion :
    ¬ ∀ (ι : Type) [DecidableEq ι] (userId : String) (s : AccountState) (calls : ι → ProfileCall)
        (schedule : List (ι × Time)), EntryCurrent userId s →
      (∀ i, (((profileRace userId).run (profileStart s calls) schedule).locals i).finished = true) →
      EntryCurrent userId ((profileRace userId).run (profileStart s calls) schedule).store := by
  intro all
  let c := (profileRace "user").run (profileStart ⟨oneUserStore, .empty⟩ readerAndWriter)
    (atOnce [false, false, true, true, true, false])
  let old : Json := .obj (UserRow.toFields ⟨"user", "u@x.kr", "pw", "user", .client, true, none⟩)
  have stored : cacheGet c.store.redis 0 "user/user" = some old := by
    decide +kernel
  have completed : ∀ i, (c.locals i).finished = true := by
    intro i
    cases i <;> decide +kernel
  have current := all Bool "user" _ readerAndWriter _
    (fun cached holds => absurd holds (Expiring.not_holds_empty _ cached)) completed old
    (Expiring.holds_of_get stored)
  revert current
  decide +kernel

end CoupangEats
