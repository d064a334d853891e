import CoupangEats.User.CacheRace

/-!
Concurrent changes of one account.

`updateUser` and `verifyEmail` read the whole row, change it in memory and save it
whole. A save writes the columns that its request sets, and the others as they
were read; so a column that another request has set in between is set back. The
requests lose no change exactly when every save finds the columns that it does
not set as its request has read them (`no_lost_update_iff`).
-/

namespace CoupangEats

open CoupangEats.Base

/-! ### The columns -/

/-- The columns that some request sets. -/
inductive UserColumn where
  | name
  | password
  | verified
  deriving DecidableEq, Repr

def UserRow.column (user : UserRow) : UserColumn → Json
  | .name => .str user.name
  | .password => .str user.password
  | .verified => .bool user.verified

/-- What the row of a live account holds in a column. -/
def columnOf (db : Db) (userId : String) (column : UserColumn) : Option Json :=
  (db.user? userId).map fun user => user.column column

/-! ### Requests and their steps -/

/-- How far a `verifyEmail` request has got: the address read from the cache, the
row read, the row saved. -/
inductive VerifyPhase where
  | ready
  | addressed (email : String)
  | found (user : UserRow)
  | saved
  | done (result : Except ApiError Unit)
  deriving DecidableEq

/-- A request and how far it has got. -/
inductive AccountPhase where
  | updating (dto : Fields) (hashedPassword : String) (phase : UpdatePhase)
  | verifying (token : String) (phase : VerifyPhase)
  deriving DecidableEq

/-- A request of `updateUser` with the hash of its password, or of
`verifyEmail`. -/
inductive RowRequest where
  | updateUser (dto : Fields) (hashedPassword : String)
  | verifyEmail (token : String)

/-- The request has done nothing. -/
def RowRequest.start : RowRequest → AccountPhase
  | .updateUser dto hashedPassword => .updating dto hashedPassword .ready
  | .verifyEmail token => .verifying token .ready

namespace AccountPhase

/-- The value that the request means to give a column. -/
def sets : AccountPhase → UserColumn → Option Json
  | .updating dto _ _, .name => ((dto.readString "name").filter (· ≠ "")).map .str
  | .updating dto hashedPassword _, .password =>
      if (dto.readString "password").any (· ≠ "") then some (.str hashedPassword) else none
  | .verifying _ _, .verified => some (.bool true)
  | _, _ => none

/-- The row that the request has in memory. -/
def loaded : AccountPhase → Option UserRow
  | .updating _ _ (.found user) | .verifying _ (.found user) => some user
  | _ => none

/-- What the request makes of the row in memory. -/
def change : AccountPhase → UserRow → UserRow
  | .updating dto hashedPassword _, user => updatedUser user dto hashedPassword
  | .verifying _ _, user => { user with verified := true }

/-- The request has returned. -/
def finished : AccountPhase → Bool
  | .updating _ _ (.done _) | .verifying _ (.done _) => true
  | _ => false

/-- The request has been accepted. -/
def accepted : AccountPhase → Bool
  | .updating _ _ (.done (.ok _)) | .verifying _ (.done (.ok _)) => true
  | _ => false

/-- The request has saved the row, or has found nothing to save. -/
def settled : AccountPhase → Bool
  | .updating _ _ .saved | .verifying _ .saved => true
  | phase => phase.accepted

end AccountPhase

section Threads

variable {ι : Type} (userId : String)

/-- One step of a `verifyEmail` request: the address, the row read, the row saved,
the token deleted. -/
def verifyStep (token : String) (now : Time) (s : AccountState) :
    VerifyPhase → AccountState × VerifyPhase
  | .ready =>
      match (cacheGet s.redis now ("email-verify:" ++ token)).filter Json.truthy with
      | none => (s, .done (.error (.badRequest "인증 링크가 만료되었거나 유효하지 않습니다.")))
      | some (.str email) => (s, .addressed email)
      | some _ => (s, .done (.error queryFailed))
  | .addressed email =>
      match s.db.userByEmail? email with
      | none => (s, .done (.error (.notFound ("don't exist email: " ++ email))))
      | some user => if user.verified then (s, .done (.ok ())) else (s, .found user)
  | .found user => ({ s with db := saveUser s.db { user with verified := true } }, .saved)
  | .saved => ({ s with redis := cacheDel s.redis ("email-verify:" ++ token) }, .done (.ok ()))
  | .done result => (s, .done result)

/-- One step of a request. -/
def accountStep : ThreadStep ι Time AccountState AccountPhase
  | _, _, s, .updating dto hashedPassword phase =>
      let next := updateStep userId dto hashedPassword s phase
      (next.1, .updating dto hashedPassword next.2)
  | _, now, s, .verifying token phase =>
      let next := verifyStep token now s phase
      (next.1, .verifying token next.2)

/-- A `verifyEmail` request on its own is `verifyEmail`. -/
theorem verifyStep_alone (token : String) (s : AccountState) (now : Time) :
    let step (s : AccountState × VerifyPhase) := verifyStep token now s.1 s.2
    let env : VerifyEnv := ⟨now, false, false, false⟩
    step (step (step (step (s, .ready)))) =
      ((verifyEmail s token env).1, .done (verifyEmail s token env).2) := by
  simp only [verifyStep, verifyEmail, Bool.false_eq_true, if_false]
  cases (cacheGet s.redis now ("email-verify:" ++ token)).filter Json.truthy with
  | none => rfl
  | some value =>
      cases value with
      | str email =>
          simp only
          cases s.db.userByEmail? email with
          | none => rfl
          | some user => cases verified : user.verified <;> simp [verified]
      | null | bool _ | num _ | arr _ | obj _ => rfl

/-- The interleavings of the requests. -/
abbrev accountRace [DecidableEq ι] :
    Machine (Config ι AccountState AccountPhase) (ι × Time) Unit :=
  interleave (accountStep userId)

/-- The start: no request has done anything. -/
def accountStart (s : AccountState) (requests : ι → RowRequest) :
    Config ι AccountState AccountPhase :=
  ⟨s, fun i => (requests i).start⟩

/-- The request is about the user: the address under its token is the user's. -/
def About (s : AccountState) : RowRequest → Prop
  | .updateUser .. => True
  | .verifyEmail token => ∀ email user, s.redis.Holds ("email-verify:" ++ token) (.str email) →
      s.db.userByEmail? email = some user → user.id = userId

/-- No request touches a column that it does not set, and, when all have returned,
every column that an accepted request has meant to set holds the value of such a
request. -/
structure NoLostUpdate (history : List (Event (Config ι AccountState AccountPhase) (ι × Time) Unit))
    (final : Config ι AccountState AccountPhase) : Prop where
  kept : ∀ e ∈ history, ∀ column, (e.before.locals e.input.1).sets column = none →
    columnOf e.after.store.db userId column = columnOf e.before.store.db userId column
  last : (∀ i, (final.locals i).finished = true) → ∀ column,
    (∃ i, (final.locals i).accepted = true ∧ ((final.locals i).sets column).isSome = true) →
    ∃ i, (final.locals i).accepted = true ∧ ((final.locals i).sets column).isSome = true ∧
      columnOf final.store.db userId column = (final.locals i).sets column

/-- The condition on a step of a request: when it saves, the columns that it does
not set are as it has read them. -/
def KeepsUnset (c : Config ι AccountState AccountPhase) (i : ι) : Prop :=
  ∀ user, (c.locals i).loaded = some user → ∀ column, (c.locals i).sets column = none →
    columnOf c.store.db userId column = some (user.column column)

end Threads

/-! ### What no request changes -/

/-- The columns by which accounts are found. -/
def UserRow.identity (user : UserRow) : String × String × Option Json :=
  (user.id, user.email, user.deletedAt)

/-- The accounts are found as before. -/
def SameAccounts (before after : Db) : Prop :=
  after.users.rows.map UserRow.identity = before.users.rows.map UserRow.identity

section Accounts

variable {before after : Db} {user row : UserRow} {userId : String}

/-- A search that looks at nothing else finds the same account. -/
theorem SameAccounts.find (same : SameAccounts before after)
    (p : String × String × Option Json → Bool) :
    (after.users.rows.find? fun user => p user.identity).map UserRow.identity =
      (before.users.rows.find? fun user => p user.identity).map UserRow.identity := by
  have found (db : Db) : (db.users.rows.find? fun user => p user.identity).map UserRow.identity =
      (db.users.rows.map UserRow.identity).find? p := List.find?_map.symm
  rw [found, found, same]

theorem SameAccounts.userByEmail? (same : SameAccounts before after) (email : String) :
    (after.userByEmail? email).map UserRow.identity =
      (before.userByEmail? email).map UserRow.identity :=
  same.find fun (_, address, deletedAt) => deletedAt.isNone && address = email

theorem SameAccounts.user? (same : SameAccounts before after) (userId : String) :
    (after.user? userId).map UserRow.identity = (before.user? userId).map UserRow.identity := by
  have live (db : Db) : (db.user? userId).map UserRow.identity =
      ((db.users.find? userId).map UserRow.identity).filter fun identity =>
        identity.2.2.isNone := by
    unfold Db.user?
    cases db.users.find? userId with
    | none => rfl
    | some row => cases dead : row.deletedAt.isNone <;> simp [Option.filter, UserRow.identity, dead]
  have found := same.find fun (id, _) => decide (id = userId)
  rw [live, live]
  exact congrArg _ found

/-- A save of an account under its own identity. -/
theorem SameAccounts.save (same : SameAccounts before after)
    (known : after.user? userId = some row) (kept : user.identity = row.identity) :
    SameAccounts before (saveUser after user) := by
  have id : user.id = row.id := congrArg Prod.fst kept
  unfold SameAccounts
  rw [← same]
  simp only [saveUser, Table.modify, Table.mapRows, List.map_map]
  apply List.map_congr_left
  intro other mem
  by_cases here : other.id = user.id
  · have stored := Db.user?_mem known
    rw [Function.comp_apply, if_pos here, kept,
      after.users.eq_of_key_eq mem stored (here.trans id)]
  · simp [here]

/-- What the columns hold behind it. -/
theorem columnOf_save (known : after.user? userId = some row)
    (kept : user.identity = row.identity) (column : UserColumn) :
    columnOf (saveUser after user) userId column = some (user.column column) := by
  have id : user.id = userId := (congrArg Prod.fst kept).trans (Db.user?_id known)
  have live : user.deletedAt = none :=
    (congrArg (fun identity => identity.2.2) kept).trans (Db.user?_eq_some.mp known).2
  subst id
  rw [columnOf, user?_saveUser_self known live, Option.map_some]

end Accounts

/-! ### One step -/

section Step

variable {ι : Type} {userId : String}

/-- A save gives the columns that the request sets their values, and the others
those in memory. -/
theorem AccountPhase.column_change (phase : AccountPhase) (user : UserRow) (column : UserColumn) :
    (phase.change user).column column = (phase.sets column).getD (user.column column) := by
  cases phase with
  | updating dto hashedPassword phase =>
      cases column with
      | name =>
          simp only [change, updatedUser, UserRow.column, sets]
          cases (dto.readString "name").filter (· ≠ "") <;> rfl
      | password =>
          simp only [change, updatedUser, UserRow.column, sets]
          split <;> rfl
      | verified => rfl
  | verifying token phase => cases column <;> rfl

theorem AccountPhase.identity_change (phase : AccountPhase) (user : UserRow) :
    (phase.change user).identity = user.identity := by
  cases phase <;> rfl

/-- The request has looked the address up for an account that is verified
already. -/
def AccountPhase.FindsVerified (db : Db) (phase : AccountPhase) : Prop :=
  ∃ token email user, phase = .verifying token (.addressed email) ∧
    db.userByEmail? email = some user ∧ user.verified = true

/-- What a step does to the accounts: it saves the row in memory, or it leaves them
as they are; it settles a request when it saves, or has nothing to save. -/
theorem accountStep_cases (userId : String) (i : ι) (now : Time) (s : AccountState)
    (phase : AccountPhase) :
    let out := accountStep userId i now s phase
    out.2.sets = phase.sets ∧
      ((∃ user, phase.loaded = some user ∧ out.1.db = saveUser s.db (phase.change user) ∧
          out.2.settled = true) ∨
        phase.loaded = none ∧ out.1.db = s.db ∧ (phase.settled = true → out.2.settled = true) ∧
          (out.2.settled = true → phase.settled = true ∨ phase.FindsVerified s.db)) := by
  have waits {phase next : AccountPhase} (pending : phase.settled = false)
      (still : next.settled = false) :
      (phase.settled = true → next.settled = true) ∧
        (next.settled = true → phase.settled = true ∨ phase.FindsVerified s.db) := by
    rw [pending, still]
    exact ⟨id, .inl⟩
  cases phase with
  | updating dto hashedPassword phase =>
      refine ⟨funext fun column => by cases column <;> rfl, ?_⟩
      cases phase with
      | ready =>
          right
          simp only [accountStep, updateStep]
          split
          · exact ⟨rfl, rfl, waits rfl rfl⟩
          · exact ⟨rfl, rfl, waits rfl rfl⟩
      | found user => exact .inl ⟨user, rfl, rfl, rfl⟩
      | saved => exact .inr ⟨rfl, rfl, fun _ => rfl, fun _ => .inl rfl⟩
      | done result => exact .inr ⟨rfl, rfl, id, .inl⟩
  | verifying token phase =>
      refine ⟨funext fun column => by cases column <;> rfl, ?_⟩
      cases phase with
      | ready =>
          right
          simp only [accountStep, verifyStep]
          split
          · exact ⟨rfl, rfl, waits rfl rfl⟩
          · exact ⟨rfl, rfl, waits rfl rfl⟩
          · exact ⟨rfl, rfl, waits rfl rfl⟩
      | addressed email =>
          right
          simp only [accountStep, verifyStep]
          split
          · exact ⟨rfl, rfl, waits rfl rfl⟩
          · rename_i user found
            split
            · rename_i verified
              exact ⟨rfl, rfl, fun _ => rfl, fun _ =>
                .inr ⟨token, email, user, rfl, found, verified⟩⟩
            · exact ⟨rfl, rfl, waits rfl rfl⟩
      | found user => exact .inl ⟨user, rfl, rfl, rfl⟩
      | saved => exact .inr ⟨rfl, rfl, fun _ => rfl, fun _ => .inl rfl⟩
      | done result => exact .inr ⟨rfl, rfl, id, .inl⟩

/-- No step adds an entry to the cache. -/
theorem accountStep_redis (userId : String) (i : ι) (now : Time) (s : AccountState)
    (phase : AccountPhase) {key : String} {value : Json}
    (holds : (accountStep userId i now s phase).1.redis.Holds key value) :
    s.redis.Holds key value := by
  cases phase with
  | updating dto hashedPassword phase =>
      cases phase with
      | ready =>
          simp only [accountStep, updateStep] at holds
          split at holds <;> exact holds
      | found user => exact holds
      | saved => exact Expiring.holds_of_del holds
      | done result => exact holds
  | verifying token phase =>
      cases phase with
      | ready =>
          simp only [accountStep, verifyStep] at holds
          split at holds <;> exact holds
      | addressed email =>
          simp only [accountStep, verifyStep] at holds
          split at holds
          · exact holds
          · split at holds <;> exact holds
      | found user => exact holds
      | saved => exact Expiring.holds_of_del holds
      | done result => exact holds

/-- What a request of the user aims at: the address under its token is the user's,
and the row that it loads has the user's identity. -/
def AccountPhase.Aims (userId : String) (start : AccountState) : AccountPhase → Prop
  | .verifying token .ready => About userId start (.verifyEmail token)
  | .verifying _ (.addressed email) =>
      ∀ user, start.db.userByEmail? email = some user → user.id = userId
  | .updating _ _ (.found user) | .verifying _ (.found user) =>
      (start.db.user? userId).map UserRow.identity = some user.identity
  | _ => True

/-- What an address leads to is the user, as the account is now. -/
theorem user?_of_address {start : AccountState} {db : Db} {email : String} {user : UserRow}
    (same : SameAccounts start.db db)
    (aims : ∀ user, start.db.userByEmail? email = some user → user.id = userId)
    (found : db.userByEmail? email = some user) : db.user? userId = some user := by
  have before := same.userByEmail? email
  rw [found, Option.map_some, eq_comm, Option.map_eq_some_iff] at before
  obtain ⟨old, known, identity⟩ := before
  have id : user.id = userId := by
    rw [← aims old known]
    exact (congrArg Prod.fst identity).symm
  have live := List.find?_some found
  simp only [Bool.and_eq_true, decide_eq_true_eq, Option.isNone_iff_eq_none] at live
  rw [← id]
  exact Db.user?_eq_some.mpr ⟨Table.find?_of_mem (List.mem_of_find?_eq_some found), live.1⟩

/-- A step keeps the aim of its request. -/
theorem accountStep_aims {start : AccountState} (i : ι) (now : Time) {s : AccountState}
    {phase : AccountPhase} (same : SameAccounts start.db s.db)
    (entries : ∀ key value, s.redis.Holds key value → start.redis.Holds key value)
    (aims : phase.Aims userId start) :
    (accountStep userId i now s phase).2.Aims userId start := by
  have identity {user : UserRow} (known : s.db.user? userId = some user) :
      (start.db.user? userId).map UserRow.identity = some user.identity := by
    rw [← same.user?, known, Option.map_some]
  cases phase with
  | updating dto hashedPassword phase =>
      cases phase with
      | ready =>
          simp only [accountStep, updateStep]
          split
          · trivial
          · rename_i user known
            exact identity known
      | found user => trivial
      | saved => trivial
      | done result => trivial
  | verifying token phase =>
      cases phase with
      | ready =>
          simp only [accountStep, verifyStep]
          split
          · trivial
          · rename_i email cached
            intro user found
            obtain ⟨got, -⟩ := Option.filter_eq_some_iff.mp cached
            exact aims email user (entries _ _ (Expiring.holds_of_get got)) found
          · trivial
      | addressed email =>
          simp only [accountStep, verifyStep]
          split
          · trivial
          · rename_i user found
            split
            · trivial
            · exact identity (user?_of_address same aims found)
      | found user => trivial
      | saved => trivial
      | done result => trivial

end Step

/-! ### The invariant -/

/-- In every state the accounts are found as at the start, the cache has no new
entries, and the requests are about the user. -/
structure RaceInv {ι : Type} (userId : String) (start : AccountState)
    (c : Config ι AccountState AccountPhase) : Prop where
  same : SameAccounts start.db c.store.db
  entries : ∀ key value, c.store.redis.Holds key value → start.redis.Holds key value
  aims : ∀ i, (c.locals i).Aims userId start

section Race

variable {ι : Type} {userId : String} {start : AccountState}
  {c : Config ι AccountState AccountPhase}

/-- The row that a request has in memory is the user's, under the identity that it
still has. -/
theorem RaceInv.loaded {i : ι} {user : UserRow} (inv : RaceInv userId start c)
    (loaded : (c.locals i).loaded = some user) :
    ∃ row, c.store.db.user? userId = some row ∧ user.identity = row.identity := by
  have aims := inv.aims i
  have identity : (start.db.user? userId).map UserRow.identity = some user.identity := by
    unfold AccountPhase.loaded at loaded
    split at loaded
    · rename_i phase
      cases loaded
      rw [phase] at aims
      exact aims
    · rename_i phase
      cases loaded
      rw [phase] at aims
      exact aims
    · cases loaded
  rw [← inv.same.user?, Option.map_eq_some_iff] at identity
  obtain ⟨row, known, identity⟩ := identity
  exact ⟨row, known, identity.symm⟩

/-- What a save writes into the columns. -/
theorem RaceInv.columns {i : ι} {user : UserRow} (inv : RaceInv userId start c)
    (loaded : (c.locals i).loaded = some user) (column : UserColumn) :
    columnOf (saveUser c.store.db ((c.locals i).change user)) userId column =
      some (((c.locals i).sets column).getD (user.column column)) := by
  obtain ⟨row, known, identity⟩ := inv.loaded loaded
  rw [columnOf_save known ((AccountPhase.identity_change _ user).trans identity),
    AccountPhase.column_change]

/-- Every column that a settled request sets holds the value of such a request. -/
def LastSetter (userId : String) (c : Config ι AccountState AccountPhase) : Prop :=
  ∀ column i, (c.locals i).settled = true → ((c.locals i).sets column).isSome = true →
    ∃ j, (c.locals j).settled = true ∧ ((c.locals j).sets column).isSome = true ∧
      columnOf c.store.db userId column = (c.locals j).sets column

/-- A request that has returned is settled when it has been accepted. -/
theorem accepted_iff {phase : AccountPhase} (finished : phase.finished = true) :
    phase.accepted = true ↔ phase.settled = true := by
  unfold AccountPhase.finished at finished
  split at finished
  · rfl
  · rfl
  · cases finished

/-- At the start no request is settled. -/
theorem lastSetter_start (s : AccountState) (requests : ι → RowRequest) :
    LastSetter userId (accountStart s requests) := by
  have unsettled (request : RowRequest) : request.start.settled = false := by
    cases request <;> rfl
  intro column i settled
  rw [show (accountStart s requests).locals i = (requests i).start from rfl, unsettled] at settled
  cases settled

variable [DecidableEq ι] {e : Event (Config ι AccountState AccountPhase) (ι × Time) Unit}

/-- What a step of the race does to the accounts, and which requests it settles:
the one that saves, or one that finds its account verified. -/
theorem race_cases (step : (accountRace userId).step e.before e.input = (e.after, e.output)) :
    (∀ k, (e.after.locals k).sets = (e.before.locals k).sets) ∧
      ((∃ user, (e.before.locals e.input.1).loaded = some user ∧
          e.after.store.db =
            saveUser e.before.store.db ((e.before.locals e.input.1).change user) ∧
          (e.after.locals e.input.1).settled = true) ∨
        (e.before.locals e.input.1).loaded = none ∧ e.after.store.db = e.before.store.db ∧
          (∀ k, (e.before.locals k).settled = true → (e.after.locals k).settled = true) ∧
          ∀ k, (e.after.locals k).settled = true → (e.before.locals k).settled = true ∨
            k = e.input.1 ∧ (e.before.locals e.input.1).FindsVerified e.before.store.db) := by
  obtain ⟨acts, others⟩ := interleave_step step
  obtain ⟨sets, cases⟩ := accountStep_cases userId e.input.1 e.input.2 e.before.store
    (e.before.locals e.input.1)
  rw [acts] at sets cases
  constructor
  · exact forall_locals (P := fun k phase => phase.sets = (e.before.locals k).sets) others sets
      fun _ _ => rfl
  rcases cases with saves | ⟨silent, db, stays, settles⟩
  · exact .inl saves
  · refine .inr ⟨silent, db, ?_, ?_⟩
    · exact forall_locals
        (P := fun k phase => (e.before.locals k).settled = true → phase.settled = true) others
        stays fun _ _ => id
    · intro k settled
      by_cases moved : k = e.input.1
      · rw [moved] at settled ⊢
        exact (settles settled).imp id fun finds => ⟨rfl, finds⟩
      · rw [others k moved] at settled
        exact .inl settled

theorem RaceInv.step (step : (accountRace userId).step e.before e.input = (e.after, e.output))
    (inv : RaceInv userId start e.before) : RaceInv userId start e.after := by
  obtain ⟨acts, others⟩ := interleave_step step
  constructor
  · rcases (race_cases step).2 with ⟨user, loaded, saved, -⟩ | ⟨-, db, -⟩
    · obtain ⟨row, known, identity⟩ := inv.loaded loaded
      rw [saved]
      exact inv.same.save known ((AccountPhase.identity_change _ user).trans identity)
    · rw [db]
      exact inv.same
  · intro key value holds
    apply inv.entries
    apply accountStep_redis userId e.input.1 e.input.2 e.before.store (e.before.locals e.input.1)
    rw [acts]
    exact holds
  · apply forall_locals (P := fun _ phase => phase.Aims userId start) others
    · have aims := accountStep_aims e.input.1 e.input.2 inv.same inv.entries (inv.aims e.input.1)
      rw [acts] at aims
      exact aims
    · exact fun j _ => inv.aims j

/-- A step keeps the columns that its request does not set exactly when it meets
the condition. -/
theorem kept_iff (step : (accountRace userId).step e.before e.input = (e.after, e.output))
    (inv : RaceInv userId start e.before) :
    (∀ column, (e.before.locals e.input.1).sets column = none →
        columnOf e.after.store.db userId column = columnOf e.before.store.db userId column) ↔
      KeepsUnset userId e.before e.input.1 := by
  rcases (race_cases step).2 with ⟨user, loaded, saved, -⟩ | ⟨silent, db, -⟩
  · have written := inv.columns loaded
    rw [← saved] at written
    constructor
    · intro kept user' loaded' column unset
      rw [loaded, Option.some.injEq] at loaded'
      rw [← loaded', ← kept column unset, written column, unset, Option.getD_none]
    · intro keeps column unset
      rw [keeps user loaded column unset, written column, unset, Option.getD_none]
  · rw [db]
    constructor
    · intro _ user loaded
      rw [silent] at loaded
      cases loaded
    · exact fun _ _ _ => rfl

/-- A step that meets the condition leaves every such column with the value of a
settled request. -/
theorem LastSetter.step (step : (accountRace userId).step e.before e.input = (e.after, e.output))
    (inv : RaceInv userId start e.before) (keeps : KeepsUnset userId e.before e.input.1)
    (last : LastSetter userId e.before) : LastSetter userId e.after := by
  obtain ⟨-, others⟩ := interleave_step step
  obtain ⟨sets, cases⟩ := race_cases step
  intro column k settled set
  rw [sets] at set
  rcases cases with ⟨user, loaded, saved, settles⟩ | ⟨-, db, stays, settles⟩
  · by_cases own : ((e.before.locals e.input.1).sets column).isSome = true
    · refine ⟨e.input.1, settles, by rw [sets]; exact own, ?_⟩
      obtain ⟨value, set⟩ := Option.isSome_iff_exists.mp own
      rw [saved, inv.columns loaded, sets, set, Option.getD_some]
    · -- The column stays, and so does the request whose value it holds.
      have apart (j : ι) (set : ((e.before.locals j).sets column).isSome = true) :
          e.after.locals j = e.before.locals j := by
        apply others
        rintro rfl
        exact own set
      rw [apart k set] at settled
      obtain ⟨j, settled, set, value⟩ := last column k settled set
      have unset := Option.not_isSome_iff_eq_none.mp own
      refine ⟨j, by rw [apart j set]; exact settled, by rw [sets]; exact set, ?_⟩
      rw [(kept_iff step inv).mpr keeps column unset, value, sets]
  · rcases settles k settled with before | ⟨rfl, token, email, user, phase, found, verified⟩
    · obtain ⟨j, before, set, value⟩ := last column k before set
      exact ⟨j, stays j before, by rw [sets]; exact set, by rw [db, value, sets]⟩
    · -- The account has been found verified: the column holds what would be set.
      refine ⟨_, settled, by rw [sets]; exact set, ?_⟩
      have aims := inv.aims e.input.1
      rw [phase] at set aims
      have known := user?_of_address inv.same aims found
      rw [db, columnOf, known, sets, phase]
      cases column with
      | verified => simp [UserRow.column, verified, AccountPhase.sets]
      | name => cases set
      | password => cases set

/-! ### Runs -/

/-- Requests of one user lose no change exactly when every save finds the columns
that it does not set as they were read. -/
theorem no_lost_update_iff {requests : ι → RowRequest} {schedule : List (ι × Time)}
    (about : ∀ i, About userId start (requests i)) :
    NoLostUpdate userId ((accountRace userId).history (accountStart start requests) schedule)
        ((accountRace userId).run (accountStart start requests) schedule) ↔
      ∀ e ∈ (accountRace userId).history (accountStart start requests) schedule,
        KeepsUnset userId e.before e.input.1 := by
  have initial : RaceInv userId start (accountStart start requests) := by
    refine ⟨rfl, fun _ _ => id, ?_⟩
    intro i
    have here := about i
    simp only [accountStart]
    cases request : requests i with
    | updateUser dto hashedPassword => trivial
    | verifyEmail token =>
        rw [request] at here
        exact here
  have always : ∀ e ∈ (accountRace userId).history (accountStart start requests) schedule, True :=
    fun _ _ => trivial
  obtain ⟨-, invariant⟩ := Machine.history_invariant (RaceInv userId start) (fun _ => True)
    (fun e step _ => RaceInv.step step) initial always
  constructor
  · intro kept e mem
    exact (kept_iff (Machine.step_of_mem_history mem) (invariant e mem).1).mp (kept.kept e mem)
  · intro keeps
    constructor
    · intro e mem
      exact (kept_iff (Machine.step_of_mem_history mem) (invariant e mem).1).mpr (keeps e mem)
    · obtain ⟨last, -⟩ := Machine.history_invariant (LastSetter userId)
        (fun e => RaceInv userId start e.before ∧ KeepsUnset userId e.before e.input.1)
        (fun e step permitted => LastSetter.step step permitted.1 permitted.2)
        (lastSetter_start start requests)
        (fun e mem => ⟨(invariant e mem).1, keeps e mem⟩)
      intro finished column ⟨i, accepted, set⟩
      obtain ⟨j, settled, set, value⟩ := last column i ((accepted_iff (finished i)).mp accepted) set
      exact ⟨j, (accepted_iff (finished j)).mpr settled, set, value⟩

end Race

/-! ### A new name and a new password -/

/-- A change of the sample account's name, and one of its password. -/
def nameAndPassword : Bool → RowRequest
  | false => .updateUser [("name", .str "new")] ""
  | true => .updateUser [("password", .str "passw0rd!")] "hash"

/-- One after the other, the two changes stand. -/
theorem changed_one_by_one :
    NoLostUpdate "user"
      ((accountRace "user").history (accountStart ⟨oneUserStore, .empty⟩ nameAndPassword)
        (atOnce [false, false, false, true, true, true]))
      ((accountRace "user").run (accountStart ⟨oneUserStore, .empty⟩ nameAndPassword)
        (atOnce [false, false, false, true, true, true])) := by
  apply (no_lost_update_iff fun i => by cases i <;> trivial).mpr
  intro e mem
  simp only [atOnce, List.map_cons, List.map_nil, Machine.history_cons, Machine.history_nil,
    List.mem_cons, List.not_mem_nil, or_false] at mem
  rcases mem with rfl | rfl | rfl | rfl | rfl | rfl
  · rintro user ⟨⟩
  · rintro user ⟨⟩ column -
    cases column <;> decide +kernel
  · rintro user ⟨⟩
  · rintro user ⟨⟩
  · rintro user ⟨⟩ column -
    cases column <;> decide +kernel
  · rintro user ⟨⟩

/-- The new name is saved with the old password, which takes the new one back. -/
theorem password_lost :
    ¬ ∀ (ι : Type) [DecidableEq ι] (userId : String) (start : AccountState)
        (requests : ι → RowRequest) (schedule : List (ι × Time)),
      (∀ i, About userId start (requests i)) →
      NoLostUpdate userId ((accountRace userId).history (accountStart start requests) schedule)
        ((accountRace userId).run (accountStart start requests) schedule) := by
  intro all
  have last := (all Bool "user" ⟨oneUserStore, .empty⟩ nameAndPassword
    (atOnce [false, true, true, true, false, false]) fun i => by cases i <;> trivial).last
    (fun i => by cases i <;> decide +kernel) .password ⟨true, by decide +kernel⟩
  revert last
  decide +kernel

end CoupangEats
