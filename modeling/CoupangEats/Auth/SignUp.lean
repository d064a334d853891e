import CoupangEats.Auth.Token
import CoupangEats.Base.Text
import CoupangEats.Base.Transaction
import CoupangEats.Columns

/-!
Signing up.

The validation pipe has no whitelist, so a body keeps the properties that
`SignUpBody` does not declare, and the entity made of it carries them on to the
upserting save. The transaction looks the email address up and saves under the
body's `id`: a body that brings the `id` of an account and a free address is
written over that account. `undisturbed_iff` says exactly when no sign-up with a
body can change an existing account.
-/

namespace CoupangEats

open CoupangEats.Base

/-! ### The body -/

/-- The matches of `/[^\uFE0F\uFE0E][\uFE0F\uFE0E]/g`: characters that are followed
by a variation selector. -/
def presentationSequences : List Char → Nat
  | c :: d :: s =>
      if (c ≠ '\ufe0f' ∧ c ≠ '\ufe0e') ∧ (d = '\ufe0f' ∨ d = '\ufe0e') then
        presentationSequences s + 1
      else presentationSequences (d :: s)
  | _ => 0

/-- `MinLength`: a character counts once whatever its encoding, and a variation
selector does not count. -/
def minLength (min : Nat) (value : String) : Bool :=
  min ≤ value.toList.length - presentationSequences value.toList

/-- `/^(?=.*[a-zA-Z])(?=.*[!@#$%^*+=-])(?=.*[0-9]).{8,15}$/`; the dot matches one
16-bit unit of anything but a line terminator. -/
def matchesPassword (value : String) : Bool :=
  value.toList.all (fun c => c ∉ ['\n', '\r', '\u2028', '\u2029']) &&
    value.toList.any Char.isAlpha &&
    value.toList.any (fun c => c ∈ ['!', '@', '#', '$', '%', '^', '*', '+', '=', '-']) &&
    value.toList.any Char.isDigit && 8 ≤ codeUnits value.toList &&
    codeUnits value.toList ≤ 15

/-- What the validation pipe asks of a `SignUpBody`. -/
def validSignUp (body : Fields) : Bool :=
  (body.readString "email").isSome &&
    (body.readString "password").any (fun value => minLength 8 value && matchesPassword value) &&
    (body.readString "name").isSome && ((body.readString "role").bind Role.parse).isSome

/-- A body that has passed the validation pipe, with whatever else the client
has sent. -/
structure SignUpBody where
  fields : Fields
  valid : validSignUp fields = true

namespace SignUpBody

def email (body : SignUpBody) : String := (body.fields.readString "email").getD ""

def name (body : SignUpBody) : String := (body.fields.readString "name").getD ""

def role (body : SignUpBody) : Role :=
  ((body.fields.readString "role").bind Role.parse).getD .client

/-- `SignUpBody.toEntity`. -/
def toEntity (body : SignUpBody) (hashedPassword : String) : Fields :=
  body.fields ++ [("password", .str hashedPassword)]

theorem read_email (body : SignUpBody) : body.fields.read "email" = some (.str body.email) := by
  have valid := body.valid
  simp only [validSignUp, Bool.and_eq_true] at valid
  obtain ⟨email, found⟩ := Option.isSome_iff_exists.mp valid.1.1.1
  rw [SignUpBody.email, found]
  exact Fields.readString_eq_some.mp found

theorem read_name (body : SignUpBody) : body.fields.read "name" = some (.str body.name) := by
  have valid := body.valid
  simp only [validSignUp, Bool.and_eq_true] at valid
  obtain ⟨name, found⟩ := Option.isSome_iff_exists.mp valid.1.2
  rw [SignUpBody.name, found]
  exact Fields.readString_eq_some.mp found

theorem read_role (body : SignUpBody) :
    ∃ text, body.fields.read "role" = some (.str text) ∧ Role.parse text = some body.role := by
  have valid := body.valid
  simp only [validSignUp, Bool.and_eq_true] at valid
  obtain ⟨role, found⟩ := Option.isSome_iff_exists.mp valid.2
  obtain ⟨text, spelled, parsed⟩ := Option.bind_eq_some_iff.mp found
  refine ⟨text, Fields.readString_eq_some.mp spelled, ?_⟩
  rw [SignUpBody.role, found, parsed]
  rfl

/-- Only the password is not the client's. -/
theorem read_toEntity (body : SignUpBody) (hashedPassword property : String)
    (other : property ≠ "password") :
    (body.toEntity hashedPassword).read property = body.fields.read property := by
  rw [toEntity, Fields.read_append]
  simp [other.symm]

theorem read_toEntity_password (body : SignUpBody) (hashedPassword : String) :
    (body.toEntity hashedPassword).read "password" = some (.str hashedPassword) := by
  rw [toEntity, Fields.read_append]
  simp

/-- What a save makes of a stored account: everything but its id and, where the
body does not say otherwise, the last two columns comes from the body. -/
theorem updateRow_toEntity (body : SignUpBody) (hashedPassword : String) (user : UserRow) :
    userMapping.updateRow user (body.toEntity hashedPassword) =
      (column body.fields "verified" flagColumn (some user.verified)).bind fun verified =>
        (column body.fields "deletedAt" timestampColumn (some user.deletedAt)).map fun deletedAt =>
          ⟨user.id, body.email, hashedPassword, body.name, body.role, verified, deletedAt⟩ := by
  obtain ⟨text, spelled, parsed⟩ := body.read_role
  simp only [userMapping, Mapping.ofWrite, UserRow.write, column, read_toEntity_password,
    read_toEntity _ _ "email" (by decide),
    read_toEntity _ _ "name" (by decide),
    read_toEntity _ _ "role" (by decide),
    read_toEntity _ _ "verified" (by decide),
    read_toEntity _ _ "deletedAt" (by decide),
    read_email, read_name, spelled, textColumn, roleColumn, parsed]
  simp [Option.map_eq_bind]

end SignUpBody

/-! ### The service -/

/-- `findOneByFilters({ email })` on the users. -/
def Db.userByEmail? (db : Db) (email : String) : Option UserRow :=
  db.users.rows.find? fun user => user.deletedAt.isNone && user.email = email

/-- What a sign-up takes from outside: the hash of the password, the id of an
account that brings none, the verification token, the time, and what fails. -/
structure SignUpEnv where
  hashedPassword : String
  userId : String
  token : String
  now : Time
  faults : Faults
  cacheDown : Bool
  mailDown : Bool

/-- `sendWelcomeNotification`. -/
structure WelcomeNotification where
  email : String
  nickname : String
  token : String
  deriving DecidableEq, Repr

/-- The body of `createUserOrThrow`. -/
def createUserBody (db : Db) (body : SignUpBody) (env : SignUpEnv) : Body Db ApiError Empty Unit :=
  match db.userByEmail? body.email with
  | some _ => ⟨.error (.conflict "이미 존재하는 이메일입니다."), db, [], []⟩
  | none =>
      match (if env.faults.save then none
        else userMapping.save db.acceptsUser env.userId db.users
          (body.toEntity env.hashedPassword)) with
      | none => ⟨.error queryFailed, db, [], []⟩
      | some (_, users) => ⟨.ok (), { db with users }, [], []⟩

def createUserOrThrow (db : Db) (body : SignUpBody) (env : SignUpEnv) :
    Outcome Db ApiError Empty Unit :=
  transactional env.faults.commit queryFailed db (createUserBody db body env)

/-- What a sign-up leaves behind. -/
structure SignUpOutcome where
  result : Except ApiError Unit
  db : Db
  redis : Redis
  sent : List WelcomeNotification

/-- Only the account is made in a transaction: when the cache or the mail fails
afterwards, the request fails and the account stays. -/
def signUp (db : Db) (redis : Redis) (body : SignUpBody) (env : SignUpEnv) : SignUpOutcome :=
  let created := createUserOrThrow db body env
  match created.result with
  | .error e => ⟨.error e, created.store, redis, []⟩
  | .ok () =>
      if env.cacheDown then ⟨.error (.internal "RedisError"), created.store, redis, []⟩
      else
        let redis :=
          cacheSet redis env.now ("email-verify:" ++ env.token) (.str body.email) (some 300)
        if env.mailDown then ⟨.error (.internal "MailError"), created.store, redis, []⟩
        else ⟨.ok (), created.store, redis, [⟨body.email, "고객", env.token⟩]⟩

/-- Every account is as it was, and at most one is new. -/
structure Undisturbed (before after : Table String UserRow UserRow.id) : Prop where
  kept : ∀ user ∈ before.rows, user ∈ after.rows
  added : after.rows.length ≤ before.rows.length + 1

/-- The body names a stored account, no other account stands in its way, and the
columns it brings for it can be stored. The address is looked up among the live
accounts, and its uniqueness counts the deleted ones, too; so the one account
that may have it is the named one, deleted. -/
structure Overwrites (db : Db) (body : SignUpBody) (user : UserRow) : Prop where
  stored : user ∈ db.users.rows
  named : body.fields.read "id" = some (.str user.id)
  nonempty : user.id ≠ ""
  free : ∀ other ∈ db.users.rows, other.email = body.email →
    other.id = user.id ∧ other.deletedAt.isSome
  verified : (column body.fields "verified" flagColumn (some user.verified)).isSome
  deletedAt : (column body.fields "deletedAt" timestampColumn (some user.deletedAt)).isSome

section SignUp

variable {db : Db} {body : SignUpBody} {env : SignUpEnv}

theorem userByEmail?_eq_none {email : String} :
    db.userByEmail? email = none ↔
      ∀ user ∈ db.users.rows, user.email = email → user.deletedAt.isSome := by
  simp only [Db.userByEmail?, List.find?_eq_none, Bool.and_eq_true, decide_eq_true_eq, not_and']
  refine forall₂_congr fun user _ => forall_congr' fun _ => ?_
  cases user.deletedAt <;> simp

theorem acceptsUser_eq_true {row : UserRow} :
    db.acceptsUser row = true ↔
      ∀ other ∈ db.users.rows, other.email = row.email → other.id = row.id := by
  simp only [Db.acceptsUser, List.all_eq_true, Bool.or_eq_true, decide_eq_true_eq,
    or_iff_not_imp_right, not_not]

/-- What `createUserOrThrow` leaves: the users as they were, or, when nothing
fails from outside, as its save makes them. -/
theorem createUserOrThrow_cases (db : Db) (body : SignUpBody) (env : SignUpEnv) :
    (createUserOrThrow db body env).store.users = db.users ∨
      env.faults = .none ∧ db.userByEmail? body.email = none ∧ ∃ row,
        userMapping.save db.acceptsUser env.userId db.users (body.toEntity env.hashedPassword) =
          some (row, (createUserOrThrow db body env).store.users) := by
  by_cases accepted : (createUserOrThrow db body env).Accepted
  · obtain ⟨_, ok⟩ := accepted
    rw [createUserOrThrow, transactional_store ok]
    rw [createUserOrThrow, transactional_eq_ok] at ok
    obtain ⟨ok, committed⟩ := ok
    unfold createUserBody at ok ⊢
    cases account : db.userByEmail? body.email with
    | some user =>
        simp only [account] at ok
        cases ok
    | none =>
        simp only [account] at ok ⊢
        split at ok
        · cases ok
        · rename_i row users saved
          split_ifs at saved with save
          have unhindered : env.faults = .none := by
            rw [Bool.not_eq_true] at save
            change Faults.mk env.faults.save env.faults.commit = _
            rw [save, committed]
            rfl
          exact .inr ⟨unhindered, trivial, row, by simpa [save] using saved⟩
  · exact .inl (by rw [createUserOrThrow, transactional_rollback accepted])

/-- A sign-up changes the users in its transaction only. -/
theorem signUp_users (redis : Redis) :
    (signUp db redis body env).db.users = (createUserOrThrow db body env).store.users := by
  simp only [signUp]
  split
  · rfl
  · split
    · rfl
    · split <;> rfl

/-- The account that a body's save updates is one that the body overwrites. -/
theorem overwrites_of_update {user row : UserRow} (free : db.userByEmail? body.email = none)
    (found : db.users.find? user.id = some user)
    (named : (body.toEntity env.hashedPassword).read "id" = some (.str user.id))
    (nonempty : user.id ≠ "")
    (updated : userMapping.updateRow user (body.toEntity env.hashedPassword) = some row)
    (accepted : db.acceptsUser row = true) : Overwrites db body user := by
  rw [body.read_toEntity _ _ (by decide)] at named
  rw [body.updateRow_toEntity] at updated
  obtain ⟨verified, hverified, written⟩ := Option.bind_eq_some_iff.mp updated
  obtain ⟨deletedAt, hdeletedAt, rfl⟩ := Option.map_eq_some_iff.mp written
  refine ⟨Table.mem_of_find? found, named, nonempty, fun other mem same => ?_,
    by simp [hverified], by simp [hdeletedAt]⟩
  exact ⟨acceptsUser_eq_true.mp accepted other mem same,
    userByEmail?_eq_none.mp free other mem same⟩

/-- An account is kept, unless the body overwrites it and nothing fails. -/
theorem kept_of_signUp (redis : Redis) {user : UserRow} (stored : user ∈ db.users.rows) :
    user ∈ (signUp db redis body env).db.users.rows ∨
      Overwrites db body user ∧ env.faults = .none := by
  rw [signUp_users]
  rcases createUserOrThrow_cases db body env with same | ⟨unhindered, free, row, saved⟩
  · rw [same]
    exact .inl stored
  · by_cases named : (body.toEntity env.hashedPassword).read "id" = some (.str user.id)
    · rcases Mapping.save_cases saved with
        ⟨target, -, found, named', nonempty, updated, accepted, -⟩ | ⟨-, -, inserted⟩
      · -- The named account is the one that is written over.
        rw [named, Option.some.injEq, Json.str.injEq] at named'
        obtain rfl := db.users.eq_of_key_eq stored (Table.mem_of_find? found) named'
        exact .inr ⟨overwrites_of_update free found named nonempty updated accepted, unhindered⟩
      · rw [(Table.insert_eq_some inserted).2]
        exact .inl (List.mem_append_left _ stored)
    · exact .inl (Mapping.save_keeps saved stored named)

/-- Unless the body overwrites an account, a sign-up with it disturbs none. -/
theorem undisturbed_of_not_overwrites (redis : Redis)
    (harmless : ¬ ∃ user, Overwrites db body user) :
    Undisturbed db.users (signUp db redis body env).db.users := by
  constructor
  · intro user stored
    exact (kept_of_signUp redis stored).resolve_right fun written => harmless ⟨user, written.1⟩
  · rw [signUp_users]
    rcases createUserOrThrow_cases db body env with same | ⟨-, -, row, saved⟩
    · rw [same]
      exact Nat.le_succ _
    · rcases Mapping.save_cases saved with ⟨user, keeps, -, -, -, -, -, after⟩ | ⟨-, -, inserted⟩
      · rw [after]
        simp [Table.modify, Table.mapRows]
      · simp [(Table.insert_eq_some inserted).2]

/-- A body that overwrites an account gives it the new password. -/
theorem disturbed_of_overwrites {user : UserRow} (redis : Redis) (env : SignUpEnv)
    (overwrites : Overwrites db body user) (hashed : env.hashedPassword ≠ user.password)
    (faults : env.faults = .none) :
    ¬ Undisturbed db.users (signUp db redis body env).db.users := by
  obtain ⟨stored, named, nonempty, free, verified, deletedAt⟩ := overwrites
  obtain ⟨verified, hverified⟩ := Option.isSome_iff_exists.mp verified
  obtain ⟨deletedAt, hdeletedAt⟩ := Option.isSome_iff_exists.mp deletedAt
  have found := Table.find?_of_mem stored
  let row : UserRow :=
    ⟨user.id, body.email, env.hashedPassword, body.name, body.role, verified, deletedAt⟩
  have updated : userMapping.updateRow user (body.toEntity env.hashedPassword) = some row := by
    rw [body.updateRow_toEntity, hverified, Option.bind_some, hdeletedAt, Option.map_some]
  have accepted : db.acceptsUser row = true :=
    acceptsUser_eq_true.mpr fun other mem same => (free other mem same).1
  have account : db.userByEmail? body.email = none :=
    userByEmail?_eq_none.mpr fun other mem same => (free other mem same).2
  have saved := Mapping.save_over env.userId found
    ((body.read_toEntity _ _ (by decide)).trans named) nonempty updated accepted
  rw [signUp_users]
  simp only [createUserOrThrow, createUserBody, account, faults, Faults.none, Bool.false_eq_true,
    if_false, saved, transactional]
  intro undisturbed
  have kept := Table.find?_of_mem (undisturbed.kept user stored)
  rw [Table.find?_modify, if_pos rfl, found, Option.map_some, Option.some.injEq] at kept
  exact hashed (congrArg UserRow.password kept)

end SignUp

end CoupangEats
