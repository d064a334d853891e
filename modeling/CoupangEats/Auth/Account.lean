import CoupangEats.Auth.Rotation
import CoupangEats.Auth.SignUp
import CoupangEats.Catalogue.Service

/-!
The accounts: signing up, verifying the email address, changing the profile and
signing in.

A sign-up leaves its email address in the cache under a generated token for five
minutes; `verifyEmail` looks the token up and marks the live account of that
address. `updateUser` writes the two declared properties of its body into the
account it has loaded. `accountService` is the machine that answers these calls
on the store and the cache.
-/

namespace CoupangEats

open CoupangEats.Base

/-- The database and the cache. -/
structure AccountState where
  db : Db
  redis : Redis

/-- What `verifyEmail` takes from outside: the time, and which of its queries
fail. -/
structure VerifyEnv where
  now : Time
  cacheDown : Bool
  saveFails : Bool
  deleteFails : Bool

/-- What `updateUser` takes from outside: the hash of the password, and which of
its queries fail. -/
structure UpdateEnv where
  hashedPassword : String
  saveFails : Bool
  deleteFails : Bool

/-- `userRepository.save` of an account that was loaded. -/
def saveUser (db : Db) (user : UserRow) : Db :=
  { db with users := db.users.modify user.id (fun _ => user) fun _ _ => rfl }

/-- What a failing cache is answered with. -/
def cacheFailed : ApiError := .internal "RedisError"

/-- `AuthService.verifyEmail`. The service stores texts only under the tokens, so
the last case does not occur. -/
def verifyEmail (s : AccountState) (token : String) (env : VerifyEnv) :
    AccountState × Except ApiError Unit :=
  let redisKey := "email-verify:" ++ token
  if env.cacheDown then (s, .error cacheFailed)
  else
    match (cacheGet s.redis env.now redisKey).filter Json.truthy with
    | none => (s, .error (.badRequest "인증 링크가 만료되었거나 유효하지 않습니다."))
    | some (.str email) =>
        match s.db.userByEmail? email with
        | none => (s, .error (.notFound ("don't exist email: " ++ email)))
        | some user =>
            if user.verified then (s, .ok ())
            else if env.saveFails then (s, .error queryFailed)
            else
              let db := saveUser s.db { user with verified := true }
              if env.deleteFails then ({ s with db }, .error cacheFailed)
              else (⟨db, cacheDel s.redis redisKey⟩, .ok ())
    | some _ => (s, .error queryFailed)

/-- `MinLength` and `Matches` of a password. -/
def isPassword : Json → Bool
  | .str value => minLength 8 value && matchesPassword value
  | _ => false

/-- What the validation pipe asks of an `UpdateUserDto`. -/
def validUpdateUser (dto : Fields) : Bool :=
  optional dto ("name", isString) && optional dto ("password", isPassword)

/-- What `updateUser` makes of the account in memory. -/
def updatedUser (user : UserRow) (dto : Fields) (hashedPassword : String) : UserRow :=
  { user with
    name := ((dto.readString "name").filter (· ≠ "")).getD user.name
    password :=
      if (dto.readString "password").any (· ≠ "") then hashedPassword else user.password }

/-- `UserService.updateUser`. -/
def updateUser (s : AccountState) (userId : String) (dto : Fields) (env : UpdateEnv) :
    AccountState × Except ApiError Unit :=
  match s.db.user? userId with
  | none => (s, .error (.notFound ("don't exist " ++ userId)))
  | some user =>
      if env.saveFails then (s, .error queryFailed)
      else
        let db := saveUser s.db (updatedUser user dto env.hashedPassword)
        if env.deleteFails then ({ s with db }, .error cacheFailed)
        else (⟨db, cacheDel s.redis ("user/" ++ userId)⟩, .ok ())

/-- `PATCH /users/profile`: the token's user, the validation pipe and the
service. -/
def updateProfile (s : AccountState) (userId : String) (dto : Fields) (env : UpdateEnv) :
    AccountState × Except ApiError Unit :=
  match s.db.user? userId with
  | none => (s, .error (.unauthorized "User not found"))
  | some user =>
      if validUpdateUser dto then updateUser s user.id dto env
      else (s, .error (.badRequest "Bad Request Exception"))

/-! ### Calls -/

inductive AccountCall where
  | signUp (body : SignUpBody) (env : SignUpEnv)
  | verifyEmail (token : String) (env : VerifyEnv)
  | updateUser (userId : String) (dto : Fields) (env : UpdateEnv)
  | signIn (email password : String) (clock : Clock)

/-- The account calls as a machine; only a sign-in has tokens to return. -/
def accountService (jwt : Jwt) (config : JwtConfig) (compare : String → String → Bool) :
    Machine AccountState AccountCall (Except ApiError (Option TokenPair)) where
  step s
    | .signUp body env =>
        let out := signUp s.db s.redis body env
        (⟨out.db, out.redis⟩, out.result.map fun _ => none)
    | .verifyEmail token env =>
        let out := verifyEmail s token env
        (out.1, out.2.map fun _ => none)
    | .updateUser userId dto env =>
        let out := updateProfile s userId dto env
        (out.1, out.2.map fun _ => none)
    | .signIn email password clock =>
        let out := signIn jwt config s.db compare s.redis email password clock
        ({ s with redis := out.2 }, out.1.map some)

/-! ### What the calls do -/

section Calls

variable {db : Db} {user : UserRow}

theorem userByEmail?_eq_some {email : String} (found : db.userByEmail? email = some user) :
    user ∈ db.users.rows ∧ user.email = email := by
  have here := List.find?_some found
  simp only [Bool.and_eq_true, decide_eq_true_eq] at here
  exact ⟨List.mem_of_find?_eq_some found, here.2⟩

/-- A saved account is the one that was saved, or it was there before. -/
theorem mem_saveUser {changed : UserRow} (mem : user ∈ (saveUser db changed).users.rows) :
    user = changed ∨ user ∈ db.users.rows := by
  have replaced : ∃ old ∈ db.users.rows, (if old.id = changed.id then changed else old) = user :=
    List.mem_map.mp mem
  obtain ⟨old, before, same⟩ := replaced
  split at same
  · exact .inl same.symm
  · exact .inr (same ▸ before)

/-- A save changes the account of its id only. -/
theorem user?_saveUser_of_ne {userId : String} (other : userId ≠ user.id) :
    (saveUser db user).user? userId = db.user? userId := by
  simp only [saveUser, Db.user?, Table.find?_modify, if_neg other]

/-- A live account is what it is saved as. -/
theorem user?_saveUser_self {old : UserRow} (known : db.user? user.id = some old)
    (live : user.deletedAt = none) : (saveUser db user).user? user.id = some user := by
  rw [Db.user?_eq_some]
  refine ⟨?_, live⟩
  simp only [saveUser, Table.find?_modify, if_true, (Db.user?_eq_some.mp known).1, Option.map_some]

/-- `updateProfile` does nothing, or it saves the account as the body changes it
and deletes its entry from the cache. -/
theorem updateProfile_cases (s : AccountState) (userId : String) (dto : Fields)
    (env : UpdateEnv) :
    (updateProfile s userId dto env).1 = s ∨ ∃ user, s.db.user? userId = some user ∧
      (updateProfile s userId dto env).1.db =
        saveUser s.db (updatedUser user dto env.hashedPassword) ∧
      (updateProfile s userId dto env).1.redis =
        if env.deleteFails then s.redis else cacheDel s.redis ("user/" ++ userId) := by
  unfold updateProfile
  split
  · exact .inl rfl
  · rename_i caller known
    split
    · simp only [updateUser, Db.user?_id known, known]
      split
      · exact .inl rfl
      · refine .inr ⟨caller, rfl, ?_⟩
        split
        · exact ⟨rfl, rfl⟩
        · exact ⟨rfl, rfl⟩
    · exact .inl rfl

/-- The call marks the account: a live, unverified account of the address that is
stored under the token. -/
structure Marks (s : AccountState) (token : String) (env : VerifyEnv) (user : UserRow) : Prop where
  account : ∃ email, cacheGet s.redis env.now ("email-verify:" ++ token) = some (.str email) ∧
    email ≠ "" ∧ s.db.userByEmail? email = some user
  unverified : user.verified = false
  saved : env.saveFails = false

/-- `verifyEmail` does nothing, or it marks an account. -/
theorem verifyEmail_cases (s : AccountState) (token : String) (env : VerifyEnv) :
    (verifyEmail s token env).1 = s ∨ ∃ user, Marks s token env user ∧
      (verifyEmail s token env).1.db = saveUser s.db { user with verified := true } ∧
      (verifyEmail s token env).1.redis =
        if env.deleteFails then s.redis else cacheDel s.redis ("email-verify:" ++ token) := by
  simp only [verifyEmail]
  split
  · exact .inl rfl
  · split
    · exact .inl rfl
    · rename_i email cached
      obtain ⟨got, truthy⟩ := Option.filter_eq_some_iff.mp cached
      have nonempty : email ≠ "" := by simpa [Json.truthy] using truthy
      split
      · exact .inl rfl
      · rename_i user found
        split
        · exact .inl rfl
        · rename_i unverified
          split
          · exact .inl rfl
          · rename_i saved
            refine .inr ⟨user, ⟨⟨email, got, nonempty, found⟩, by simpa using unverified,
              by simpa using saved⟩, ?_⟩
            split
            · exact ⟨rfl, rfl⟩
            · exact ⟨rfl, rfl⟩
    · exact .inl rfl

/-- Whoever is signed in has a verified account of the address. -/
theorem signIn_eq_ok {jwt : Jwt} {config : JwtConfig} {compare : String → String → Bool}
    {redis : Redis} {email password : String} {clock : Clock} {pair : TokenPair}
    (signedIn : (signIn jwt config db compare redis email password clock).1 = .ok pair) :
    ∃ user ∈ db.users.rows, user.verified = true ∧ user.email = email := by
  unfold signIn at signedIn
  split at signedIn
  · cases signedIn
  · rename_i user valid
    split at signedIn
    · rename_i verified
      obtain ⟨found, -⟩ := Option.filter_eq_some_iff.mp valid
      obtain ⟨mem, here⟩ := userByEmail?_eq_some found
      exact ⟨user, mem, verified, here⟩
    · cases signedIn

end Calls

end CoupangEats
