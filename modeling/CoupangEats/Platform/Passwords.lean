import CoupangEats.Auth.SignUpRace
import CoupangEats.Platform.Integrity

/-!
Which password signs in.

An account is signed in with the password that it was given last, at its sign-up or
with its profile, once its address is verified, and with no other one, whatever else
the server was asked in between (`last_password_signs_in`). The history of the server is
read for that by `lastPassword`, which knows nothing of hashes.
-/

namespace CoupangEats

open CoupangEats.Base

/-! ### What sets a password -/

def SignUpBody.password (body : SignUpBody) : String := (body.fields.readString "password").getD ""

section Passwords

variable (deployment : Deployment)

/-- The account that an event gives a password, and the password: a new account, or one
whose profile is saved. -/
def setsPassword (e : ServerEvent) : Option (String × String) :=
  match e.input with
  | .signUp body env =>
      if (e.before.db.users.find? env.userId).isNone ∧ (e.after.db.users.find? env.userId).isSome
      then some (env.userId, body.password)
      else none
  | .member now authHeader (.updateUser dto env) =>
      match admitMember deployment e.before now authHeader (.updateUser dto env) with
      | .error _ => none
      | .ok user =>
          if validUpdateUser dto = true ∧ env.saveFails = false then
            ((dto.readString "password").filter (· ≠ "")).map fun password => (user.id, password)
          else none
  | _ => none

/-- The password that an event gives the account, if it gives it one. -/
def passwordFor (userId : String) (e : ServerEvent) : Option String :=
  ((setsPassword deployment e).filter fun set => set.1 = userId).map Prod.snd

/-- The password that an account was given last. -/
def lastPassword (past : List ServerEvent) (userId : String) : Option String :=
  (past.filterMap (passwordFor deployment userId)).getLast?

/-- The hash that a call brings is one of its password: passwords are compared with it as
`agrees` has it. -/
def Hashed (agrees : String → String → Bool) : ServerCall → Prop
  | .signUp body env =>
      ∀ tried, deployment.compare tried env.hashedPassword = agrees tried body.password
  | .member _ _ (.updateUser dto env) => ∀ password, dto.readString "password" = some password →
      ∀ tried, deployment.compare tried env.hashedPassword = agrees tried password
  | _ => True

/-- The stored hash of every account is one of the password that it was given last. -/
def PasswordsStored (agrees : String → String → Bool) (past : List ServerEvent)
    (s : ServerState) : Prop :=
  ∀ user ∈ s.db.users.rows, ∃ password, lastPassword deployment past user.id = some password ∧
    ∀ tried, deployment.compare tried user.password = agrees tried password

end Passwords

/-! ### One call -/

section Calls

variable {deployment : Deployment} {agrees : String → String → Bool} {past : List ServerEvent}
  {e : ServerEvent}

theorem lastPassword_append (userId : String) :
    lastPassword deployment (past ++ [e]) userId =
      (passwordFor deployment userId e).or (lastPassword deployment past userId) := by
  rw [lastPassword, List.filterMap_append, List.getLast?_append]
  cases given : passwordFor deployment userId e with
  | none => simp [given, lastPassword]
  | some password => simp [given]

theorem passwordFor_eq_some {userId password : String} :
    passwordFor deployment userId e = some password ↔
      setsPassword deployment e = some (userId, password) := by
  rw [passwordFor, Option.map_eq_some_iff]
  constructor
  · rintro ⟨⟨id, given⟩, set, rfl⟩
    obtain ⟨set, own⟩ := Option.filter_eq_some_iff.mp set
    rw [set, ← of_decide_eq_true own]
  · intro set
    exact ⟨_, Option.filter_eq_some_iff.mpr ⟨set, decide_eq_true rfl⟩, rfl⟩

/-- Every account behind an event was there with the same password, unless the event gives
it one and the hash is one of that. -/
structure PasswordsFollow (deployment : Deployment) (agrees : String → String → Bool)
    (e : ServerEvent) : Prop where
  kept : ∀ user ∈ e.after.db.users.rows, passwordFor deployment user.id e = none →
    ∃ old ∈ e.before.db.users.rows, old.id = user.id ∧ old.password = user.password
  set : ∀ user ∈ e.after.db.users.rows, ∀ password,
    passwordFor deployment user.id e = some password →
      ∀ tried, deployment.compare tried user.password = agrees tried password

theorem PasswordsFollow.stored (follow : PasswordsFollow deployment agrees e)
    (stored : PasswordsStored deployment agrees past e.before) :
    PasswordsStored deployment agrees (past ++ [e]) e.after := by
  intro user mem
  rw [lastPassword_append]
  cases given : passwordFor deployment user.id e with
  | some password => exact ⟨password, rfl, follow.set user mem password given⟩
  | none =>
      obtain ⟨old, before, id, same⟩ := follow.kept user mem given
      obtain ⟨password, last, agree⟩ := stored old before
      exact ⟨password, by rw [← id, last]; rfl, same ▸ agree⟩

/-- An event that sets no password and keeps the accounts. -/
theorem passwordsFollow_of_kept (silent : setsPassword deployment e = none)
    (kept : ∀ user ∈ e.after.db.users.rows, ∃ old ∈ e.before.db.users.rows,
      old.id = user.id ∧ old.password = user.password) : PasswordsFollow deployment agrees e :=
  ⟨fun user mem _ => kept user mem, fun _ _ _ set => by simp [passwordFor, silent] at set⟩

theorem passwordsFollow_of_users (silent : setsPassword deployment e = none)
    (same : e.after.db.users = e.before.db.users) : PasswordsFollow deployment agrees e :=
  passwordsFollow_of_kept silent fun user mem => ⟨user, same ▸ mem, rfl, rfl⟩

variable {s : ServerState}

theorem signUp_passwords {body : SignUpBody} {env : SignUpEnv} (declared : body.Declared)
    (hashed : Hashed deployment agrees (.signUp body env)) :
    PasswordsFollow deployment agrees ((server deployment).event s (.signUp body env)) := by
  have after : ((server deployment).event s (.signUp body env)).after.db.users =
      (createUserOrThrow s.db body env).store.users := by
    rw [Machine.event_after, server]
    exact congrArg Db.users (signUp_db s.redis)
  rcases createUserOrThrow_cases s.db body env with same | ⟨-, -, row, saved⟩
  · rw [same] at after
    refine passwordsFollow_of_users ?_ after
    simp only [setsPassword, Machine.event_input, Machine.event_before, after]
    cases s.db.users.find? env.userId <;> simp
  · have unnamed : (body.toEntity env.hashedPassword).read "id" = none := by
      rw [body.read_toEntity _ _ (by decide)]
      exact read_undeclared declared (by decide)
    rw [Mapping.save_unnamed unnamed, ← after] at saved
    obtain ⟨made, -, inserted⟩ := Mapping.saveNew_eq_some saved
    obtain ⟨fresh, rows⟩ := Table.insert_eq_some inserted
    rw [insertRow_toEntity] at made
    obtain ⟨verified, -, made⟩ := Option.bind_eq_some_iff.mp made
    obtain ⟨deletedAt, -, rfl⟩ := Option.map_eq_some_iff.mp made
    have sets : setsPassword deployment ((server deployment).event s (.signUp body env)) =
        some (env.userId, body.password) := by
      have absent : s.db.users.find? env.userId = none := fresh
      have found := Table.find?_insert inserted env.userId
      rw [if_pos rfl] at found
      simp only [setsPassword, Machine.event_input, Machine.event_before, absent, found]
      rfl
    constructor
    · intro user mem silent
      rw [rows, List.mem_append, List.mem_singleton] at mem
      rcases mem with old | rfl
      · exact ⟨user, old, rfl, rfl⟩
      · simp [passwordFor, sets] at silent
    · intro user mem password given
      rw [passwordFor_eq_some, sets] at given
      obtain ⟨same, rfl⟩ := Prod.mk.inj (Option.some.inj given)
      rw [rows, List.mem_append, List.mem_singleton] at mem
      rcases mem with old | rfl
      · exact absurd same.symm (Table.find?_eq_none_iff.mp fresh user old)
      · exact hashed

theorem verifyEmail_passwords {token : String} {env : VerifyEnv} :
    PasswordsFollow deployment agrees ((server deployment).event s (.verifyEmail token env)) := by
  refine passwordsFollow_of_kept rfl ?_
  rw [Machine.event_after, Machine.event_before]
  simp only [server]
  rcases verifyEmail_cases ⟨s.db, s.redis⟩ token env with same | ⟨old, marks, db, -⟩
  · rw [same]
    exact fun user mem => ⟨user, mem, rfl, rfl⟩
  · rw [db]
    intro user mem
    rcases mem_saveUser mem with rfl | before
    · obtain ⟨email, -, -, found⟩ := marks.account
      exact ⟨old, (userByEmail?_eq_some found).1, rfl, rfl⟩
    · exact ⟨user, before, rfl, rfl⟩

/-- The other accounts keep their rows. -/
theorem of_mem_saveUser {db : Db} {changed row : UserRow}
    (mem : row ∈ (saveUser db changed).users.rows) :
    row = changed ∨ row ∈ db.users.rows ∧ row.id ≠ changed.id := by
  have replaced : ∃ old ∈ db.users.rows, (if old.id = changed.id then changed else old) = row :=
    List.mem_map.mp mem
  obtain ⟨old, before, same⟩ := replaced
  split at same
  · exact .inl same.symm
  · rename_i other
    exact .inr (same ▸ ⟨before, other⟩)

/-- A profile without a new password keeps the old one. -/
theorem updatedUser_password {user : UserRow} {dto : Fields} {hash : String}
    (absent : (dto.readString "password").filter (· ≠ "") = none) :
    (updatedUser user dto hash).password = user.password := by
  simp only [updatedUser]
  cases read : dto.readString "password" with
  | none => rfl
  | some text =>
      have empty : text = "" := by simpa [read, Option.filter] using absent
      simp [empty]

/-- What a request for the own profile saves. -/
theorem updateProfile_db {db : Db} {redis : Redis} {user : UserRow} {dto : Fields}
    {env : UpdateEnv} (known : db.user? user.id = some user) :
    (updateProfile ⟨db, redis⟩ user.id dto env).1.db =
      if validUpdateUser dto = true ∧ env.saveFails = false then
        saveUser db (updatedUser user dto env.hashedPassword)
      else db := by
  simp only [updateProfile, known, updateUser]
  cases validUpdateUser dto <;> cases env.saveFails <;> cases env.deleteFails <;> rfl

theorem updateUser_passwords {now : Time} {authHeader : Option String} {dto : Fields}
    {env : UpdateEnv}
    (hashed : Hashed deployment agrees (.member now authHeader (.updateUser dto env))) :
    PasswordsFollow deployment agrees
      ((server deployment).event s (.member now authHeader (.updateUser dto env))) := by
  cases admitted : admitMember deployment s now authHeader (.updateUser dto env) with
  | error e =>
      refine passwordsFollow_of_users ?_ ?_
      · simp [setsPassword, admitted]
      · simp [server, admitted]
  | ok user =>
      obtain ⟨known, -⟩ := admitMember_eq_ok admitted
      have after : ((server deployment).event s
          (.member now authHeader (.updateUser dto env))).after.db =
            (updateProfile ⟨s.db, s.redis⟩ user.id dto env).1.db := by
        simp only [Machine.event_after, server, admitted, serveMember]
      rw [updateProfile_db known] at after
      by_cases saves : validUpdateUser dto = true ∧ env.saveFails = false
      · rw [if_pos saves] at after
        have sets : setsPassword deployment ((server deployment).event s
            (.member now authHeader (.updateUser dto env))) =
              ((dto.readString "password").filter (· ≠ "")).map fun password =>
                (user.id, password) := by
          simp only [setsPassword, Machine.event_input, Machine.event_before, admitted]
          rw [if_pos saves]
        constructor
        · intro row mem silent
          rw [after] at mem
          rcases mem_saveUser mem with rfl | before
          · refine ⟨user, Table.mem_of_find? (Db.user?_eq_some.mp known).1, rfl, ?_⟩
            have own : (updatedUser user dto env.hashedPassword).id = user.id := rfl
            have absent : (dto.readString "password").filter (· ≠ "") = none := by
              cases given : (dto.readString "password").filter (· ≠ "") with
              | none => rfl
              | some text =>
                  rw [given, Option.map_some] at sets
                  rw [own, passwordFor_eq_some.mpr sets] at silent
                  cases silent
            exact (updatedUser_password absent).symm
          · exact ⟨row, before, rfl, rfl⟩
        · intro row mem password given
          rw [passwordFor_eq_some, sets] at given
          obtain ⟨text, filtered, same⟩ := Option.map_eq_some_iff.mp given
          obtain ⟨own, rfl⟩ := Prod.mk.inj same
          obtain ⟨read, nonempty⟩ := Option.filter_eq_some_iff.mp filtered
          rw [after] at mem
          rcases of_mem_saveUser mem with rfl | ⟨-, other⟩
          · simp only [updatedUser, read, Option.any_some, nonempty, if_true]
            exact hashed text read
          · exact absurd own.symm other
      · rw [if_neg saves] at after
        refine passwordsFollow_of_users ?_ (congrArg Db.users after)
        simp only [setsPassword, Machine.event_input, Machine.event_before, admitted]
        rw [if_neg saves]

/-- A request for something else than the own profile leaves the accounts alone. -/
theorem serveMember_users {now : Time} {authHeader : Option String} {request : MemberRequest}
    {user : UserRow} (linked : Linked s.db)
    (declared : (ServerCall.member now authHeader request).Declared)
    (admitted : admitMember deployment s now authHeader request = .ok user)
    (other : ∀ dto env, request ≠ .updateUser dto env) :
    (serveMember deployment s user authHeader request).1.db.users = s.db.users := by
  obtain ⟨known, role, -⟩ := admitMember_eq_ok admitted
  cases request with
  | signOut revoked => rfl
  | updateUser dto env => exact absurd rfl (other dto env)
  | getUser userId env =>
      simp only [serveMember]
      split <;> rfl
  | createCategory call => rfl
  | catalogue request env => exact (write_of_catalogue known declared rfl).users
  | createOrder dto env =>
      have client : user.role = .client := by
        simpa [rolesGuard, MemberRequest.roles] using role
      exact (write_of_createOrder known client rfl).users
  | editOrderStatus orderId status faults =>
      exact (write_of_editOrderStatus known linked rfl).users
  | createPayment body generated => exact (write_of_payment known declared rfl).users
  | review request env => exact (write_of_review known declared rfl).users

/-- Every call. -/
theorem server_passwords (linked : Linked e.before.db) (declared : e.input.Declared)
    (hashed : Hashed deployment agrees e.input)
    (step : (server deployment).step e.before e.input = (e.after, e.output)) :
    PasswordsFollow deployment agrees e := by
  obtain ⟨s, call, reply, s'⟩ := e
  obtain rfl : reply = ((server deployment).step s call).2 := (congrArg Prod.snd step).symm
  obtain rfl : s' = ((server deployment).step s call).1 := (congrArg Prod.fst step).symm
  cases call with
  | signUp body env => exact signUp_passwords declared hashed
  | verifyEmail token env => exact verifyEmail_passwords
  | signIn email password clock => exact passwordsFollow_of_users rfl rfl
  | refresh guarded clock cookie => exact passwordsFollow_of_users rfl rfl
  | member now authHeader request =>
      by_cases profile : ∃ dto env, request = .updateUser dto env
      · obtain ⟨dto, env, rfl⟩ := profile
        exact updateUser_passwords hashed
      · have other (dto : Fields) (env : UpdateEnv) : request ≠ .updateUser dto env :=
          fun same => profile ⟨dto, env, same⟩
        refine passwordsFollow_of_users ?_ ?_
        · cases request with
          | updateUser dto env => exact absurd rfl (other dto env)
          | _ => rfl
        · cases admitted : admitMember deployment s now authHeader request with
          | error e => simp only [server, admitted]
          | ok user =>
              simp only [server, admitted]
              exact serveMember_users linked declared admitted other
  | cron now =>
      refine passwordsFollow_of_users rfl ?_
      simp only [server]
      split
      · rfl
      · rename_i db deleted
        exact (deleteOrders_static deleted).1

end Calls

/-! ### Runs -/

section Runs

variable {deployment : Deployment} {agrees : String → String → Bool} {past : List ServerEvent}
  {s : ServerState} {email password : String}

/-- The account of an address, if its password agrees. -/
theorem validateUser_iff (sound : Sound s.db) {user : UserRow} :
    validateUser s.db deployment.compare email password = some user ↔
      user ∈ s.db.users.rows ∧ user.email = email ∧
        deployment.compare password user.password = true := by
  rw [validateUser, Option.filter_eq_some_iff]
  constructor
  · rintro ⟨found, compared⟩
    obtain ⟨mem, same⟩ := userByEmail?_eq_some found
    exact ⟨mem, same, compared⟩
  · rintro ⟨mem, rfl, compared⟩
    exact ⟨sound.userByEmail? mem, compared⟩

theorem signIn_iff (sound : Sound s.db)
    (access : (deployment.jwt.lifetime deployment.config.accessExpiration).isSome)
    (refresh : (deployment.jwt.lifetime deployment.config.refreshExpiration).isSome)
    (clock : Clock) :
    (∃ pair, ((server deployment).step s (.signIn email password clock)).2.result =
        .ok (.tokens pair)) ↔
      ∃ user ∈ s.db.users.rows, user.email = email ∧ user.verified = true ∧
        deployment.compare password user.password = true := by
  constructor
  · rintro ⟨pair, given⟩
    obtain ⟨_, answered, -⟩ := map_eq_ok given
    simp only [signIn] at answered
    split at answered
    · cases answered
    · rename_i user valid
      obtain ⟨mem, here, compared⟩ := (validateUser_iff sound).mp valid
      split at answered
      · rename_i verified
        exact ⟨user, mem, here, verified, compared⟩
      · cases answered
  · rintro ⟨user, mem, here, verified, compared⟩
    have valid := (validateUser_iff sound).mpr ⟨mem, here, compared⟩
    obtain ⟨lifetime, access⟩ := Option.isSome_iff_exists.mp access
    obtain ⟨lifetime', refresh⟩ := Option.isSome_iff_exists.mp refresh
    simp [server, signIn, valid, verified, generateTokenPair, generateAccessToken, access,
      generateRefreshToken, refresh, Except.map]

/-- At every moment of a run from an empty store the store is sound, and its hashes are of
the passwords that were given last. -/
theorem passwordsStored_of_history {calls : List ServerCall}
    (declared : ∀ call ∈ calls, call.Declared)
    (hashed : ∀ call ∈ calls, Hashed deployment agrees call) {first rest : List ServerEvent}
    {e : ServerEvent} (split : (server deployment).history .empty calls = first ++ e :: rest) :
    ServerSound e.before ∧ PasswordsStored deployment agrees first e.before := by
  have keeps (past : List ServerEvent) (f : ServerEvent)
      (step : (server deployment).step f.before f.input = (f.after, f.output))
      (allowed : f.input.Declared ∧ Hashed deployment agrees f.input)
      (inv : ServerSound f.before ∧ PasswordsStored deployment agrees past f.before) :
      ServerSound f.after ∧ PasswordsStored deployment agrees (past ++ [f]) f.after :=
    ⟨inv.1.step step allowed.1,
      (server_passwords inv.1.db.linked allowed.1 allowed.2 step).stored inv.2⟩
  exact ((Machine.history_past
    (fun past s => ServerSound s ∧ PasswordsStored deployment agrees past s)
    (fun f => f.input.Declared ∧ Hashed deployment agrees f.input)
    keeps ⟨serverSound_empty, fun user mem => by cases mem⟩ fun f mem =>
      ⟨declared _ (Machine.input_mem mem), hashed _ (Machine.input_mem mem)⟩).2 first e rest
        split).1

/-- In every run of the server from an empty store, whatever is asked of it: a sign-in
succeeds exactly when the address has a verified account and the password agrees with the
one that the account was given last. -/
theorem last_password_signs_in
    (access : (deployment.jwt.lifetime deployment.config.accessExpiration).isSome)
    (refresh : (deployment.jwt.lifetime deployment.config.refreshExpiration).isSome)
    {calls : List ServerCall} (declared : ∀ call ∈ calls, call.Declared)
    (hashed : ∀ call ∈ calls, Hashed deployment agrees call) {first rest : List ServerEvent}
    {e : ServerEvent} (split : (server deployment).history .empty calls = first ++ e :: rest)
    {clock : Clock} (asks : e.input = .signIn email password clock) :
    (∃ pair, e.output.result = .ok (.tokens pair)) ↔
      ∃ user ∈ e.before.db.users.rows, user.email = email ∧ user.verified = true ∧
        ∃ last, lastPassword deployment first user.id = some last ∧
          agrees password last = true := by
  obtain ⟨sound, stored⟩ := passwordsStored_of_history declared hashed split
  have output := congrArg Prod.snd (Machine.step_of_mem_history (Machine.mem_of_split split))
  rw [asks] at output
  rw [← show _ = e.output from output, signIn_iff sound.db access refresh]
  refine exists_congr fun user => and_congr_right fun mem => and_congr_right fun _ =>
    and_congr_right fun _ => ?_
  obtain ⟨last, given, agree⟩ := stored user mem
  rw [agree]
  constructor
  · intro agreed
    exact ⟨last, given, agreed⟩
  · rintro ⟨last', given', agreed⟩
    rw [given, Option.some.injEq] at given'
    rw [given']
    exact agreed

end Runs

/-! ### Another password -/

/-- The owner signs up, and takes another password. -/
def changedPassword : List ServerCall :=
  openingDay.take 3 ++
    [.member 0 (sampleHeader "owner")
      (.updateUser [("password", .str "secret1!")] ⟨"secret1!", false, false⟩),
      .signIn "o@x.kr" "passw0rd!" (.at 0), .signIn "o@x.kr" "secret1!" (.at 0)]

/-- The old password is of no use any more. -/
theorem old_password_refused :
    ¬ ∃ pair, ((server sampleDeployment).event
      ((server sampleDeployment).run .empty (changedPassword.take 4))
      (.signIn "o@x.kr" "passw0rd!" (.at 0))).output.result = .ok (.tokens pair) := by
  have signsIn := @last_password_signs_in sampleDeployment (fun a b => a = b) "o@x.kr" "passw0rd!"
    rfl rfl changedPassword ?_ ?_
    ((server sampleDeployment).history .empty (changedPassword.take 4)) _ _ rfl (.at 0) rfl
  · have last : ∀ user ∈
        ((server sampleDeployment).run .empty (changedPassword.take 4)).db.users.rows,
        lastPassword sampleDeployment
          ((server sampleDeployment).history .empty (changedPassword.take 4)) user.id =
            some "secret1!" := by
      decide +kernel
    refine signsIn.not.mpr ?_
    rintro ⟨user, mem, -, -, password, given, agreed⟩
    rw [last user mem] at given
    cases given
    exact absurd (of_decide_eq_true agreed) (by decide)
  · intro call mem
    rcases List.mem_append.mp mem with opening | later
    · exact openingDay_declared call (List.mem_of_mem_take opening)
    · simp only [List.mem_cons, List.not_mem_nil, or_false] at later
      rcases later with rfl | rfl | rfl <;> trivial
  · intro call mem
    simp only [changedPassword, openingDay, List.take, List.cons_append, List.nil_append,
      List.mem_cons, List.not_mem_nil, or_false] at mem
    rcases mem with rfl | rfl | rfl | rfl | rfl | rfl
    · exact fun tried => rfl
    · trivial
    · trivial
    · rintro password given tried
      cases given
      rfl
    · trivial
    · trivial

end CoupangEats
