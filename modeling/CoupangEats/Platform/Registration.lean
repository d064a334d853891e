import CoupangEats.Platform.Cache
import CoupangEats.Platform.Passwords

/-!
From the sign-up to the first sign-in.

A sign-up that succeeds leaves an account and an entry of its address under the token of
its mail. Until the link of the mail is followed nothing else takes the entry away, and
from then on nothing makes the account unverified again. So whoever signs up with an
address that is not empty and follows the link in time signs in with the password that
was set last (`registration_completes`).
-/

namespace CoupangEats

open CoupangEats.Base

/-! ### Accounts last -/

section Accounts

variable {deployment : Deployment} {s s' : ServerState} {userId : String} {user : UserRow}

/-- The account is there, with its address, and as verified as it was. -/
theorem AccountWrite.kept {db db' : Db} {actor : Option String} (write : AccountWrite db actor db')
    (found : db.users.find? userId = some user) :
    ∃ after, db'.users.find? userId = some after ∧ after.email = user.email ∧
      (user.verified = true → after.verified = true) := by
  cases write with
  | none => exact ⟨user, found, rfl, id⟩
  | added new live unique puts =>
      refine ⟨user, ?_, rfl, id⟩
      rw [puts, if_neg, found]
      rintro rfl
      rw [new] at found
      cases found
  | @verified old users stored puts =>
      by_cases own : userId = old.id
      · subst own
        rw [stored, Option.some.injEq] at found
        subst found
        exact ⟨_, puts.stored, rfl, fun _ => rfl⟩
      · exact ⟨user, by rw [puts, if_neg own, found], rfl, id⟩
  | @updated old name password users stored puts =>
      by_cases own : userId = old.id
      · subst own
        rw [stored, Option.some.injEq] at found
        subst found
        exact ⟨_, puts.stored, rfl, id⟩
      · exact ⟨user, by rw [puts, if_neg own, found], rfl, id⟩

theorem ServerEffect.account_kept {call : ServerCall}
    (effect : ServerEffect deployment s call s') (found : s.db.users.find? userId = some user) :
    ∃ after, s'.db.users.find? userId = some after ∧ after.email = user.email ∧
      (user.verified = true → after.verified = true) := by
  cases effect with
  | account write => exact write.kept found
  | category => exact ⟨user, found, rfl, id⟩
  | member _ write => exact ⟨user, by rw [write.users, found], rfl, id⟩
  | cron deleted => exact ⟨user, by rw [(deleteOrders_static deleted).1, found], rfl, id⟩

end Accounts

/-! ### The sign-up -/

section SignUp

variable {db : Db} {redis : Redis} {body : SignUpBody} {env : SignUpEnv}

/-- A transaction that succeeds has saved the body. -/
theorem createUserOrThrow_saved (created : (createUserOrThrow db body env).result = .ok ()) :
    ∃ row, userMapping.save db.acceptsUser env.userId db.users (body.toEntity env.hashedPassword) =
      some (row, (createUserOrThrow db body env).store.users) := by
  rw [createUserOrThrow, transactional_store created]
  rw [createUserOrThrow, transactional_eq_ok] at created
  obtain ⟨created, -⟩ := created
  unfold createUserBody at created ⊢
  cases account : db.userByEmail? body.email with
  | some user =>
      simp only [account] at created
      cases created
  | none =>
      cases fails : env.faults.save with
      | true => simp [account, fails] at created
      | false =>
          simp only [account, fails, Bool.false_eq_true, if_false] at created ⊢
          cases saved : userMapping.save db.acceptsUser env.userId db.users
              (body.toEntity env.hashedPassword) with
          | none => simp [saved] at created
          | some out => exact ⟨out.1, rfl⟩

/-- A sign-up that succeeds has made the account, and has left its address under the
token. -/
theorem signUp_made (declared : body.Declared)
    (accepted : (signUp db redis body env).result = .ok ()) :
    (∃ user, (signUp db redis body env).db.users.find? env.userId = some user ∧
      user.email = body.email) ∧
      (signUp db redis body env).redis =
        cacheSet redis env.now ("email-verify:" ++ env.token) (.str body.email) (some 300) := by
  have unnamed : (body.toEntity env.hashedPassword).read "id" = none := by
    rw [body.read_toEntity _ _ (by decide)]
    exact read_undeclared declared (by decide)
  cases created : (createUserOrThrow db body env).result with
  | error e => simp [signUp, created] at accepted
  | ok done =>
      obtain ⟨row, saved⟩ := createUserOrThrow_saved created
      rw [Mapping.save_unnamed unnamed] at saved
      obtain ⟨made, -, inserted⟩ := Mapping.saveNew_eq_some saved
      rw [insertRow_toEntity] at made
      obtain ⟨verified, -, made⟩ := Option.bind_eq_some_iff.mp made
      obtain ⟨deletedAt, -, rfl⟩ := Option.map_eq_some_iff.mp made
      constructor
      · refine ⟨⟨env.userId, body.email, env.hashedPassword, body.name, body.role, verified,
          deletedAt⟩, ?_, rfl⟩
        rw [signUp_users, Table.find?_insert inserted, if_pos rfl]
      · cases down : env.cacheDown <;> cases mail : env.mailDown <;>
          simp [signUp, created, down, mail] at accepted ⊢

end SignUp

/-! ### The link -/

section Link

variable {deployment : Deployment} {s : ServerState} {userId email token : String} {last : Time}

/-- The call makes or follows the link with the token. -/
def UsesToken (token : String) : ServerCall → Prop
  | .signUp _ env => env.token = token
  | .verifyEmail used _ => used = token
  | _ => False

theorem blacklistKey_ne_verifyKey (used token : String) :
    blacklistKey used ≠ "email-verify:" ++ token := by
  intro same
  have heads := congrArg (fun s => s.toList.head?) same
  simp [blacklistKey] at heads

/-- The entry of a token is touched by nothing else. -/
theorem usesToken_of_touches {call : ServerCall}
    (touches : Touches deployment s call ("email-verify:" ++ token)) : UsesToken token call := by
  generalize same : "email-verify:" ++ token = key at touches
  cases touches with
  | signedUp => simpa [UsesToken] using same.symm
  | verified => simpa [UsesToken] using same.symm
  | issued => exact absurd same (verifyKey_ne_refreshTokenKey _ _)
  | signedOut => exact absurd same (verifyKey_ne_refreshTokenKey _ _)
  | blacklisted => exact absurd same.symm (blacklistKey_ne_verifyKey _ _)
  | profile => exact absurd same.symm (userKey_ne_verifyKey _ _)

/-- The account is there, and until `last` its address can be read under the token. -/
structure Invited (userId email token : String) (last : Time) (s : ServerState) : Prop where
  sound : ServerSound s
  account : ∃ user, s.db.users.find? userId = some user ∧ user.email = email
  entry : ∀ now ≤ last, cacheGet s.redis now ("email-verify:" ++ token) = some (.str email)

/-- An invitation lasts until its link is followed. -/
theorem Invited.step {e : ServerEvent} (lawful : deployment.jwt.Lawful)
    (step : (server deployment).step e.before e.input = (e.after, e.output))
    (declared : e.input.Declared) (unused : ¬ UsesToken token e.input)
    (invited : Invited userId email token last e.before) :
    Invited userId email token last e.after := by
  obtain ⟨user, found, here⟩ := invited.account
  have effect := server_effect invited.sound.db.linked invited.sound.shown declared step
  obtain ⟨after, kept, same, -⟩ := effect.account_kept found
  refine ⟨invited.sound.step step declared, ⟨after, kept, same.trans here⟩, fun now early => ?_⟩
  have entry : e.after.redis ("email-verify:" ++ token) =
      e.before.redis ("email-verify:" ++ token) := by
    rw [← show _ = e.after from congrArg Prod.fst step]
    exact cache_frame lawful fun touches => unused (usesToken_of_touches touches)
  rw [← invited.entry now early]
  exact Expiring.get_congr entry now

/-- A link that is followed in time verifies the account. -/
theorem Invited.verifyEmail {env : VerifyEnv} (invited : Invited userId email token last s)
    (address : email ≠ "") (inTime : env.now ≤ last) (up : env.cacheDown = false)
    (saves : env.saveFails = false) (deletes : env.deleteFails = false) :
    ((server deployment).step s (.verifyEmail token env)).2.result = .ok .done ∧
      ∃ user, ((server deployment).step s (.verifyEmail token env)).1.db.users.find? userId =
          some user ∧ user.email = email ∧ user.verified = true := by
  obtain ⟨user, found, rfl⟩ := invited.account
  have account := invited.sound.db.userByEmail? (Table.mem_of_find? found)
  have cached := invited.entry env.now inTime
  have truthy : (Json.str user.email).truthy = true := by simpa [Json.truthy] using address
  cases verified : user.verified with
  | true =>
      simp [server, CoupangEats.verifyEmail, up, cached, truthy, Option.filter, account, verified,
        Except.map, found]
  | false =>
      have saved : (saveUser s.db { user with verified := true }).users.find? userId =
          some { user with verified := true } := by
        simp only [saveUser, Table.find?_modify, Table.key_of_find? found, if_true, found,
          Option.map_some]
      simp [server, CoupangEats.verifyEmail, up, cached, truthy, Option.filter, account, verified,
        Except.map, saves, deletes, saved]

end Link

/-! ### Runs -/

section Runs

variable {deployment : Deployment} {agrees : String → String → Bool}

/-- The account and its entry are there behind the sign-up. -/
theorem invited_of_signUp {e : ServerEvent} {body : SignUpBody} {env : SignUpEnv}
    (step : (server deployment).step e.before e.input = (e.after, e.output))
    (declared : e.input.Declared) (sound : ServerSound e.before)
    (signsUp : e.input = .signUp body env) (accepted : e.output.result = .ok .done) :
    Invited env.userId body.email env.token (env.now + 300 * 1000) e.after := by
  have after := sound.step step declared
  obtain ⟨s, call, reply, s'⟩ := e
  obtain rfl : call = .signUp body env := signsUp
  obtain rfl : reply = ((server deployment).step s (.signUp body env)).2 :=
    (congrArg Prod.snd step).symm
  obtain rfl : s' = ((server deployment).step s (.signUp body env)).1 :=
    (congrArg Prod.fst step).symm
  obtain ⟨_, made, -⟩ := map_eq_ok accepted
  obtain ⟨account, entry⟩ := signUp_made declared made
  refine ⟨after, account, fun now early => ?_⟩
  simp only [server, entry]
  refine cacheGet_cacheSet fun seconds timed _ => ?_
  cases timed
  exact ⟨by decide, early⟩

/-- A verified account stays a verified account. -/
theorem verified_step {userId email : String} {e : ServerEvent}
    (step : (server deployment).step e.before e.input = (e.after, e.output))
    (declared : e.input.Declared) (sound : ServerSound e.before)
    (verified : ∃ user, e.before.db.users.find? userId = some user ∧ user.email = email ∧
      user.verified = true) :
    ∃ user, e.after.db.users.find? userId = some user ∧ user.email = email ∧
      user.verified = true := by
  obtain ⟨user, found, here, marked⟩ := verified
  have effect := server_effect sound.db.linked sound.shown declared step
  obtain ⟨after, kept, same, stays⟩ := effect.account_kept found
  exact ⟨after, kept, same.trans here, stays marked⟩

/-- In every run of the server from an empty store, whatever else is asked of it: whoever
has signed up with an address and follows the link of the mail within its five minutes,
for the first time and while the store and the cache answer, is verified, and signs in
from then on with the password that was set last and with no other one. -/
theorem registration_completes (lawful : deployment.jwt.Lawful)
    (access : (deployment.jwt.lifetime deployment.config.accessExpiration).isSome)
    (refresh : (deployment.jwt.lifetime deployment.config.refreshExpiration).isSome)
    {calls : List ServerCall} (declared : ∀ call ∈ calls, call.Declared)
    (hashed : ∀ call ∈ calls, Hashed deployment agrees call)
    {first between later rest : List ServerEvent} {e f g : ServerEvent}
    (split : (server deployment).history .empty calls =
      first ++ e :: (between ++ f :: (later ++ g :: rest)))
    {body : SignUpBody} {env : SignUpEnv} (signsUp : e.input = .signUp body env)
    (accepted : e.output.result = .ok .done) (address : body.email ≠ "")
    (unused : ∀ h ∈ between, ¬ UsesToken env.token h.input)
    {link : VerifyEnv} (follows : f.input = .verifyEmail env.token link)
    (inTime : link.now ≤ env.now + 300 * 1000)
    (up : link.cacheDown = false ∧ link.saveFails = false ∧ link.deleteFails = false)
    {password : String} {clock : Clock} (asks : g.input = .signIn body.email password clock) :
    f.output.result = .ok .done ∧ ∃ last,
      lastPassword deployment (first ++ e :: (between ++ f :: later)) env.userId = some last ∧
      ((∃ pair, g.output.result = .ok (.tokens pair)) ↔ agrees password last = true) := by
  have allowed {h : ServerEvent} (mem : h ∈ (server deployment).history .empty calls) :
      (server deployment).step h.before h.input = (h.after, h.output) ∧ h.input.Declared :=
    ⟨Machine.step_of_mem_history mem, declared _ (Machine.input_mem mem)⟩
  have invited : Invited env.userId body.email env.token (env.now + 300 * 1000) e.after := by
    obtain ⟨step, plain⟩ := allowed (Machine.mem_of_split split)
    exact invited_of_signUp step plain (passwordsStored_of_history declared hashed split).1 signsUp
      accepted
  -- nothing takes the entry away before the link is followed
  have reached : Invited env.userId body.email env.token (env.now + 300 * 1000) f.before := by
    refine Machine.history_until _ (fun h => h.input.Declared ∧ ¬ UsesToken env.token h.input)
      (fun h step permitted inv => inv.step lawful step permitted.1 permitted.2) split invited
      fun h mem => ⟨(allowed ?_).2, unused h mem⟩
    rw [split]
    simp [mem]
  -- the link verifies the account, which stays verified
  have regrouped : (server deployment).history .empty calls =
      (first ++ e :: between) ++ f :: (later ++ g :: rest) := by
    rw [split, List.append_assoc, List.cons_append]
  obtain ⟨step, -⟩ := allowed (Machine.mem_of_split regrouped)
  rw [follows] at step
  obtain ⟨done, verified⟩ := reached.verifyEmail address inTime up.1 up.2.1 up.2.2
  rw [step] at done verified
  refine ⟨done, ?_⟩
  have stays : ServerSound g.before ∧ ∃ user, g.before.db.users.find? env.userId = some user ∧
      user.email = body.email ∧ user.verified = true := by
    refine Machine.history_until
      (fun s => ServerSound s ∧ ∃ user, s.db.users.find? env.userId = some user ∧
        user.email = body.email ∧ user.verified = true) (fun h => h.input.Declared)
      (fun h step plain inv => ⟨inv.1.step step plain, verified_step step plain inv.1 inv.2⟩)
      regrouped ⟨?_, verified⟩ fun h mem => (allowed ?_).2
    · obtain ⟨step, plain⟩ := allowed (Machine.mem_of_split regrouped)
      exact reached.sound.step step plain
    · rw [regrouped]
      simp [mem]
  -- only the account of the address can be the one that is signed in
  have last : (server deployment).history .empty calls =
      (first ++ e :: (between ++ f :: later)) ++ g :: rest := by
    rw [split]
    simp
  obtain ⟨sound, user, found, here, marked⟩ := stays
  obtain ⟨-, stored⟩ := passwordsStored_of_history declared hashed last
  have mem := Table.mem_of_find? found
  obtain ⟨set, given, agree⟩ := stored user mem
  have own : user.id = env.userId := Table.key_of_find? found
  rw [own] at given
  refine ⟨set, given, ?_⟩
  obtain ⟨step, -⟩ := allowed (Machine.mem_of_split last)
  rw [asks] at step
  rw [← show _ = g.output from congrArg Prod.snd step, signIn_iff sound.db access refresh, ← agree]
  constructor
  · rintro ⟨other, mem', same, -, compared⟩
    obtain rfl : other = user :=
      sound.db.emails other mem' user mem body.email (congrArg some same) (congrArg some here)
    exact compared
  · exact fun compared => ⟨user, mem, here, marked, compared⟩

end Runs

/-- The owner of the opening day follows the link at once, and signs in. -/
theorem owner_signs_in :
    ∃ pair, ((server sampleDeployment).event
      ((server sampleDeployment).run .empty (openingDay.take 2))
      (.signIn "o@x.kr" "passw0rd!" (.at 0))).output.result = .ok (.tokens pair) := by
  have completes := @registration_completes sampleDeployment (fun a b => a = b)
    sampleJwt_lawful rfl rfl (openingDay.take 3)
    (fun call mem => openingDay_declared call (List.mem_of_mem_take mem)) ?_
    [] [] [] [] _ _ _ rfl ownerSignUp ⟨"passw0rd!", "owner", "token", 0, .none, false, false⟩ rfl
    ?_ (by decide +kernel) (by simp) ⟨0, false, false, false⟩ rfl (by decide) ⟨rfl, rfl, rfl⟩
    "passw0rd!" (.at 0) rfl
  · obtain ⟨-, last, given, signsIn⟩ := completes
    have set : lastPassword sampleDeployment
        ((server sampleDeployment).history .empty (openingDay.take 2)) "owner" =
          some "passw0rd!" := by
      decide +kernel
    refine signsIn.mpr (decide_eq_true ?_)
    exact Option.some.inj (set.symm.trans given)
  · intro call mem
    simp only [openingDay, List.take, List.mem_cons, List.not_mem_nil, or_false] at mem
    rcases mem with rfl | rfl | rfl
    · exact fun tried => rfl
    · trivial
    · trivial
  · rfl

end CoupangEats
