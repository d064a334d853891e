import CoupangEats.Auth.RefreshRace
import CoupangEats.Auth.Rotation

/-!
Sign-outs among concurrent refreshes.

A sign-out deletes the stored refresh token of its user. A refresh that has
compared its token before the deletion stores another one after it, and that
token is accepted though its user has signed out. When no refresh of the user is
on its way between the two at the moment of the deletion, the sign-out is final
(`sign_out_final`): whatever the calls do from then on, no refresh token of the
user is accepted.
-/

namespace CoupangEats

open CoupangEats.Base

/-! ### Calls and their steps -/

/-- How far a sign-out has got: the refresh token deleted, the access token
blacklisted, the blacklist entry given its time to live. -/
inductive SignOutPhase where
  | ready
  | revoked
  | blacklisted
  | done
  deriving DecidableEq

/-- A call and how far it has got. -/
inductive SessionPhase where
  | refreshing (refreshToken : String) (phase : RefreshPhase)
  | signingOut (userId accessToken : String) (phase : SignOutPhase)
  deriving DecidableEq

/-- A request to refresh a token or to sign out. -/
inductive SessionCall where
  | refreshTokens (refreshToken : String)
  | signOut (userId accessToken : String)

/-- The call has done nothing. -/
def SessionCall.start : SessionCall → SessionPhase
  | .refreshTokens refreshToken => .refreshing refreshToken .ready
  | .signOut userId accessToken => .signingOut userId accessToken .ready

/-- The user whose stored token the call has compared and is on its way to
replace. -/
def SessionPhase.replaces : SessionPhase → Option String
  | .refreshing _ (.compared userId) | .refreshing _ (.signedAccess userId _)
  | .refreshing _ (.signed userId _) => some userId
  | _ => none

/-- The call has returned. -/
def SessionPhase.finished : SessionPhase → Bool
  | .refreshing _ (.done _) | .signingOut _ _ .done => true
  | _ => false

section Threads

variable {ι : Type} (jwt : Jwt) (config : JwtConfig)

/-- One step of a sign-out on the cache: `DEL`, `SET`, `EXPIRE`. -/
def signOutStep (userId accessToken : String) (now : Time) (redis : Redis) :
    SignOutPhase → Redis × SignOutPhase
  | .ready => (revokeRefreshToken redis userId, .revoked)
  | .revoked => (redis.set (blacklistKey accessToken) (.bool true), .blacklisted)
  | .blacklisted =>
      match parseExpirationToSeconds config.accessExpiration with
      | none => (redis, .done)
      | some ttl =>
          if ttl = 0 then (redis, .done)
          else (redis.expire now (blacklistKey accessToken) (ttl * 1000), .done)
  | .done => (redis, .done)

/-- One step of a call. -/
def sessionStep : ThreadStep ι Time Redis SessionPhase
  | i, now, redis, .refreshing refreshToken phase =>
      let next := refreshStep jwt config refreshToken i now redis phase
      (next.1, .refreshing refreshToken next.2)
  | _, now, redis, .signingOut userId accessToken phase =>
      let next := signOutStep config userId accessToken now redis phase
      (next.1, .signingOut userId accessToken next.2)

/-- A sign-out on its own is `revokeAllUserTokens`. -/
theorem signOutStep_alone (userId accessToken : String) (redis : Redis) (first second now : Time) :
    let step (now : Time) (s : Redis × SignOutPhase) :=
      signOutStep config userId accessToken now s.1 s.2
    step now (step second (step first (redis, .ready))) =
      (revokeAllUserTokens config redis now userId accessToken, .done) := by
  simp only [signOutStep, revokeAllUserTokens, cacheSet]
  cases parseExpirationToSeconds config.accessExpiration with
  | none => rfl
  | some ttl => by_cases zero : ttl = 0 <;> simp only [zero, if_true, if_false]

/-- The start: no call has done anything. -/
def sessionStart (redis : Redis) (calls : ι → SessionCall) : Config ι Redis SessionPhase :=
  ⟨redis, fun i => (calls i).start⟩

/-- The interleavings of the calls. -/
abbrev sessionRace [DecidableEq ι] : Machine (Config ι Redis SessionPhase) (ι × Time) Unit :=
  interleave (sessionStep jwt config)

end Threads

/-- No refresh token of the user is accepted, at any time. -/
def SignedOut (jwt : Jwt) (config : JwtConfig) (redis : Redis) (userId : String) : Prop :=
  ∀ clock refreshToken decoded, verifyRefreshToken jwt config redis clock refreshToken =
    .ok decoded → decoded.payload.sub = userId → decoded.expired = true

/-- The condition on a step of a call: a sign-out does not delete its user's token
while a refresh is on its way to replace it. -/
def Settled {ι : Type} (c : Config ι Redis SessionPhase) (i : ι) : Prop :=
  match c.locals i with
  | .signingOut userId _ .ready => ∀ j, (c.locals j).replaces ≠ some userId
  | _ => True

/-! ### What stays closed -/

/-- The user's key is set to no token. -/
def NoToken (redis : Redis) (userId : String) : Prop :=
  ∀ refreshToken, ¬ HoldsToken redis userId refreshToken

/-- The user's key is set to no token, and no call is on its way to set it. -/
structure Closed {ι : Type} (c : Config ι Redis SessionPhase) (userId : String) : Prop where
  token : NoToken c.store userId
  calls : ∀ i, (c.locals i).replaces ≠ some userId

section Race

variable {ι : Type} {jwt : Jwt} {config : JwtConfig} {userId : String}

/-- Where no token is stored, none is accepted. -/
theorem signedOut_of_noToken {redis : Redis} (none : NoToken redis userId) :
    SignedOut jwt config redis userId := by
  intro clock refreshToken decoded accepted owner
  unfold verifyRefreshToken at accepted
  split at accepted
  · cases accepted
  · split at accepted
    · rename_i expired
      cases accepted
      exact expired
    · split at accepted
      · cases accepted
      · rename_i stored
        cases accepted
        refine absurd (Expiring.holds_of_get (not_not.mp stored)) ?_
        rw [owner]
        exact none refreshToken

/-- A step of a refresh leaves the user's key without a token when it is not on
its way to set it, and does not set out for it. -/
theorem refreshStep_closed {i : ι} {now : Time} {redis : Redis} {refreshToken : String}
    {phase : RefreshPhase} (none : NoToken redis userId)
    (other : (SessionPhase.refreshing refreshToken phase).replaces ≠ some userId) :
    NoToken (refreshStep jwt config refreshToken i now redis phase).1 userId ∧
      (SessionPhase.refreshing refreshToken
        (refreshStep jwt config refreshToken i now redis phase).2).replaces ≠ some userId := by
  -- Most phases are not about to store anything.
  have silent : (Option.none : Option String) ≠ some userId := (Option.some_ne_none userId).symm
  cases phase with
  | ready =>
      simp only [refreshStep]
      split
      · exact ⟨none, silent⟩
      · split <;> exact ⟨none, silent⟩
  | verified owner =>
      simp only [refreshStep]
      split
      · exact ⟨none, silent⟩
      · rename_i stored
        refine ⟨none, ?_⟩
        intro same
        cases same
        exact none refreshToken (Expiring.holds_of_get (not_not.mp stored))
  | compared owner =>
      simp only [refreshStep]
      split
      · exact ⟨none, silent⟩
      · exact ⟨none, other⟩
  | signedAccess owner accessToken =>
      simp only [refreshStep]
      split
      · exact ⟨none, silent⟩
      · exact ⟨none, other⟩
  | signed owner pair =>
      refine ⟨?_, silent⟩
      intro token holds
      simp only [refreshStep, HoldsToken] at holds
      rw [Expiring.holds_set, if_neg fun same => other (by rw [refreshTokenKey_inj same]; rfl)]
        at holds
      exact none token holds
  | stored owner pair =>
      simp only [refreshStep]
      split
      · exact ⟨none, silent⟩
      · split
        · exact ⟨none, silent⟩
        · exact ⟨fun token holds => none token (Expiring.holds_of_expire holds), silent⟩
  | done result => exact ⟨none, silent⟩

/-- A step of a sign-out stores no refresh token. -/
theorem signOutStep_closed {now : Time} {redis : Redis} {owner accessToken : String}
    {phase : SignOutPhase} (none : NoToken redis userId) :
    NoToken (signOutStep config owner accessToken now redis phase).1 userId := by
  intro token holds
  cases phase with
  | ready => exact none token (Expiring.holds_of_del holds)
  | revoked =>
      simp only [signOutStep, HoldsToken] at holds
      rw [Expiring.holds_set] at holds
      split at holds
      · cases holds
      · exact none token holds
  | blacklisted =>
      simp only [signOutStep] at holds
      split at holds
      · exact none token holds
      · split at holds
        · exact none token holds
        · exact none token (Expiring.holds_of_expire holds)
  | done => exact none token holds

/-- The deletion leaves no token of its user. -/
theorem noToken_of_revoke (redis : Redis) (userId : String) :
    NoToken (revokeRefreshToken redis userId) userId :=
  fun _ => Expiring.not_holds_del

section Steps

variable [DecidableEq ι] {e : Event (Config ι Redis SessionPhase) (ι × Time) Unit}

/-- What is closed stays closed. -/
theorem Closed.step (step : (sessionRace jwt config).step e.before e.input = (e.after, e.output))
    (closed : Closed e.before userId) : Closed e.after userId := by
  obtain ⟨moved, others⟩ := interleave_step step
  obtain ⟨before, ⟨i, now⟩, _, after⟩ := e
  have next : NoToken after.store userId ∧ (after.locals i).replaces ≠ some userId := by
    have here := closed.calls i
    generalize before.locals i = phase at moved here
    cases phase with
    | refreshing refreshToken phase =>
        simp only [sessionStep, Prod.mk.injEq] at moved
        rw [← moved.1, ← moved.2]
        exact refreshStep_closed closed.token here
    | signingOut owner accessToken phase =>
        simp only [sessionStep, Prod.mk.injEq] at moved
        rw [← moved.1, ← moved.2]
        exact ⟨signOutStep_closed closed.token, nofun⟩
  refine ⟨next.1, ?_⟩
  apply forall_locals (P := fun _ phase => SessionPhase.replaces phase ≠ some userId) others next.2
  intro j _
  exact closed.calls j

/-- The users of all sign-outs that have deleted their token are closed. -/
def Final (c : Config ι Redis SessionPhase) : Prop :=
  ∀ i userId accessToken phase, c.locals i = .signingOut userId accessToken phase →
    phase ≠ .ready → Closed c userId

/-- A settled step keeps the invariant: a sign-out closes its user by the
deletion. -/
theorem Final.step (step : (sessionRace jwt config).step e.before e.input = (e.after, e.output))
    (settled : Settled e.before e.input.1) (inv : Final e.before) : Final e.after := by
  intro j userId accessToken phase here past
  obtain ⟨moved, others⟩ := interleave_step step
  by_cases same : j = e.input.1
  · cases before : e.before.locals j with
    | refreshing refreshToken earlier =>
        rw [← same, before] at moved
        simp only [sessionStep, Prod.mk.injEq] at moved
        rw [here] at moved
        cases moved.2
    | signingOut owner token earlier =>
        rw [← same, before] at moved
        simp only [sessionStep, Prod.mk.injEq] at moved
        rw [here, SessionPhase.signingOut.injEq] at moved
        obtain ⟨store, rfl, rfl, -⟩ := moved
        by_cases first : earlier = .ready
        · -- The deletion: no call is on its way.
          subst first
          rw [Settled, ← same, before] at settled
          constructor
          · rw [← store]
            exact noToken_of_revoke _ _
          · apply forall_locals
              (P := fun _ phase => SessionPhase.replaces phase ≠ some owner) others
            · rw [← same, here]
              nofun
            · intro k _
              exact settled k
        · exact (inv j owner token earlier before first).step step
  · rw [others j same] at here
    exact (inv j userId accessToken phase here past).step step

/-- In a settled run, however the calls interleave, a sign-out that has
deleted its user's token is final: from then on no refresh token of the user is
accepted. -/
theorem sign_out_final {redis : Redis} {calls : ι → SessionCall} {schedule : List (ι × Time)}
    (settled : ∀ e ∈ (sessionRace jwt config).history (sessionStart redis calls) schedule,
      Settled e.before e.input.1) :
    let c := (sessionRace jwt config).run (sessionStart redis calls) schedule
    ∀ i userId accessToken phase, c.locals i = .signingOut userId accessToken phase →
      phase ≠ .ready → SignedOut jwt config c.store userId := by
  have start : Final (sessionStart redis calls) := by
    intro i userId accessToken phase here past
    simp only [sessionStart] at here
    cases called : calls i with
    | refreshTokens refreshToken =>
        rw [called] at here
        cases here
    | signOut owner token =>
        rw [called] at here
        cases here
        exact absurd rfl past
  have final := (Machine.history_invariant Final _
    (fun _ step settled inv => Final.step step settled inv) start settled).1
  intro c i userId accessToken phase here past
  exact signedOut_of_noToken (final i userId accessToken phase here past).token

end Steps

end Race

/-! ### A refresh and a sign-out -/

instance {ι : Type} [Fintype ι] (c : Config ι Redis SessionPhase) (i : ι) :
    Decidable (Settled c i) := by
  unfold Settled
  split <;> infer_instance

/-- The user's refresh, and the user's sign-out. -/
def refreshAndSignOut (refreshes : Bool) : SessionCall :=
  if refreshes then .refreshTokens signInToken else .signOut "user" "access"

/-- The refresh has stored its token before the sign-out deletes it. -/
theorem signed_out_after_refresh :
    SignedOut sampleJwt sampleConfig
      ((sessionRace sampleJwt sampleConfig).run (sessionStart signInRedis refreshAndSignOut)
        [(true, 1000), (true, 1001), (true, 1002), (true, 1003), (true, 1004), (false, 1005),
          (true, 1006), (false, 1007), (false, 1008)]).store "user" :=
  sign_out_final (by decide +kernel) false "user" "access" .done (by decide +kernel) (by decide)

/-- A refresh that has compared its token before the deletion stores another
after it, which is accepted when both calls have returned. -/
theorem refreshed_past_sign_out :
    ¬ ∀ (ι : Type) [DecidableEq ι] (jwt : Jwt) (config : JwtConfig) (redis : Redis)
        (calls : ι → SessionCall) (schedule : List (ι × Time)), jwt.Lawful →
      let c := (sessionRace jwt config).run (sessionStart redis calls) schedule
      (∀ i, (c.locals i).finished = true) →
      ∀ i userId accessToken, c.locals i = .signingOut userId accessToken .done →
        SignedOut jwt config c.store userId := by
  intro all
  let schedule : List (Bool × Time) :=
    [(true, 1000), (true, 1001), (false, 1002), (false, 1003), (false, 1004), (true, 1005),
      (true, 1006), (true, 1007), (true, 1008)]
  let successor := sampleJwt.sign "refresh" ⟨"user", .refresh, 1, 10⟩
  have signedOut := all Bool sampleJwt sampleConfig signInRedis refreshAndSignOut schedule
    sampleJwt_lawful (by decide +kernel) false "user" "access" (by decide +kernel)
  have expired := signedOut (.at 2000) successor ⟨⟨"user", .refresh, 1, 10⟩, false⟩
    (by decide +kernel) rfl
  cases expired

end CoupangEats
