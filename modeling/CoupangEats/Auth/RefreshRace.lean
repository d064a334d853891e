import CoupangEats.Auth.Token
import CoupangEats.Base.Interleave
import Mathlib.Data.Fintype.Basic

/-!
Concurrent refreshes with one token.

Each call reads the stored token and compares it in one step and stores its
successor in another, with the signing in between. Two calls that both compare
before either of them stores are both answered with a pair. A run in which no
call finds the token stored while another is on its way to replace it, and no
call signs in the second in which the token was issued, answers at most one of
them (`refreshes_once`), whatever the cache held at the start.
-/

namespace CoupangEats

open CoupangEats.Base

/-- How far a call has got: its token's claims verified, compared with the stored
token, the access token signed, both tokens signed, the refresh token stored. -/
inductive RefreshPhase where
  | ready
  | verified (userId : String)
  | compared (userId : String)
  | signedAccess (userId accessToken : String)
  | signed (userId : String) (pair : TokenPair)
  | stored (userId : String) (pair : TokenPair)
  | done (result : Except ApiError TokenPair)
  deriving DecidableEq

/-- The call has compared the token and not yet stored another. -/
def RefreshPhase.pending : RefreshPhase → Bool
  | .compared _ | .signedAccess .. | .signed .. => true
  | _ => false

/-- The comparison with the stored token has succeeded. -/
def RefreshPhase.passed : RefreshPhase → Bool
  | .ready | .verified _ | .done (.error _) => false
  | _ => true

section Threads

variable {ι : Type} (jwt : Jwt) (config : JwtConfig) (refreshToken : String)

/-- One step of a call of `refreshTokens`, between two of its waits. -/
def refreshStep : ThreadStep ι Time Redis RefreshPhase
  | _, now, redis, .ready =>
      match verifyToken jwt config.refreshSecret .refresh now refreshToken with
      | .error e => (redis, .done (.error e))
      | .ok decoded =>
          if decoded.expired then
            (redis, .done (.error (.unauthorized "Refresh token expired")))
          else (redis, .verified decoded.payload.sub)
  | _, now, redis, .verified userId =>
      if cacheGet redis now (refreshTokenKey userId) ≠ some (.str refreshToken) then
        (redis, .done (.error (.unauthorized "Invalid refresh token")))
      else (redis, .compared userId)
  | _, now, redis, .compared userId =>
      match generateAccessToken jwt config now userId with
      | .error e => (redis, .done (.error e))
      | .ok accessToken => (redis, .signedAccess userId accessToken)
  | _, now, redis, .signedAccess userId accessToken =>
      match generateRefreshToken jwt config now userId with
      | .error e => (redis, .done (.error e))
      | .ok refreshToken => (redis, .signed userId ⟨accessToken, refreshToken⟩)
  | _, _, redis, .signed userId pair =>
      (redis.set (refreshTokenKey userId) (.str pair.refreshToken), .stored userId pair)
  | _, now, redis, .stored userId pair =>
      match parseExpirationToSeconds config.refreshExpiration with
      | none => (redis, .done (.ok pair))
      | some ttl =>
          if ttl = 0 then (redis, .done (.ok pair))
          else (redis.expire now (refreshTokenKey userId) (ttl * 1000), .done (.ok pair))
  | _, _, redis, .done result => (redis, .done result)

/-- A call on its own is `refreshTokens`. -/
theorem refreshStep_alone (i : ι) (redis : Redis) (clock : Clock) :
    let step (now : Time) (s : Redis × RefreshPhase) :=
      refreshStep jwt config refreshToken i now s.1 s.2
    step clock.stored (step clock.stored (step clock.signedRefresh (step clock.signedAccess
      (step clock.read (step clock.verified (redis, .ready)))))) =
        ((refreshTokens jwt config redis clock refreshToken).2,
          .done (refreshTokens jwt config redis clock refreshToken).1) := by
  simp only [refreshTokens, verifyRefreshToken, generateTokenPair]
  cases verified : verifyToken jwt config.refreshSecret .refresh clock.verified refreshToken with
  | error e => simp only [refreshStep, verified]
  | ok decoded =>
      cases expired : decoded.expired with
      | true => simp only [refreshStep, verified, expired, if_true]
      | false =>
          by_cases found : cacheGet redis clock.read (refreshTokenKey decoded.payload.sub) =
              some (.str refreshToken)
          · simp only [refreshStep, verified, expired, Bool.false_eq_true, if_false, found, ne_eq,
              not_true_eq_false]
            cases generateAccessToken jwt config clock.signedAccess decoded.payload.sub with
            | error e => rfl
            | ok accessToken =>
                cases refresh :
                    generateRefreshToken jwt config clock.signedRefresh decoded.payload.sub with
                | error e => simp only [refresh]
                | ok successor =>
                    simp only [refresh, storeRefreshToken, cacheSet]
                    cases parseExpirationToSeconds config.refreshExpiration with
                    | none => rfl
                    | some ttl => by_cases zero : ttl = 0 <;> simp only [zero, if_true, if_false]
          · simp only [refreshStep, verified, expired, Bool.false_eq_true, if_false, found, ne_eq,
              not_false_eq_true, if_true]

/-- The start of a race: no call has done anything. -/
def refreshStart (redis : Redis) : Config ι Redis RefreshPhase := ⟨redis, fun _ => .ready⟩

/-- The interleavings of the calls. -/
abbrev refreshRace [DecidableEq ι] : Machine (Config ι Redis RefreshPhase) (ι × Time) Unit :=
  interleave (refreshStep jwt config refreshToken)

end Threads

/-- At most one call has returned a pair. -/
def AtMostOnePair {ι : Type} (c : Config ι Redis RefreshPhase) : Prop :=
  ∀ i j pair pair', c.locals i = .done (.ok pair) → c.locals j = .done (.ok pair') → i = j

/-- The condition on a step of a call: it does not find the token stored while
another call is on its way to replace it, and it does not sign the refresh token
in the second in which the presented one was issued. -/
def Spaced {ι : Type} (jwt : Jwt) (config : JwtConfig) (refreshToken : String)
    (c : Config ι Redis RefreshPhase) (i : ι) (now : Time) : Prop :=
  match c.locals i with
  | .verified userId =>
      cacheGet c.store now (refreshTokenKey userId) = some (.str refreshToken) →
        ∀ j, (c.locals j).pending = false
  | .signedAccess .. =>
      ∀ payload ∈ jwt.verify config.refreshSecret refreshToken, seconds now ≠ payload.iat
  | _ => True

section Race

variable {ι : Type} {jwt : Jwt} {config : JwtConfig} {refreshToken : String}

/-- The token verifies as one of the user's. -/
def Owned (jwt : Jwt) (config : JwtConfig) (refreshToken userId : String) : Prop :=
  ∃ payload, jwt.verify config.refreshSecret refreshToken = some payload ∧ payload.sub = userId

theorem Owned.unique {u v : String} (first : Owned jwt config refreshToken u)
    (second : Owned jwt config refreshToken v) : u = v := by
  obtain ⟨payload, verified, rfl⟩ := first
  obtain ⟨payload', verified', rfl⟩ := second
  cases verified.symm.trans verified'
  rfl

/-- The user's key is set to something else than the presented token. -/
def Replaced (redis : Redis) (userId refreshToken : String) : Prop :=
  ¬ redis.Holds (refreshTokenKey userId) (.str refreshToken)

/-- What is known about a call at each of its phases. -/
def RefreshPhase.Fits (jwt : Jwt) (config : JwtConfig) (refreshToken : String) (redis : Redis) :
    RefreshPhase → Prop
  | .ready | .done (.error _) => True
  | .verified userId | .compared userId | .signedAccess userId _ =>
      Owned jwt config refreshToken userId
  | .signed userId pair => Owned jwt config refreshToken userId ∧ pair.refreshToken ≠ refreshToken
  | .stored userId _ =>
      Owned jwt config refreshToken userId ∧ Replaced redis userId refreshToken
  | .done (.ok _) =>
      ∃ userId, Owned jwt config refreshToken userId ∧ Replaced redis userId refreshToken

/-- The invariant of the race: at most one call has passed the comparison, and
once it has stored its token the presented one is gone. -/
structure OneRefresher (jwt : Jwt) (config : JwtConfig) (refreshToken : String)
    (c : Config ι Redis RefreshPhase) : Prop where
  fits : ∀ i, (c.locals i).Fits jwt config refreshToken c.store
  one : ∀ i j, (c.locals i).passed = true → (c.locals j).passed = true → i = j

/-- The presented token is in the cache only until the first call that passed
the comparison stores another. -/
theorem RefreshPhase.Fits.pending {redis : Redis} {phase : RefreshPhase} {userId : String}
    (fits : phase.Fits jwt config refreshToken redis) (owned : Owned jwt config refreshToken userId)
    (holds : redis.Holds (refreshTokenKey userId) (.str refreshToken))
    (passed : phase.passed = true) : phase.pending = true := by
  cases phase with
  | stored owner pair =>
      cases owned.unique fits.1
      exact absurd holds fits.2
  | done result =>
      cases result with
      | error e => cases passed
      | ok pair =>
          obtain ⟨owner, owned', replaced⟩ := fits
          cases owned.unique owned'
          exact absurd holds replaced
  | ready | verified => cases passed
  | compared | signedAccess | signed => rfl

/-- A phase keeps fitting when the token does not come back. -/
theorem RefreshPhase.Fits.mono {redis redis' : Redis} {phase : RefreshPhase}
    (fits : phase.Fits jwt config refreshToken redis)
    (gone : ∀ userId, Owned jwt config refreshToken userId →
      Replaced redis userId refreshToken → Replaced redis' userId refreshToken) :
    phase.Fits jwt config refreshToken redis' := by
  cases phase with
  | stored owner pair => exact ⟨fits.1, gone owner fits.1 fits.2⟩
  | done result =>
      cases result with
      | error e => trivial
      | ok pair =>
          obtain ⟨owner, owned, replaced⟩ := fits
          exact ⟨owner, owned, gone owner owned replaced⟩
  | ready | verified | compared | signedAccess | signed => exact fits

/-- What one step of a call leaves: its next phase fits, the token does not come
back, and only a comparison that finds the token passes. -/
structure RefreshEffect (jwt : Jwt) (config : JwtConfig) (refreshToken : String) (now : Time)
    (redis : Redis) (phase : RefreshPhase) (next : Redis × RefreshPhase) : Prop where
  fits : next.2.Fits jwt config refreshToken next.1
  gone : ∀ userId, Owned jwt config refreshToken userId →
    Replaced redis userId refreshToken → Replaced next.1 userId refreshToken
  passed : next.2.passed = true → phase.passed = true ∨ ∃ userId, phase = .verified userId ∧
    cacheGet redis now (refreshTokenKey userId) = some (.str refreshToken)

theorem refreshStep_effect {i : ι} {now : Time} {redis : Redis} {phase : RefreshPhase}
    (lawful : jwt.Lawful) (fits : phase.Fits jwt config refreshToken redis)
    (later : ∀ userId accessToken, phase = .signedAccess userId accessToken →
      ∀ payload ∈ jwt.verify config.refreshSecret refreshToken, seconds now ≠ payload.iat) :
    RefreshEffect jwt config refreshToken now redis phase
      (refreshStep jwt config refreshToken i now redis phase) := by
  cases phase with
  | ready =>
      simp only [refreshStep]
      cases verified : verifyToken jwt config.refreshSecret .refresh now refreshToken with
      | error e => exact ⟨trivial, fun _ _ => id, nofun⟩
      | ok decoded =>
          cases expired : decoded.expired with
          | true =>
              simp only [expired, if_true]
              exact ⟨trivial, fun _ _ => id, nofun⟩
          | false =>
              simp only [expired, Bool.false_eq_true, if_false]
              exact ⟨⟨_, verifyToken_payload verified, rfl⟩, fun _ _ => id, nofun⟩
  | verified userId =>
      simp only [refreshStep]
      split
      · exact ⟨trivial, fun _ _ => id, nofun⟩
      · rename_i found
        exact ⟨fits, fun _ _ => id, fun _ => .inr ⟨userId, rfl, not_not.mp found⟩⟩
  | compared userId =>
      simp only [refreshStep]
      split
      · exact ⟨trivial, fun _ _ => id, fun _ => .inl rfl⟩
      · exact ⟨fits, fun _ _ => id, fun _ => .inl rfl⟩
  | signedAccess userId accessToken =>
      simp only [refreshStep]
      split
      · exact ⟨trivial, fun _ _ => id, fun _ => .inl rfl⟩
      · rename_i successor signed
        refine ⟨⟨fits, ?_⟩, fun _ _ => id, fun _ => .inl rfl⟩
        rintro rfl
        obtain ⟨exp, rfl⟩ := generateRefreshToken_eq_ok signed
        exact later userId accessToken rfl _ (lawful _ _) rfl
  | signed userId pair =>
      have gone : ∀ owner, Owned jwt config refreshToken owner →
          Replaced (redis.set (refreshTokenKey userId) (.str pair.refreshToken)) owner
            refreshToken := by
        intro owner owned holds
        cases owned.unique fits.1
        rw [Expiring.holds_set, if_pos rfl] at holds
        cases holds
        exact fits.2 rfl
      exact ⟨⟨fits.1, gone userId fits.1⟩, fun owner owned _ => gone owner owned, fun _ => .inl rfl⟩
  | stored userId pair =>
      simp only [refreshStep]
      split
      · exact ⟨⟨userId, fits⟩, fun _ _ => id, fun _ => .inl rfl⟩
      · split
        · exact ⟨⟨userId, fits⟩, fun _ _ => id, fun _ => .inl rfl⟩
        · exact ⟨⟨userId, fits.1, fun holds => fits.2 (Expiring.holds_of_expire holds)⟩,
            fun _ _ replaced holds => replaced (Expiring.holds_of_expire holds), fun _ => .inl rfl⟩
  | done result => exact ⟨fits, fun _ _ => id, .inl⟩

section Steps

variable [DecidableEq ι]

/-- A step of a call keeps the invariant. -/
theorem OneRefresher.step (lawful : jwt.Lawful)
    {e : Event (Config ι Redis RefreshPhase) (ι × Time) Unit}
    (step : (refreshRace jwt config refreshToken).step e.before e.input = (e.after, e.output))
    (spaced : Spaced jwt config refreshToken e.before e.input.1 e.input.2)
    (inv : OneRefresher jwt config refreshToken e.before) :
    OneRefresher jwt config refreshToken e.after := by
  obtain ⟨moved, others⟩ := interleave_step step
  obtain ⟨before, ⟨i, now⟩, _, after⟩ := e
  have effect : RefreshEffect jwt config refreshToken now before.store (before.locals i)
      (after.store, after.locals i) := by
    rw [← moved]
    refine refreshStep_effect lawful (inv.fits i) fun userId accessToken phase => ?_
    simpa only [Spaced, phase] using spaced
  have passed : ∀ j, (after.locals j).passed = true → (before.locals j).passed = true ∨
      j = i ∧ ∀ k, (before.locals k).passed = false := by
    intro j
    by_cases same : j = i
    · rw [same]
      intro here
      refine (effect.passed here).imp_right fun ⟨userId, phase, found⟩ => ⟨rfl, fun k => ?_⟩
      -- A call that had passed before would still be on its way to replace the token.
      have owned : Owned jwt config refreshToken userId := by
        simpa only [phase, RefreshPhase.Fits] using inv.fits i
      simp only [Spaced, phase] at spaced
      by_contra had
      rw [Bool.not_eq_false] at had
      have pending := (inv.fits k).pending owned (Expiring.holds_of_get found) had
      rw [spaced found k] at pending
      cases pending
    · rw [others j same]
      exact .inl
  constructor
  · apply forall_locals
      (P := fun _ phase => RefreshPhase.Fits jwt config refreshToken after.store phase) others
      effect.fits
    intro j _
    exact (inv.fits j).mono effect.gone
  · intro j k hj hk
    rcases passed j hj with oldj | ⟨rfl, none⟩
    · rcases passed k hk with oldk | ⟨-, none⟩
      · exact inv.one j k oldj oldk
      · rw [none j] at oldj
        cases oldj
    · rcases passed k hk with oldk | ⟨rfl, -⟩
      · rw [none k] at oldk
        cases oldk
      · rfl

/-- In a run whose steps are all spaced, however the calls interleave and
whatever the cache holds at first, at most one call returns a pair. -/
theorem refreshes_once {redis : Redis} {schedule : List (ι × Time)} (lawful : jwt.Lawful)
    (spaced : ∀ e ∈ (refreshRace jwt config refreshToken).history (refreshStart redis) schedule,
      Spaced jwt config refreshToken e.before e.input.1 e.input.2) :
    AtMostOnePair ((refreshRace jwt config refreshToken).run (refreshStart redis) schedule) := by
  have start : OneRefresher jwt config refreshToken (refreshStart (ι := ι) redis) :=
    ⟨fun _ => trivial, fun _ _ => nofun⟩
  have final := (Machine.history_invariant _ _
    (fun _ step spaced => OneRefresher.step lawful step spaced) start spaced).1
  intro i j pair pair' hi hj
  exact final.one i j (by rw [hi]; rfl) (by rw [hj]; rfl)

end Steps

end Race

/-! ### Two refreshes of a sign-in's token -/

instance {ι : Type} [Fintype ι] (jwt : Jwt) (config : JwtConfig) (refreshToken : String)
    (c : Config ι Redis RefreshPhase) (i : ι) (now : Time) :
    Decidable (Spaced jwt config refreshToken c i now) := by
  unfold Spaced
  split <;> infer_instance

/-- The refresh token of a sign-in at the start of the clock. -/
def signInToken : String := sampleJwt.sign "refresh" ⟨"user", .refresh, 0, 9⟩

/-- The cache after that sign-in. -/
def signInRedis : Redis := storeRefreshToken sampleConfig .empty 0 "user" signInToken

/-- The two calls verify the token together, and the second compares it after
the first has stored its successor. -/
theorem second_compares_after_first_stores :
    AtMostOnePair ((refreshRace sampleJwt sampleConfig signInToken).run (refreshStart signInRedis)
      [(true, 1000), (false, 1000), (true, 1001), (true, 1002), (true, 1003), (true, 1004),
        (false, 1005), (true, 1006)]) :=
  refreshes_once sampleJwt_lawful (by decide +kernel)

/-- Two calls that both compare before either stores both return a pair. -/
theorem both_compare_before_either_stores :
    ¬ ∀ (ι : Type) [DecidableEq ι] (jwt : Jwt) (config : JwtConfig) (refreshToken : String)
        (redis : Redis) (schedule : List (ι × Time)), jwt.Lawful →
      AtMostOnePair
        ((refreshRace jwt config refreshToken).run (refreshStart redis) schedule) := by
  intro all
  let schedule : List (Bool × Time) :=
    [(true, 1000), (false, 1000), (true, 1001), (false, 1001), (true, 1002), (true, 1003),
      (true, 1004), (true, 1005), (false, 1002), (false, 1003), (false, 1004), (false, 1005)]
  let pair : TokenPair := ⟨sampleJwt.sign "access" ⟨"user", .access, 1, 10⟩,
    sampleJwt.sign "refresh" ⟨"user", .refresh, 1, 10⟩⟩
  have once := all Bool sampleJwt sampleConfig signInToken signInRedis schedule sampleJwt_lawful
  exact absurd (once true false pair pair (by decide +kernel) (by decide +kernel)) (by decide)

end CoupangEats
