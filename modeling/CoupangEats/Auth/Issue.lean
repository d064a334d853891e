import CoupangEats.Auth.Token
import CoupangEats.Base.Machine

/-!
What the token calls do.

`tokenMachine` answers sign-ins, refreshes and sign-outs one after another. A
call issues a pair of tokens to one user and stores the refresh token, or signs a
user out, or is refused and changes nothing (`CallOutcome`, `outcome_of_step`). What
the next modules say of runs of token calls they say by these three cases.
-/

namespace CoupangEats

open CoupangEats.Base

/-- A call of the authentication service. -/
inductive TokenCall where
  | signIn (email password : String) (clock : Clock)
  | refreshTokens (refreshToken : String) (clock : Clock)
  | signOut (userId accessToken : String) (now : Time)

/-- When a call signs its refresh token. -/
def TokenCall.signed : TokenCall → Option Time
  | .signIn _ _ clock => some clock.signedRefresh
  | .refreshTokens _ clock => some clock.signedRefresh
  | .signOut .. => none

/-- The instants of a call. -/
def Clock.instants (clock : Clock) : List Time :=
  [clock.verified, clock.read, clock.signedAccess, clock.signedRefresh, clock.stored]

def TokenCall.instants : TokenCall → List Time
  | .signIn _ _ clock => [clock.signedAccess, clock.signedRefresh, clock.stored]
  | .refreshTokens _ clock => clock.instants
  | .signOut _ _ now => [now]

section Machine

variable (jwt : Jwt) (config : JwtConfig) (db : Db) (compare : String → String → Bool)

/-- `AuthService.validateUser`; `compare` is the hash service's comparison of a
password with a stored hash. -/
def validateUser (email password : String) : Option UserRow :=
  (db.users.rows.find? fun user => user.deletedAt.isNone && user.email = email).filter
    fun user => compare password user.password

def signIn (redis : Redis) (email password : String) (clock : Clock) :
    Except ApiError TokenPair × Redis :=
  match validateUser db compare email password with
  | none => (.error (.unauthorized "Invalid credentials"), redis)
  | some user =>
      if user.verified then generateTokenPair jwt config redis clock user.id
      else (.error (.unauthorized "이메일 인증을 완료해주세요."), redis)

/-- The token calls as a machine on the cache; a sign-out has no tokens to
return. -/
def tokenMachine : Machine Redis TokenCall (Except ApiError (Option TokenPair)) where
  step redis
    | .signIn email password clock =>
        let out := signIn jwt config db compare redis email password clock
        (out.2, out.1.map some)
    | .refreshTokens refreshToken clock =>
        let out := refreshTokens jwt config redis clock refreshToken
        (out.2, out.1.map some)
    | .signOut userId accessToken now =>
        (revokeAllUserTokens config redis now userId accessToken, .ok none)

end Machine

/-- The event of a token call. -/
abbrev TokenEvent := Event Redis TokenCall (Except ApiError (Option TokenPair))

section Pair

variable {jwt : Jwt} {config : JwtConfig} {redis after : Redis} {clock : Clock} {owner : String}
  {pair : TokenPair}

/-- The pair that a call has generated for a user, and what it leaves. -/
structure Generated (jwt : Jwt) (config : JwtConfig) (redis : Redis) (clock : Clock)
    (owner : String) (pair : TokenPair) (after : Redis) : Prop where
  access : ∃ lifetime, jwt.lifetime config.accessExpiration = some lifetime ∧
    pair.accessToken = jwt.sign config.accessSecret
      ⟨owner, .access, seconds clock.signedAccess, seconds clock.signedAccess + lifetime⟩
  refresh : ∃ lifetime, jwt.lifetime config.refreshExpiration = some lifetime ∧
    pair.refreshToken = jwt.sign config.refreshSecret
      ⟨owner, .refresh, seconds clock.signedRefresh, seconds clock.signedRefresh + lifetime⟩
  stored : after = storeRefreshToken config redis clock.stored owner pair.refreshToken

theorem generateTokenPair_eq_ok :
    generateTokenPair jwt config redis clock owner = (.ok pair, after) ↔
      Generated jwt config redis clock owner pair after := by
  unfold generateTokenPair generateAccessToken generateRefreshToken
  constructor
  · intro generated
    cases access : jwt.lifetime config.accessExpiration with
    | none => simp [access] at generated
    | some lifetime =>
        cases refresh : jwt.lifetime config.refreshExpiration with
        | none => simp [access, refresh] at generated
        | some lifetime' =>
            simp only [access, refresh, Prod.mk.injEq, Except.ok.injEq] at generated
            obtain ⟨rfl, rfl⟩ := generated
            exact ⟨⟨_, access, rfl⟩, ⟨_, refresh, rfl⟩, rfl⟩
  · rintro ⟨⟨lifetime, access, signed⟩, ⟨lifetime', refresh, signed'⟩, rfl⟩
    obtain ⟨accessToken, refreshToken⟩ := pair
    simp only at signed signed'
    subst signed signed'
    simp only [access, refresh]

/-- The tokens of a new pair are of their kinds, and their owner's. -/
theorem Generated.access_claims (generated : Generated jwt config redis clock owner pair after)
    (lawful : jwt.Lawful) :
    ∃ claims, jwt.verify config.accessSecret pair.accessToken = some claims ∧
      claims.type = .access ∧ claims.sub = owner := by
  obtain ⟨lifetime, -, signed⟩ := generated.access
  rw [signed]
  exact ⟨_, lawful _ _, rfl, rfl⟩

theorem Generated.refresh_claims (generated : Generated jwt config redis clock owner pair after)
    (lawful : jwt.Lawful) :
    ∃ claims, jwt.verify config.refreshSecret pair.refreshToken = some claims ∧
      claims.type = .refresh ∧ claims.sub = owner := by
  obtain ⟨lifetime, -, signed⟩ := generated.refresh
  rw [signed]
  exact ⟨_, lawful _ _, rfl, rfl⟩

/-- A pair is generated and its refresh token stored, or nothing happens. -/
theorem generateTokenPair_cases (jwt : Jwt) (config : JwtConfig) (redis : Redis) (clock : Clock)
    (owner : String) :
    (∃ e, generateTokenPair jwt config redis clock owner = (.error e, redis)) ∨
      ∃ pair after, generateTokenPair jwt config redis clock owner = (.ok pair, after) ∧
        Generated jwt config redis clock owner pair after := by
  cases out : generateTokenPair jwt config redis clock owner with
  | mk answer after =>
      cases answer with
      | ok pair => exact .inr ⟨pair, after, rfl, generateTokenPair_eq_ok.mp out⟩
      | error e =>
          left
          unfold generateTokenPair at out
          split at out
          · cases out
            exact ⟨e, rfl⟩
          · cases out
            exact ⟨e, rfl⟩
          · cases out

theorem signIn_cases (jwt : Jwt) (config : JwtConfig) (db : Db)
    (compare : String → String → Bool) (redis : Redis) (email password : String) (clock : Clock) :
    (∃ e, signIn jwt config db compare redis email password clock = (.error e, redis)) ∨
      ∃ owner, signIn jwt config db compare redis email password clock =
        generateTokenPair jwt config redis clock owner := by
  unfold signIn
  split
  · exact .inl ⟨_, rfl⟩
  · split
    · exact .inr ⟨_, rfl⟩
    · exact .inl ⟨_, rfl⟩

/-- What a refresh has found when it generates a pair. -/
structure Accepts (jwt : Jwt) (config : JwtConfig) (redis : Redis) (clock : Clock)
    (refreshToken : String) (payload : JwtPayload) : Prop where
  verified : jwt.verify config.refreshSecret refreshToken = some payload
  unexpired : seconds clock.verified < payload.exp
  type : payload.type = .refresh
  stored : cacheGet redis clock.read (refreshTokenKey payload.sub) = some (.str refreshToken)

/-- A refresh is refused, unless it accepts its token. -/
theorem refreshTokens_cases (jwt : Jwt) (config : JwtConfig) (redis : Redis) (clock : Clock)
    (refreshToken : String) :
    (∃ e, refreshTokens jwt config redis clock refreshToken = (.error e, redis)) ∨
      ∃ payload, Accepts jwt config redis clock refreshToken payload ∧
        refreshTokens jwt config redis clock refreshToken =
          generateTokenPair jwt config redis clock payload.sub := by
  unfold refreshTokens verifyRefreshToken verifyToken
  cases verified : jwt.verify config.refreshSecret refreshToken with
  | none => exact .inl ⟨_, rfl⟩
  | some payload =>
      by_cases expired : payload.exp ≤ seconds clock.verified
      · simp [expired]
      · by_cases type : payload.type = .refresh
        · by_cases stored : cacheGet redis clock.read (refreshTokenKey payload.sub) =
              some (.str refreshToken)
          · right
            refine ⟨payload, ⟨verified, Int.not_le.mp expired, type, stored⟩, ?_⟩
            simp [expired, type, stored]
          · simp [expired, type, stored]
        · simp [expired, type]

/-- A token that passes the checks is refreshed. -/
theorem refreshTokens_of_accepts {refreshToken : String} {payload : JwtPayload}
    (accepts : Accepts jwt config redis clock refreshToken payload) :
    refreshTokens jwt config redis clock refreshToken =
      generateTokenPair jwt config redis clock payload.sub := by
  simp [refreshTokens, verifyRefreshToken, verifyToken, accepts.verified, accepts.type,
    accepts.stored, Int.not_le.mpr accepts.unexpired]

/-- What a refresh that returns a pair has found and done. -/
theorem refreshTokens_eq_ok {refreshToken : String}
    (refreshed : refreshTokens jwt config redis clock refreshToken = (.ok pair, after)) :
    ∃ payload, Accepts jwt config redis clock refreshToken payload ∧
      Generated jwt config redis clock payload.sub pair after := by
  rcases refreshTokens_cases jwt config redis clock refreshToken with
    ⟨e, refused⟩ | ⟨payload, accepts, same⟩
  · rw [refused] at refreshed
    cases refreshed
  · exact ⟨payload, accepts, generateTokenPair_eq_ok.mp (same ▸ refreshed)⟩

/-- What a call does: it issues a pair to one user, it signs a user out, or it is
refused. -/
inductive CallOutcome (jwt : Jwt) (config : JwtConfig) (redis : Redis) :
    TokenCall → Redis → Except ApiError (Option TokenPair) → Prop where
  | issued {call : TokenCall} {clock : Clock} {owner : String} {pair : TokenPair} {after : Redis}
      (signed : call.signed = some clock.signedRefresh)
      (instant : clock.signedAccess ∈ call.instants)
      (generated : Generated jwt config redis clock owner pair after) :
      CallOutcome jwt config redis call after (.ok (some pair))
  | signedOut (userId accessToken : String) (now : Time) :
      CallOutcome jwt config redis (.signOut userId accessToken now)
        (revokeAllUserTokens config redis now userId accessToken) (.ok none)
  | refused (call : TokenCall) (e : ApiError) :
      CallOutcome jwt config redis call redis (.error e)

theorem outcome_of_step {db : Db} {compare : String → String → Bool} {call : TokenCall}
    {output : Except ApiError (Option TokenPair)}
    (step : (tokenMachine jwt config db compare).step redis call = (after, output)) :
    CallOutcome jwt config redis call after output := by
  cases call with
  | signIn email password clock =>
      simp only [tokenMachine, Prod.mk.injEq] at step
      obtain ⟨rfl, rfl⟩ := step
      rcases signIn_cases jwt config db compare redis email password clock with
        ⟨e, refused⟩ | ⟨owner, same⟩
      · rw [refused]
        exact .refused _ e
      · rcases generateTokenPair_cases jwt config redis clock owner with
          ⟨e, refused⟩ | ⟨pair, after, ok, generated⟩
        · rw [same, refused]
          exact .refused _ e
        · rw [same, ok]
          exact .issued rfl (by simp [TokenCall.instants]) generated
  | refreshTokens token clock =>
      simp only [tokenMachine, Prod.mk.injEq] at step
      obtain ⟨rfl, rfl⟩ := step
      rcases refreshTokens_cases jwt config redis clock token with
        ⟨e, refused⟩ | ⟨payload, -, same⟩
      · rw [refused]
        exact .refused _ e
      · rcases generateTokenPair_cases jwt config redis clock payload.sub with
          ⟨e, refused⟩ | ⟨pair, after, ok, generated⟩
        · rw [same, refused]
          exact .refused _ e
        · rw [same, ok]
          exact .issued rfl (by simp [TokenCall.instants, Clock.instants]) generated
  | signOut userId token now =>
      simp only [tokenMachine, Prod.mk.injEq] at step
      obtain ⟨rfl, rfl⟩ := step
      exact .signedOut userId token now

end Pair

end CoupangEats
