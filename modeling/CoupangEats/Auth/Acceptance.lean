import CoupangEats.Auth.Header
import CoupangEats.Auth.Rotation

/-!
Which refresh tokens are accepted.

`POST /auth/refresh` passes the strategy, which verifies the token of the cookie
(`refreshTokenGuard`), and then the token service, which verifies it again and
compares it with the stored token of its subject. Whatever a user's key holds was
issued to the user, and nothing that has happened to the user since is an issue
or a sign-out (`mostRecent_of_holds`); so a token that is accepted is the one
issued last. Refresh tokens do not pass as access tokens, whatever the two
secrets are: what a token claims does not depend on the secret (`Transparent`).
-/

namespace CoupangEats

open CoupangEats.Base

section Route

variable (jwt : Jwt) (config : JwtConfig)

/-- `RefreshTokenGuard` with the refresh token strategy. What `validate` throws
reaches the guard as an error, which it answers like a missing user; of the
errors of the library only the expiry is told apart. -/
def refreshTokenGuard (now : Time) (cookie : Option String) : Except ApiError String :=
  match cookie with
  | none => .error (.unauthorized "No auth token")
  | some token =>
      if token = "" then .error (.unauthorized "No auth token")
      else
        match jwt.verify config.refreshSecret token with
        | none => .error (.unauthorized "JsonWebTokenError")
        | some payload =>
            if payload.exp ≤ seconds now then .error (.unauthorized "jwt expired")
            else if payload.type ≠ .refresh then .error (.unauthorized "invalid token")
            else .ok token

/-- `AuthController.refresh` behind its guard, which looks at the cookie at the
time `guarded`. -/
def refresh (redis : Redis) (guarded : Time) (clock : Clock) (cookie : Option String) :
    Except ApiError TokenPair × Redis :=
  match refreshTokenGuard jwt config guarded cookie with
  | .error e => (.error e, redis)
  | .ok token => refreshTokens jwt config redis clock token

/-- What a token claims does not depend on the secret that it verifies with. -/
def Jwt.Transparent : Prop :=
  ∀ secret secret' token payload payload', jwt.verify secret token = some payload →
    jwt.verify secret' token = some payload' → payload = payload'

/-- The event issues the refresh token to the user. -/
def IssuedTo (e : TokenEvent) (userId token : String) : Prop :=
  ∃ pair payload, e.output = .ok (some pair) ∧ pair.refreshToken = token ∧
    jwt.verify config.refreshSecret token = some payload ∧ payload.type = .refresh ∧
    payload.sub = userId

/-- The event leaves the refresh token of the user alone: it issues none to the
user, and it is not the user's sign-out. -/
def LeavesAlone (e : TokenEvent) (userId : String) : Prop :=
  (∀ token, ¬ IssuedTo jwt config e userId token) ∧
    ∀ accessToken now, e.input ≠ .signOut userId accessToken now

/-- The token is the one that was issued to the user last, and the user has not
signed out since. -/
def MostRecent (past : List TokenEvent) (userId token : String) : Prop :=
  ∃ first e later, past = first ++ e :: later ∧ IssuedTo jwt config e userId token ∧
    ∀ f ∈ later, LeavesAlone jwt config f userId

/-- What the token of a request fulfils that is answered with the pair. -/
structure Renewal (past : List TokenEvent) (guarded : Time) (clock : Clock) (token : String)
    (payload : JwtPayload) (pair : TokenPair) : Prop where
  verified : jwt.verify config.refreshSecret token = some payload
  type : payload.type = .refresh
  guarded : seconds guarded < payload.exp
  unexpired : seconds clock.verified < payload.exp
  mostRecent : MostRecent jwt config past payload.sub token
  access : ∃ claims, jwt.verify config.accessSecret pair.accessToken = some claims ∧
    claims.type = .access ∧ claims.sub = payload.sub
  refresh : ∃ claims, jwt.verify config.refreshSecret pair.refreshToken = some claims ∧
    claims.type = .refresh ∧ claims.sub = payload.sub

end Route

section Acceptance

variable {jwt : Jwt} {config : JwtConfig} {db : Db} {compare : String → String → Bool}
  {past : List TokenEvent} {e : TokenEvent} {userId token : String}

/-! ### What a user's key holds -/

theorem MostRecent.append (recent : MostRecent jwt config past userId token)
    (alone : LeavesAlone jwt config e userId) :
    MostRecent jwt config (past ++ [e]) userId token := by
  obtain ⟨first, f, later, rfl, issued, quiet⟩ := recent
  refine ⟨first, f, later ++ [e], by simp, issued, ?_⟩
  intro g mem
  rcases List.mem_append.mp mem with old | new
  · exact quiet g old
  · rw [List.mem_singleton.mp new]
    exact alone

/-- The refresh token of a new pair belongs to the pair's owner. -/
theorem issuedTo_of_generated {redis after : Redis} {clock : Clock} {owner : String}
    {pair : TokenPair} (lawful : jwt.Lawful)
    (generated : Generated jwt config redis clock owner pair after)
    (output : e.output = .ok (some pair)) :
    IssuedTo jwt config e userId token ↔ userId = owner ∧ token = pair.refreshToken := by
  obtain ⟨claims, verified, type, sub⟩ := generated.refresh_claims lawful
  constructor
  · rintro ⟨pair', payload, answered, rfl, verified', -, rfl⟩
    rw [output, Except.ok.injEq, Option.some.injEq] at answered
    subst answered
    rw [verified, Option.some.injEq] at verified'
    rw [← verified']
    exact ⟨sub, rfl⟩
  · rintro ⟨rfl, rfl⟩
    exact ⟨pair, claims, output, rfl, verified, type, sub⟩

/-- A step keeps what the users' keys hold the tokens issued last. -/
theorem mostRecent_step (lawful : jwt.Lawful)
    (step : (tokenMachine jwt config db compare).step e.before e.input = (e.after, e.output))
    (recent : ∀ userId token, HoldsToken e.before userId token →
      MostRecent jwt config past userId token)
    (holds : HoldsToken e.after userId token) :
    MostRecent jwt config (past ++ [e]) userId token := by
  obtain ⟨before, input, output, after⟩ := e
  have outcome : CallOutcome jwt config before input after output := outcome_of_step step
  cases outcome with
  | @issued _ _ owner pair _ signed _ generated =>
      have issues {userId token : String} :
          IssuedTo jwt config ⟨before, input, .ok (some pair), after⟩ userId token ↔
            userId = owner ∧ token = pair.refreshToken :=
        issuedTo_of_generated lawful generated rfl
      rw [generated.stored] at holds
      rcases holds_of_cacheSet holds with ⟨same, value⟩ | ⟨other, old⟩
      · cases value
        exact ⟨past, _, [], rfl, issues.mpr ⟨refreshTokenKey_inj same, rfl⟩, by simp⟩
      · apply (recent userId token old).append
        constructor
        · intro token' issued
          exact other (congrArg refreshTokenKey (issues.mp issued).1)
        · rintro accessToken now rfl
          cases signed
  | signedOut owner accessToken now =>
      rcases holds_of_cacheSet holds with ⟨-, value⟩ | ⟨-, old⟩
      · cases value
      · apply (recent userId token (Expiring.holds_of_del old)).append
        constructor
        · rintro token' ⟨pair, payload, answered, -⟩
          cases answered
        · rintro accessToken' now' ⟨⟩
          exact Expiring.not_holds_del old
  | refused call e =>
      apply (recent userId token holds).append
      constructor
      · rintro token' ⟨pair, payload, answered, -⟩
        cases answered
      · rintro accessToken now rfl
        simp [tokenMachine] at step

/-- What a run from an empty cache leaves at a user's key is the token that it
issued to the user last. -/
theorem mostRecent_of_run {calls : List TokenCall} (lawful : jwt.Lawful)
    (holds : HoldsToken ((tokenMachine jwt config db compare).run .empty calls) userId token) :
    MostRecent jwt config ((tokenMachine jwt config db compare).history .empty calls) userId
      token := by
  have permitted : ∀ e ∈ (tokenMachine jwt config db compare).history .empty calls, True :=
    fun _ _ => trivial
  obtain ⟨final, -⟩ := Machine.history_past
    (fun past redis => ∀ userId token, HoldsToken redis userId token →
      MostRecent jwt config past userId token) (fun _ => True)
    (fun past e step _ recent _ _ => mostRecent_step lawful step recent)
    (fun _ _ initial => absurd initial (Expiring.not_holds_empty _ _)) permitted
  exact final userId token holds

/-! ### The two guards -/

/-- The token of a request that passes the guard is a valid refresh token. -/
theorem refreshTokenGuard_eq_ok {now : Time} {cookie : Option String}
    (passed : refreshTokenGuard jwt config now cookie = .ok token) :
    cookie = some token ∧ ∃ payload, jwt.verify config.refreshSecret token = some payload ∧
      seconds now < payload.exp := by
  unfold refreshTokenGuard at passed
  split at passed
  · cases passed
  · split_ifs at passed
    split at passed
    · cases passed
    · rename_i payload verified
      split_ifs at passed with expired type
      cases passed
      exact ⟨rfl, payload, verified, Int.not_le.mp expired⟩

/-- A refresh token does not pass as an access token. -/
theorem refresh_token_refused (transparent : jwt.Transparent) {payload : JwtPayload}
    (verified : jwt.verify config.refreshSecret token = some payload)
    (type : payload.type = .refresh) (now : Time) {authHeader : Option String}
    (bearer : bearerToken authHeader = some token) :
    ∃ e, accessTokenGuard false jwt config db now authHeader = .error e := by
  cases accepted : accessTokenGuard false jwt config db now authHeader with
  | error e => exact ⟨e, rfl⟩
  | ok user =>
      obtain ⟨token', read, payload', verified', -, access⟩ := accessTokenGuard_eq_ok accepted
      rw [bearer, Option.some.injEq] at read
      subst read
      rw [← transparent _ _ _ _ _ verified verified', type] at access
      cases access

/-- The refresh route issues a pair only for the unexpired refresh token that was
issued to its subject last, with no sign-out since, and the pair is the
subject's; no refresh token is accepted as an access token. -/
theorem refresh_accepts_latest {calls : List TokenCall} (lawful : jwt.Lawful)
    (transparent : jwt.Transparent) :
    (∀ guarded clock cookie pair after,
      refresh jwt config ((tokenMachine jwt config db compare).run .empty calls) guarded clock
        cookie = (.ok pair, after) →
      ∃ token payload, cookie = some token ∧
        Renewal jwt config ((tokenMachine jwt config db compare).history .empty calls) guarded
          clock token payload pair) ∧
      ∀ token payload, jwt.verify config.refreshSecret token = some payload →
        payload.type = .refresh → ∀ db now authHeader, bearerToken authHeader = some token →
        ∃ e, accessTokenGuard false jwt config db now authHeader = .error e := by
  constructor
  · intro guarded clock cookie pair after answered
    unfold refresh at answered
    split at answered
    · cases answered
    · rename_i token passed
      obtain ⟨presented, payload, verified, fresh⟩ := refreshTokenGuard_eq_ok passed
      obtain ⟨payload', accepts, generated⟩ := refreshTokens_eq_ok answered
      cases verified.symm.trans accepts.verified
      refine ⟨token, payload, presented, ?_⟩
      exact
        { verified := verified
          type := accepts.type
          guarded := fresh
          unexpired := accepts.unexpired
          mostRecent := mostRecent_of_run lawful (Expiring.holds_of_get accepts.stored)
          access := generated.access_claims lawful
          refresh := generated.refresh_claims lawful }
  · intro token payload verified type db now authHeader bearer
    exact refresh_token_refused transparent verified type now bearer

end Acceptance

/-! ### A token library that shows its claims -/

/-- Tokens that carry the length of the claims, the claims and the secret. -/
def openJwt : Jwt where
  sign secret payload :=
    let claims := encodeToken "" payload
    String.ofList (encodeInt claims.length ++ '.' :: (claims ++ secret.toList))
  verify secret token :=
    let length := (token.toList.takeWhile isSign).length
    let rest := (token.toList.dropWhile isSign).tail
    if rest.drop length = secret.toList then decodeToken "" (rest.take length) else none
  lifetime := parseExpirationToSeconds

theorem openJwt_lawful : openJwt.Lawful := by
  intro secret payload
  have claims : decodeToken "" (encodeToken "" payload) = some payload := by
    simpa [sampleJwt] using sampleJwt_lawful "" payload
  simp only [openJwt, String.toList_ofList, takeWhile_encodeInt, dropWhile_encodeInt,
    List.tail_cons]
  rw [show (encodeInt (encodeToken "" payload).length).length = (encodeToken "" payload).length
    from List.length_replicate, List.drop_left, List.take_left, if_pos rfl, claims]

theorem openJwt_transparent : openJwt.Transparent := by
  intro secret secret' token payload payload' verified verified'
  simp only [openJwt] at verified verified'
  split_ifs at verified verified'
  rw [verified, Option.some.injEq] at verified'
  exact verified'

/-- A second behind the sign-in its refresh token is accepted, with one secret
for both kinds of tokens. -/
theorem refreshed_with_one_secret :
    let config : JwtConfig := ⟨"secret", "secret", "9s", "9s"⟩
    let m := tokenMachine openJwt config oneUserStore fun _ _ => true
    let calls : List TokenCall := [.signIn "u@x.kr" "pw" (.at 0)]
    ∃ payload pair, Renewal openJwt config (m.history .empty calls) 1000 (.at 1000)
      (openJwt.sign "secret" ⟨"user", .refresh, 0, 9⟩) payload pair := by
  intro config m calls
  let token := openJwt.sign "secret" ⟨"user", .refresh, 0, 9⟩
  let pair : TokenPair := ⟨openJwt.sign "secret" ⟨"user", .access, 1, 10⟩,
    openJwt.sign "secret" ⟨"user", .refresh, 1, 10⟩⟩
  obtain ⟨renewals, -⟩ := @refresh_accepts_latest openJwt config oneUserStore (fun _ _ => true)
    calls openJwt_lawful openJwt_transparent
  have answered : (refresh openJwt config (m.run .empty calls) 1000 (.at 1000) (some token)).1 =
      .ok pair := by
    decide +kernel
  cases out : refresh openJwt config (m.run .empty calls) 1000 (.at 1000) (some token) with
  | mk answer after =>
      rw [out] at answered
      subst answered
      obtain ⟨token', payload, same, renewal⟩ := renewals _ _ _ _ _ out
      rw [← Option.some.inj same] at renewal
      exact ⟨payload, pair, renewal⟩

end CoupangEats
