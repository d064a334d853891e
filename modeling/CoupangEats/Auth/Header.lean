import CoupangEats.Auth.Token

/-!
The two readings of the `Authorization` header.

`JwtBlacklistGuard` takes `Bearer ` out of the header and looks the rest up in
the blacklist; the access token strategy reads the second word of the header
when the first one is `bearer` in whatever case. A request is checked for the
token it is authenticated with exactly when its header is `Bearer `, followed by
a token without whitespace, or carries no bearer token at all
(`guarded_iff`).
-/

namespace CoupangEats

open CoupangEats.Base

/-! ### The guards -/

/-- The token that `JwtBlacklistGuard` looks up. -/
def guardToken (authHeader : Option String) : Option String :=
  authHeader.map fun header => String.ofList (removeFirst "Bearer ".toList header.toList)

/-- `ExtractJwt.fromAuthHeaderAsBearerToken()`. -/
def bearerToken (authHeader : Option String) : Option String :=
  match authHeader.bind fun header => twoWords header.toList with
  | none => none
  | some (scheme, value) =>
      if scheme.map Char.toLower = "bearer".toList then some (String.ofList value) else none

/-- `JwtBlacklistGuard.canActivate`. -/
def jwtBlacklistGuard (isPublic : Bool) (redis : Redis) (now : Time) (authHeader : Option String) :
    Except ApiError Unit :=
  if isPublic then .ok ()
  else
    match guardToken authHeader with
    | none => .error (.unauthorized "Token not found")
    | some token =>
        if token = "" then .error (.unauthorized "Token not found")
        else if isTokenBlacklisted redis now token then
          .error (.unauthorized "Token has been revoked")
        else .ok ()

/-- `AccessTokenGuard` with the access token strategy; a public route has no
user. -/
def accessTokenGuard (isPublic : Bool) (jwt : Jwt) (config : JwtConfig) (db : Db) (now : Time)
    (authHeader : Option String) : Except ApiError (Option UserRow) :=
  if isPublic then .ok none
  else
    match bearerToken authHeader with
    | none => .error (.unauthorized "invalid token")
    | some token =>
        match jwt.verify config.accessSecret token with
        | none => .error (.unauthorized "invalid token")
        | some payload =>
            if payload.exp ≤ seconds now then .error (.unauthorized "invalid token")
            else if payload.type ≠ .access then .error (.unauthorized "Invalid token type")
            else
              match db.user? payload.sub with
              | none => .error (.unauthorized "User not found")
              | some user => .ok (some user)

/-- Both guards, in their order. -/
def authorize (isPublic : Bool) (jwt : Jwt) (config : JwtConfig) (db : Db) (redis : Redis)
    (now : Time) (authHeader : Option String) : Except ApiError (Option UserRow) :=
  match jwtBlacklistGuard isPublic redis now authHeader with
  | .error e => .error e
  | .ok () => accessTokenGuard isPublic jwt config db now authHeader

/-- On every non-public route, a request with this header that is admitted was
checked for the token it is authenticated with; with a blacklisted token it is
refused. -/
structure Guarded (authHeader : Option String) : Prop where
  checked : ∀ jwt config db redis now user, jwt.Lawful →
    authorize false jwt config db redis now authHeader = .ok user →
    ∃ token, bearerToken authHeader = some token ∧ guardToken authHeader = some token
  revoked : ∀ jwt config db redis now token, jwt.Lawful →
    bearerToken authHeader = some token → isTokenBlacklisted redis now token = true →
    ∃ e, authorize false jwt config db redis now authHeader = .error e

/-! ### The header in the middle -/

theorem isWord_bearer : ∀ c ∈ "Bearer".toList, isWord c = true :=
  List.all_eq_true.mp (by decide)

/-- What the strategy has read when it finds a token. -/
theorem bearerToken_eq_some {header token : String}
    (bearer : bearerToken (some header) = some token) :
    ∃ scheme value, twoWords header.toList = some (scheme, value) ∧
      scheme.length = "Bearer".toList.length ∧ token = String.ofList value := by
  unfold bearerToken at bearer
  split at bearer
  · cases bearer
  · rename_i scheme value words
    split_ifs at bearer with named
    cases bearer
    have length := congrArg List.length named
    rw [List.length_map] at length
    exact ⟨scheme, value, words, length, rfl⟩

/-- Where the strategy finds a token, the guard finds one too. -/
theorem guardToken_ne_empty {header token : String}
    (bearer : bearerToken (some header) = some token) :
    guardToken (some header) ≠ some "" := by
  obtain ⟨scheme, value, words, -, -⟩ := bearerToken_eq_some bearer
  intro empty
  have removed : removeFirst "Bearer ".toList header.toList = [] := by
    simpa [guardToken] using empty
  rcases removeFirst_cases "Bearer ".toList header.toList with kept | ⟨a, b, split, taken⟩
  · rw [← kept, removed] at words
    cases words
  · rw [removed, eq_comm, List.append_eq_nil_iff] at taken
    rw [split, taken.1, taken.2] at words
    cases words

/-- The two readings agree on a token exactly for the plain spelling. -/
theorem guardToken_eq_bearerToken {header token : String}
    (bearer : bearerToken (some header) = some token) :
    guardToken (some header) = some token ↔ header = "Bearer " ++ token := by
  obtain ⟨scheme, value, words, length, rfl⟩ := bearerToken_eq_some bearer
  have reads := removeFirst_word isWord_bearer (by decide : isSpace ' ' = true) words length
  have plain : header = "Bearer " ++ String.ofList value ↔
      header.toList = "Bearer".toList ++ ' ' :: value := by
    rw [← String.toList_inj, String.toList_append, String.toList_ofList]
    simp
  rw [plain, ← reads, guardToken, Option.map_some, Option.some.injEq, String.ofList_inj]
  simp

/-- The plain spelling of a token is read by both. -/
theorem bearerToken_plain {token : String} (nonempty : token ≠ "")
    (word : ∀ c ∈ token.toList, isWord c = true) :
    bearerToken (some ("Bearer " ++ token)) = some token := by
  have words := twoWords_append isWord_bearer (by decide) (by decide : isSpace ' ' = true) word
    (by simpa using nonempty)
  have text : ("Bearer " ++ token).toList = "Bearer".toList ++ ' ' :: token.toList := by
    simp
  simp only [bearerToken, Option.bind_some, text, words]
  rw [if_pos (by decide), String.ofList_toList]

/-! ### The guards on a header -/

section Admit

variable {jwt : Jwt} {config : JwtConfig} {db : Db} {redis : Redis} {now : Time}
  {authHeader : Option String}

/-- Whom the access token strategy accepts has a valid access token. -/
theorem accessTokenGuard_eq_ok {user : Option UserRow}
    (accepted : accessTokenGuard false jwt config db now authHeader = .ok user) :
    ∃ token, bearerToken authHeader = some token ∧
      ∃ payload, jwt.verify config.accessSecret token = some payload ∧
        seconds now < payload.exp ∧ payload.type = .access := by
  simp only [accessTokenGuard, Bool.false_eq_true, if_false] at accepted
  split at accepted
  · cases accepted
  · rename_i token found
    split at accepted
    · cases accepted
    · rename_i payload verified
      split_ifs at accepted with expired type
      exact ⟨token, found, payload, verified, Int.not_le.mp expired, not_not.mp type⟩

/-- What an admitted request on a non-public route has passed. -/
theorem authorize_eq_ok {user : Option UserRow}
    (admitted : authorize false jwt config db redis now authHeader = .ok user) :
    (∃ token, guardToken authHeader = some token ∧ token ≠ "" ∧
        isTokenBlacklisted redis now token = false) ∧
      accessTokenGuard false jwt config db now authHeader = .ok user := by
  unfold authorize at admitted
  split at admitted
  · cases admitted
  · rename_i passed
    refine ⟨?_, admitted⟩
    simp only [jwtBlacklistGuard, Bool.false_eq_true, if_false] at passed
    split at passed
    · cases passed
    · rename_i token found
      split_ifs at passed with empty revoked
      exact ⟨token, found, empty, by simpa using revoked⟩

/-- A request whose guard finds a token that is not blacklisted is admitted with
a valid access token of a stored user. -/
theorem authorize_of_valid {checked token : String} {payload : JwtPayload} {user : UserRow}
    (guard : guardToken authHeader = some checked) (nonempty : checked ≠ "")
    (listed : isTokenBlacklisted redis now checked = false)
    (bearer : bearerToken authHeader = some token)
    (verified : jwt.verify config.accessSecret token = some payload)
    (fresh : seconds now < payload.exp) (access : payload.type = .access)
    (known : db.user? payload.sub = some user) :
    authorize false jwt config db redis now authHeader = .ok (some user) := by
  simp [authorize, jwtBlacklistGuard, accessTokenGuard, guard, nonempty, listed, bearer, verified,
    Int.not_le.mpr fresh, access, known]

end Admit

/-- A lawful token library that accepts a given token as an access token of the
sample user. -/
def jwtAccepting (token : String) : Jwt where
  sign secret payload :=
    if payload = ⟨"user", .access, 0, 9⟩ then token else sampleJwt.sign (secret ++ token) payload
  verify secret t :=
    if t = token then some ⟨"user", .access, 0, 9⟩ else sampleJwt.verify (secret ++ token) t
  lifetime _ := some 9

theorem jwtAccepting_lawful (token : String) : (jwtAccepting token).Lawful := by
  intro secret payload
  simp only [jwtAccepting]
  by_cases given : payload = ⟨"user", .access, 0, 9⟩
  · simp [given]
  · -- The library's own tokens are longer than the given one.
    have other : sampleJwt.sign (secret ++ token) payload ≠ token := by
      intro same
      have lengths := congrArg (fun s => s.toList.length) same
      simp only [sampleJwt, encodeToken, String.toList_ofList, String.toList_append,
        List.length_append, List.length_cons] at lengths
      omega
    rw [if_neg given, if_neg other, sampleJwt_lawful]

/-- A guarded header that carries a bearer token is checked for that token: there
is an environment in which a request with the header is admitted. -/
theorem Guarded.guardToken {header token : String} (guarded : Guarded (some header))
    (bearer : bearerToken (some header) = some token) :
    guardToken (some header) = some token := by
  have nonempty := guardToken_ne_empty bearer
  obtain ⟨checked, guard⟩ : ∃ checked, CoupangEats.guardToken (some header) = some checked :=
    ⟨_, rfl⟩
  rw [guard, Ne, Option.some.injEq] at nonempty
  have verified : (jwtAccepting token).verify "" token = some ⟨"user", .access, 0, 9⟩ := by
    simp [jwtAccepting]
  have known : oneUserStore.user? "user" =
      some ⟨"user", "u@x.kr", "pw", "user", .client, true, none⟩ := by
    decide
  -- The token is valid, and nothing is blacklisted.
  obtain ⟨token', bearer', guard'⟩ := guarded.checked (jwtAccepting token) ⟨"", "", "", ""⟩
    oneUserStore .empty 0 _ (jwtAccepting_lawful token)
    (authorize_of_valid guard nonempty rfl bearer verified (by decide) rfl known)
  rw [bearer, Option.some.injEq] at bearer'
  rwa [bearer']

/-- A request without a bearer token is not admitted. -/
theorem guarded_of_unread {authHeader : Option String} (unread : bearerToken authHeader = none) :
    Guarded authHeader := by
  refine ⟨fun jwt config db redis now user _ admitted => ?_,
    fun jwt config db redis now token _ bearer _ => ?_⟩
  · obtain ⟨token, bearer, -⟩ := accessTokenGuard_eq_ok (authorize_eq_ok admitted).2
    rw [unread] at bearer
    cases bearer
  · rw [unread] at bearer
    cases bearer

/-- Where both read the same token, the blacklist is checked for it. -/
theorem guarded_of_agreement {authHeader : Option String} {token : String}
    (bearer : bearerToken authHeader = some token) (guard : guardToken authHeader = some token) :
    Guarded authHeader := by
  refine ⟨fun jwt config db redis now user _ _ => ⟨token, bearer, guard⟩,
    fun jwt config db redis now token' _ bearer' listed => ?_⟩
  rw [bearer, Option.some.injEq] at bearer'
  subst bearer'
  cases admitted : authorize false jwt config db redis now authHeader with
  | error e => exact ⟨e, rfl⟩
  | ok user =>
      obtain ⟨⟨checked, guard', -, unlisted⟩, -⟩ := authorize_eq_ok admitted
      rw [guard, Option.some.injEq] at guard'
      rw [← guard', listed] at unlisted
      cases unlisted

/-- A header is guarded exactly when it carries no bearer token or spells it
`Bearer `, token. -/
theorem guarded_iff (authHeader : Option String) :
    Guarded authHeader ↔
      bearerToken authHeader = none ∨
        ∃ token, authHeader = some ("Bearer " ++ token) ∧ token ≠ "" ∧
          ∀ c ∈ token.toList, isWord c = true := by
  constructor
  · intro guarded
    cases bearer : bearerToken authHeader with
    | none => exact .inl rfl
    | some token =>
        right
        cases authHeader with
        | none => cases bearer
        | some header =>
            have plain := (guardToken_eq_bearerToken bearer).mp (guarded.guardToken bearer)
            obtain ⟨_, value, words, -, rfl⟩ := bearerToken_eq_some bearer
            obtain ⟨_, _, _, -, -, -, word, -, some_value⟩ := twoWords_eq_some words
            exact ⟨_, by rw [plain], by simpa using some_value, by simpa using word⟩
  · rintro (unread | ⟨token, rfl, nonempty, word⟩)
    · exact guarded_of_unread unread
    · have bearer := bearerToken_plain nonempty word
      exact guarded_of_agreement bearer ((guardToken_eq_bearerToken bearer).mpr rfl)

/-- Behind `bearer`, a signed-out token is admitted. -/
theorem lower_case_scheme_admitted : ¬ ∀ authHeader, Guarded authHeader := by
  intro all
  let token := sampleJwt.sign "access" ⟨"user", .access, 0, 9⟩
  let redis := revokeAllUserTokens sampleConfig .empty 1000 "user" token
  have admitted : authorize false sampleJwt sampleConfig oneUserStore redis 2000
      (some ("bearer " ++ token)) = .ok (oneUserStore.user? "user") := by
    decide +kernel
  obtain ⟨e, refused⟩ := (all (some ("bearer " ++ token))).revoked sampleJwt sampleConfig
    oneUserStore redis 2000 token sampleJwt_lawful (by decide +kernel) (by decide +kernel)
  rw [refused] at admitted
  cases admitted

end CoupangEats
