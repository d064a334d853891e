import CoupangEats.Base.Expiring
import CoupangEats.Base.Text
import CoupangEats.Entity

/-!
The token service and the cache behind it.

`Jwt` is the token library: it signs claims and gives back the claims of a token
it accepts. Signing is a function of the secret and the claims, so two tokens
with the same claims are one token. The service adds the instants of issue and
expiry in whole seconds, stores the refresh token of a user in the cache, and
blacklists the access tokens of signed-out users there.

A call takes time; `Clock` says when each of its steps happens.
-/

namespace CoupangEats

open CoupangEats.Base

/-! ### The cache -/

/-- The Redis store of the cache service. -/
abbrev Redis := Expiring String Json

/-- `CacheService.get`. -/
def cacheGet (redis : Redis) (now : Time) (key : String) : Option Json := redis.get now key

/-- `CacheService.set`: a value, and its time to live in seconds when one is
given that is neither `0` nor `NaN`. -/
def cacheSet (redis : Redis) (now : Time) (key : String) (value : Json) (ttl : Option Int) :
    Redis :=
  match ttl with
  | none => redis.set key value
  | some seconds =>
      if seconds = 0 then redis.set key value
      else (redis.set key value).expire now key (seconds * 1000)

/-- `CacheService.del`. -/
def cacheDel (redis : Redis) (key : String) : Redis := redis.del key

/-- What a key holds after another value is set is that value, or it was there
before. -/
theorem holds_of_cacheSet {redis : Redis} {now : Time} {key key' : String} {value held : Json}
    {ttl : Option Int} (holds : (cacheSet redis now key value ttl).Holds key' held) :
    (key' = key ∧ value = held) ∨ (key' ≠ key ∧ redis.Holds key' held) := by
  have holds' : (redis.set key value).Holds key' held := by
    unfold cacheSet at holds
    split at holds
    · exact holds
    · split at holds
      · exact holds
      · exact Expiring.holds_of_expire holds
  rw [Expiring.holds_set] at holds'
  split at holds'
  · rename_i same
    exact .inl ⟨same, holds'.symm⟩
  · rename_i other
    exact .inr ⟨other, holds'⟩

/-- Setting a key leaves the entries of the others. -/
theorem cacheSet_of_ne {redis : Redis} {now : Time} {key key' : String} {value : Json}
    {ttl : Option Int} (other : key' ≠ key) :
    cacheSet redis now key value ttl key' = redis key' := by
  unfold cacheSet
  split
  · exact Expiring.set_of_ne other
  · split
    · exact Expiring.set_of_ne other
    · rw [Expiring.expire_of_ne other, Expiring.set_of_ne other]

/-- A value can be read until its time to live is over, and for ever when it has none. -/
theorem cacheGet_cacheSet {redis : Redis} {now later : Time} {key : String} {value : Json}
    {ttl : Option Int} (lasts : ∀ seconds, ttl = some seconds → seconds ≠ 0 →
      0 < seconds ∧ later ≤ now + seconds * 1000) :
    cacheGet (cacheSet redis now key value ttl) later key = some value := by
  unfold cacheSet cacheGet
  split
  · simp
  · rename_i seconds
    split
    · simp
    · rename_i nonzero
      obtain ⟨positive, early⟩ := lasts seconds rfl nonzero
      exact Expiring.get_expire (by simp) (by omega) early

/-- Behind its time to live a value cannot be read. -/
theorem cacheGet_cacheSet_late {redis : Redis} {now later : Time} {key : String} {value : Json}
    {seconds : Int} (timed : seconds ≠ 0) (late : now + seconds * 1000 < later) :
    cacheGet (cacheSet redis now key value (some seconds)) later key = none := by
  have found : (redis.set key value).get now key = some value := by simp
  simp only [cacheSet, timed, if_false, cacheGet]
  exact Expiring.get_expire_late found late

def refreshTokenKey (userId : String) : String := "refresh-token/" ++ userId

def blacklistKey (token : String) : String := "token-blacklist/" ++ token

theorem refreshTokenKey_inj {u v : String} (same : refreshTokenKey u = refreshTokenKey v) :
    u = v := by
  simpa [refreshTokenKey] using same

theorem blacklistKey_inj {a b : String} (same : blacklistKey a = blacklistKey b) : a = b := by
  simpa [blacklistKey] using same

theorem blacklistKey_ne_refreshTokenKey (token userId : String) :
    blacklistKey token ≠ refreshTokenKey userId := by
  intro same
  have first := congrArg (fun text => text.toList.head?) same
  simp [blacklistKey, refreshTokenKey] at first

/-! ### Expiration texts -/

/-- The value of a digit. -/
def digit (radix : Nat) (c : Char) : Option Nat :=
  let value :=
    if '0' ≤ c ∧ c ≤ '9' then some (c.toNat - '0'.toNat)
    else if 'a' ≤ c ∧ c ≤ 'f' then some (c.toNat - 'a'.toNat + 10)
    else if 'A' ≤ c ∧ c ≤ 'F' then some (c.toNat - 'A'.toNat + 10)
    else none
  value.filter (· < radix)

/-- The digits a text starts with, behind those already read. -/
def readDigits (radix : Nat) : Option Nat → List Char → Option Nat
  | read, [] => read
  | read, c :: s =>
      match digit radix c with
      | none => read
      | some d => readDigits radix (some (read.getD 0 * radix + d)) s

/-- `parseInt` without a radix; `none` is `NaN`. -/
def parseInt (s : List Char) : Option Int :=
  let (negative, s) :=
    match s.dropWhile isSpace with
    | '-' :: s => (true, s)
    | '+' :: s => (false, s)
    | s => (false, s)
  let value :=
    match s with
    | '0' :: 'x' :: s => readDigits 16 none s
    | '0' :: 'X' :: s => readDigits 16 none s
    | s => readDigits 10 none s
  value.map fun n => if negative then -(n : Int) else n

/-- A text such as `15m` in seconds. -/
def parseExpirationToSeconds (expiration : String) : Option Int :=
  let value := parseInt expiration.toList.dropLast
  match expiration.toList.getLast? with
  | some 's' => value
  | some 'm' => value.map (· * 60)
  | some 'h' => value.map (· * 60 * 60)
  | some 'd' => value.map (· * 60 * 60 * 24)
  | _ => some 3600

/-! ### Tokens -/

inductive TokenType where
  | access
  | refresh
  deriving DecidableEq, Repr

/-- The claims of a token. -/
structure JwtPayload where
  sub : String
  type : TokenType
  iat : Int
  exp : Int
  deriving DecidableEq, Repr

/-- The token library: `sign` and `verify` with a secret, the latter without the
check of the expiry, and the length in seconds of an expiration text, if it is
one. -/
structure Jwt where
  sign : String → JwtPayload → String
  verify : String → String → Option JwtPayload
  lifetime : String → Option Int

/-- A token that was signed with a secret verifies with it to its claims. -/
def Jwt.Lawful (jwt : Jwt) : Prop :=
  ∀ secret payload, jwt.verify secret (jwt.sign secret payload) = some payload

structure JwtConfig where
  accessSecret : String
  refreshSecret : String
  accessExpiration : String
  refreshExpiration : String

structure TokenPair where
  accessToken : String
  refreshToken : String
  deriving DecidableEq, Repr

structure DecodedToken where
  payload : JwtPayload
  expired : Bool
  deriving DecidableEq, Repr

/-- When the steps of a call happen. -/
structure Clock where
  verified : Time
  read : Time
  signedAccess : Time
  signedRefresh : Time
  stored : Time

/-- The whole seconds of an instant. -/
def seconds (now : Time) : Int := now / 1000

/-- What the library throws at an expiration text it cannot read. -/
def badExpiresIn : ApiError :=
  .internal "\"expiresIn\" should be a number of seconds or string representing a timespan"

section Service

variable (jwt : Jwt) (config : JwtConfig)

def generateAccessToken (now : Time) (userId : String) : Except ApiError String :=
  match jwt.lifetime config.accessExpiration with
  | none => .error badExpiresIn
  | some lifetime =>
      .ok (jwt.sign config.accessSecret ⟨userId, .access, seconds now, seconds now + lifetime⟩)

def generateRefreshToken (now : Time) (userId : String) : Except ApiError String :=
  match jwt.lifetime config.refreshExpiration with
  | none => .error badExpiresIn
  | some lifetime =>
      .ok (jwt.sign config.refreshSecret ⟨userId, .refresh, seconds now, seconds now + lifetime⟩)

def storeRefreshToken (redis : Redis) (now : Time) (userId refreshToken : String) : Redis :=
  cacheSet redis now (refreshTokenKey userId) (.str refreshToken)
    (parseExpirationToSeconds config.refreshExpiration)

def generateTokenPair (redis : Redis) (clock : Clock) (userId : String) :
    Except ApiError TokenPair × Redis :=
  match generateAccessToken jwt config clock.signedAccess userId,
      generateRefreshToken jwt config clock.signedRefresh userId with
  | .error e, _ => (.error e, redis)
  | _, .error e => (.error e, redis)
  | .ok accessToken, .ok refreshToken =>
      (.ok ⟨accessToken, refreshToken⟩,
        storeRefreshToken config redis clock.stored userId refreshToken)

/-- The token's signature, expiry and type. The expiry comes first, and an
expired token is given back as such. -/
def verifyToken (secret : String) (type : TokenType) (now : Time) (token : String) :
    Except ApiError DecodedToken :=
  match jwt.verify secret token with
  | none => .error (.internal "JsonWebTokenError")
  | some payload =>
      if payload.exp ≤ seconds now then .ok ⟨payload, true⟩
      else if payload.type ≠ type then .error (.unauthorized "Invalid token type")
      else .ok ⟨payload, false⟩

def verifyRefreshToken (redis : Redis) (clock : Clock) (token : String) :
    Except ApiError DecodedToken :=
  match verifyToken jwt config.refreshSecret .refresh clock.verified token with
  | .error e => .error e
  | .ok decoded =>
      if decoded.expired then .ok decoded
      else if cacheGet redis clock.read (refreshTokenKey decoded.payload.sub) ≠
          some (.str token) then
        .error (.unauthorized "Invalid refresh token")
      else .ok decoded

def refreshTokens (redis : Redis) (clock : Clock) (refreshToken : String) :
    Except ApiError TokenPair × Redis :=
  match verifyRefreshToken jwt config redis clock refreshToken with
  | .error e => (.error e, redis)
  | .ok decoded =>
      if decoded.expired then (.error (.unauthorized "Refresh token expired"), redis)
      else generateTokenPair jwt config redis clock decoded.payload.sub

def isTokenBlacklisted (redis : Redis) (now : Time) (token : String) : Bool :=
  ((cacheGet redis now (blacklistKey token)).map Json.truthy).getD false

def revokeRefreshToken (redis : Redis) (userId : String) : Redis :=
  cacheDel redis (refreshTokenKey userId)

def revokeAllUserTokens (redis : Redis) (now : Time) (userId accessToken : String) : Redis :=
  cacheSet (revokeRefreshToken redis userId) now (blacklistKey accessToken) (.bool true)
    (parseExpirationToSeconds config.accessExpiration)

end Service

/-- A token that verifies gives back its claims. -/
theorem verifyToken_payload {jwt : Jwt} {secret token : String} {type : TokenType} {now : Time}
    {decoded : DecodedToken} (verified : verifyToken jwt secret type now token = .ok decoded) :
    jwt.verify secret token = some decoded.payload := by
  unfold verifyToken at verified
  split at verified
  · cases verified
  · rename_i payload found
    split_ifs at verified <;> cases verified <;> exact found

/-- A new refresh token is the user's, issued in the second of its signature. -/
theorem generateRefreshToken_eq_ok {jwt : Jwt} {config : JwtConfig} {now : Time}
    {userId token : String} (signed : generateRefreshToken jwt config now userId = .ok token) :
    ∃ exp, token = jwt.sign config.refreshSecret ⟨userId, .refresh, seconds now, exp⟩ := by
  unfold generateRefreshToken at signed
  split at signed
  · cases signed
  · cases signed
    exact ⟨_, rfl⟩

/-- A token is blacklisted from the sign-out on, until its time to live is
over. -/
theorem revoked_isTokenBlacklisted {config : JwtConfig} {redis : Redis} {now later : Time}
    {userId token : String}
    (lasts : ∀ ttl, parseExpirationToSeconds config.accessExpiration = some ttl → ttl ≠ 0 →
      0 < ttl ∧ later ≤ now + ttl * 1000) :
    isTokenBlacklisted (revokeAllUserTokens config redis now userId token) later token = true := by
  have found : cacheGet (revokeAllUserTokens config redis now userId token) later
      (blacklistKey token) = some (.bool true) := cacheGet_cacheSet lasts
  simp [isTokenBlacklisted, found, Json.truthy]

/-! ### A sample token library -/

/-- A number in unary, with its sign. -/
def encodeInt : Int → List Char
  | .ofNat n => List.replicate n '+'
  | .negSucc n => List.replicate (n + 1) '-'

def isSign (c : Char) : Bool := c = '+' || c = '-'

def decodeInt (s : List Char) : Int := s.count '+' - s.count '-'

def TokenType.letter : TokenType → Char
  | .access => 'a'
  | .refresh => 'r'

/-- Tokens that carry the secret and the claims as they are. -/
def encodeToken (secret : String) (payload : JwtPayload) : List Char :=
  secret.toList ++ payload.type.letter ::
    (encodeInt payload.iat ++ '.' :: (encodeInt payload.exp ++ '.' :: payload.sub.toList))

def decodeClaims (type : TokenType) (s : List Char) : JwtPayload :=
  let rest := (s.dropWhile isSign).tail
  ⟨String.ofList (rest.dropWhile isSign).tail, type, decodeInt (s.takeWhile isSign),
    decodeInt (rest.takeWhile isSign)⟩

def decodeToken (secret : String) (token : List Char) : Option JwtPayload :=
  if secret.toList.isPrefixOf token then
    match token.drop secret.toList.length with
    | 'a' :: s => some (decodeClaims .access s)
    | 'r' :: s => some (decodeClaims .refresh s)
    | _ => none
  else none

/-- A lawful token library. Expiration texts are nine seconds each. -/
def sampleJwt : Jwt where
  sign secret payload := String.ofList (encodeToken secret payload)
  verify secret token := decodeToken secret token.toList
  lifetime _ := some 9

def sampleConfig : JwtConfig := ⟨"access", "refresh", "9s", "9s"⟩

/-- A store with one user, who has verified the email address. -/
def oneUserStore : Db :=
  { Db.empty with users := ⟨[⟨"user", "u@x.kr", "pw", "user", .client, true, none⟩], by decide⟩ }

theorem decodeInt_encodeInt (n : Int) : decodeInt (encodeInt n) = n := by
  cases n <;> simp [decodeInt, encodeInt, List.count_replicate]
  omega

theorem isSign_of_mem {n : Int} : ∀ c ∈ encodeInt n, isSign c = true := by
  intro c mem
  cases n <;> simp only [encodeInt, List.mem_replicate] at mem <;> simp [mem.2, isSign]

theorem takeWhile_encodeInt (n : Int) (s : List Char) :
    (encodeInt n ++ '.' :: s).takeWhile isSign = encodeInt n := by
  rw [List.takeWhile_append_of_pos isSign_of_mem]
  simp [show isSign '.' = false by decide]

theorem dropWhile_encodeInt (n : Int) (s : List Char) :
    (encodeInt n ++ '.' :: s).dropWhile isSign = '.' :: s := by
  rw [List.dropWhile_append_of_pos isSign_of_mem]
  simp [show isSign '.' = false by decide]

theorem sampleJwt_lawful : sampleJwt.Lawful := by
  intro secret payload
  have claims (type : TokenType) (s : List Char) (iat exp : Int) :
      decodeClaims type (encodeInt iat ++ '.' :: (encodeInt exp ++ '.' :: s)) =
        ⟨String.ofList s, type, iat, exp⟩ := by
    simp only [decodeClaims, takeWhile_encodeInt, dropWhile_encodeInt, List.tail_cons,
      decodeInt_encodeInt]
  obtain ⟨sub, type, iat, exp⟩ := payload
  simp only [sampleJwt, String.toList_ofList, decodeToken, encodeToken]
  rw [if_pos (by simp), List.drop_left]
  cases type <;> simp [TokenType.letter, claims]

end CoupangEats
