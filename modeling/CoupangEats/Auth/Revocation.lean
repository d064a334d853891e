import CoupangEats.Auth.Header
import CoupangEats.Auth.Issue
import Mathlib.Tactic.IntervalCases

/-!
How long a sign-out holds.

The blacklist entry of a token lives for the configured expiration from the
sign-out on, and the token for the same expiration from the second in which it
was issued, rounded down; it was issued before it was signed out. So whenever the
entry has gone, the token has expired (`Revoked`). Issues and refreshes leave the
blacklist alone, and a further sign-out with the token sets the entry again.
-/

namespace CoupangEats

open CoupangEats.Base

/-! ### Expirations of whole units -/

inductive TimeUnit where
  | second
  | minute
  | hour
  | day
  deriving DecidableEq, Repr

def TimeUnit.letter : TimeUnit → Char
  | .second => 's'
  | .minute => 'm'
  | .hour => 'h'
  | .day => 'd'

def TimeUnit.seconds : TimeUnit → Nat
  | .second => 1
  | .minute => 60
  | .hour => 3600
  | .day => 86400

/-- A whole number of units: decimal digits, directly followed by the letter of
the unit. -/
structure Expiration where
  digits : List Char
  some_digit : digits ≠ []
  decimal : ∀ c ∈ digits, '0' ≤ c ∧ c ≤ '9'
  unit : TimeUnit

def Expiration.text (x : Expiration) : String := String.ofList (x.digits ++ [x.unit.letter])

def Expiration.seconds (x : Expiration) : Int := Nat.ofDigitChars 10 x.digits 0 * x.unit.seconds

/-- The token library reads such a text, if at all, as what it says. -/
def Jwt.ReadsExpirations (jwt : Jwt) : Prop :=
  ∀ (x : Expiration) lifetime, jwt.lifetime x.text = some lifetime → lifetime = x.seconds

theorem digit_of_decimal {c : Char} (decimal : '0' ≤ c ∧ c ≤ '9') :
    digit 10 c = some (c.toNat - '0'.toNat) ∧ isSpace c = false ∧ c ≠ '-' ∧ c ≠ '+' ∧ c ≠ 'x' ∧
      c ≠ 'X' := by
  have all : ∀ c ∈ "0123456789".toList, digit 10 c = some (c.toNat - '0'.toNat) ∧
      isSpace c = false ∧ c ≠ '-' ∧ c ≠ '+' ∧ c ≠ 'x' ∧ c ≠ 'X' := by
    simp [digit, isSpace]
  have low : 48 ≤ c.toNat := decimal.1
  have high : c.toNat ≤ 57 := decimal.2
  rw [← Char.ofNat_toNat c]
  generalize c.toNat = n at low high
  interval_cases n <;> exact all _ (by decide)

/-- What follows the digits of a number: nothing, or a character that ends it. -/
def EndsNumber (rest : List Char) : Prop :=
  ∀ c ∈ rest.head?, digit 10 c = none ∧ c ≠ 'x' ∧ c ≠ 'X'

theorem readDigits_append {s rest : List Char} (decimal : ∀ c ∈ s, '0' ≤ c ∧ c ≤ '9')
    (ends : EndsNumber rest) (n : Nat) :
    readDigits 10 (some n) (s ++ rest) = some (Nat.ofDigitChars 10 s n) := by
  induction s generalizing n with
  | nil =>
      cases rest with
      | nil => rfl
      | cons c rest => simp [readDigits, (ends c rfl).1]
  | cons c s ih =>
      simp only [List.cons_append, readDigits,
        (digit_of_decimal (decimal c List.mem_cons_self)).1, Option.getD_some]
      rw [ih fun d mem => decimal d (List.mem_cons_of_mem _ mem), Nat.ofDigitChars_cons,
        Nat.mul_comm]

/-- The digits that a text starts with are read as a number, and nothing behind them. -/
theorem readDigits_none_append {s rest : List Char} (some_digit : s ≠ [])
    (decimal : ∀ c ∈ s, '0' ≤ c ∧ c ≤ '9') (ends : EndsNumber rest) :
    readDigits 10 none (s ++ rest) = some (Nat.ofDigitChars 10 s 0) := by
  obtain ⟨c, s, rfl⟩ := List.exists_cons_of_ne_nil some_digit
  simp only [List.cons_append, readDigits, (digit_of_decimal (decimal c List.mem_cons_self)).1,
    Option.getD_none, Nat.zero_mul, Nat.zero_add]
  rw [readDigits_append (fun d mem => decimal d (List.mem_cons_of_mem _ mem)) ends,
    Nat.ofDigitChars_cons, Nat.mul_zero, Nat.zero_add]

/-- Such a text has no mark of a hexadecimal number. -/
theorem not_hexadecimal {s rest : List Char} (some_digit : s ≠ [])
    (decimal : ∀ c ∈ s, '0' ≤ c ∧ c ≤ '9') (ends : EndsNumber rest) (tail : List Char) :
    s ++ rest ≠ '0' :: 'x' :: tail ∧ s ++ rest ≠ '0' :: 'X' :: tail := by
  obtain ⟨c, s, rfl⟩ := List.exists_cons_of_ne_nil some_digit
  have second : ∀ d, (s ++ rest).head? = some d → d ≠ 'x' ∧ d ≠ 'X' := by
    intro d head
    cases s with
    | nil => exact (ends d head).2
    | cons e s =>
        cases head
        exact (digit_of_decimal (decimal d (by simp))).2.2.2.2
  constructor
  · intro same
    exact (second 'x' (by simp [show s ++ rest = _ from (List.cons.inj same).2])).1 rfl
  · intro same
    exact (second 'X' (by simp [show s ++ rest = _ from (List.cons.inj same).2])).2 rfl

/-- `parseInt` reads a sign and the digits behind it, and passes over the rest. -/
theorem parseInt_append (negative : Bool) {s rest : List Char} (some_digit : s ≠ [])
    (decimal : ∀ c ∈ s, '0' ≤ c ∧ c ≤ '9') (ends : EndsNumber rest) :
    parseInt ((if negative then ['-'] else []) ++ (s ++ rest)) =
      some (if negative then -(Nat.ofDigitChars 10 s 0 : Int) else Nat.ofDigitChars 10 s 0) := by
  have read := readDigits_none_append some_digit decimal ends
  have notHex := not_hexadecimal some_digit decimal ends
  obtain ⟨c, tail, rfl⟩ := List.exists_cons_of_ne_nil some_digit
  obtain ⟨-, notSpace, notMinus, notPlus, -, -⟩ := digit_of_decimal (decimal c List.mem_cons_self)
  have unsigned : ∀ t, c :: tail ++ rest ≠ '-' :: t ∧ c :: tail ++ rest ≠ '+' :: t := by
    intro t
    simp [notMinus, notPlus]
  have skip : (c :: tail ++ rest).dropWhile isSpace = c :: tail ++ rest :=
    List.dropWhile_cons_of_neg (by simp [notSpace])
  generalize c :: tail ++ rest = text at read notHex unsigned skip
  cases negative with
  | true =>
      have minus : ('-' :: text).dropWhile isSpace = '-' :: text :=
        List.dropWhile_cons_of_neg (by simp [isSpace])
      simp only [if_true, List.singleton_append, parseInt, minus]
      split
      · exact absurd rfl (notHex _).1
      · exact absurd rfl (notHex _).2
      · simp [read]
  | false =>
      simp only [Bool.false_eq_true, if_false, List.nil_append, parseInt, skip]
      split
      · exact absurd rfl (unsigned _).1
      · exact absurd rfl (unsigned _).2
      · simp only [Bool.false_eq_true, if_false]
        split
        · exact absurd rfl (notHex _).1
        · exact absurd rfl (notHex _).2
        · simp [read]

theorem endsNumber_nil : EndsNumber [] := by
  intro c mem
  simp at mem

/-- The service reads such a text as what it says. -/
theorem parseExpirationToSeconds_text (x : Expiration) :
    parseExpirationToSeconds x.text = some x.seconds := by
  have value := parseInt_append false x.some_digit x.decimal endsNumber_nil
  simp only [Bool.false_eq_true, if_false, List.nil_append, List.append_nil] at value
  unfold parseExpirationToSeconds Expiration.text Expiration.seconds
  simp only [String.toList_ofList, List.dropLast_concat, List.getLast?_concat, value]
  cases x.unit <;> simp [TimeUnit.letter, TimeUnit.seconds] <;> omega

/-! ### Requests among the token calls -/

/-- A request to a route that is not public, and the store it meets. -/
structure RouteRequest where
  authHeader : Option String
  db : Db
  now : Time

section Machine

variable (jwt : Jwt) (config : JwtConfig) (db : Db) (compare : String → String → Bool)

/-- The guards of the routes that are not public. -/
def routes : Machine Redis RouteRequest (Except ApiError (Option UserRow)) where
  step redis request :=
    (redis, authorize false jwt config request.db redis request.now request.authHeader)

/-- Token calls and requests on one cache. -/
def sessions := (tokenMachine jwt config db compare).both (routes jwt config)

end Machine

abbrev SessionEvent :=
  Event Redis (TokenCall ⊕ RouteRequest)
    (Except ApiError (Option TokenPair) ⊕ Except ApiError (Option UserRow))

/-- When a step of a run takes place. -/
def sessionInstants : TokenCall ⊕ RouteRequest → List Time
  | .inl call => call.instants
  | .inr request => [request.now]

/-- The event returns a pair with the access token. -/
def Issues (e : SessionEvent) (accessToken : String) : Prop :=
  ∃ pair, e.output = .inl (.ok (some pair)) ∧ pair.accessToken = accessToken

/-- If the token verifies as an access token, the service has issued it as one. -/
def Unforged (jwt : Jwt) (config : JwtConfig) (past : List SessionEvent) (token : String) : Prop :=
  ∀ payload, jwt.verify config.accessSecret token = some payload → payload.type = .access →
    ∃ f ∈ past, Issues f token

/-- The header is `Bearer `, token, and is read as the token. -/
def Carries (authHeader : Option String) (token : String) : Prop :=
  authHeader = some ("Bearer " ++ token) ∧ bearerToken authHeader = some token

/-- At every moment the token is blacklisted, or it is not a valid access token
any more. -/
def Revoked (jwt : Jwt) (config : JwtConfig) (redis : Redis) (accessToken : String) : Prop :=
  ∀ now, isTokenBlacklisted redis now accessToken = true ∨
    ∀ payload, jwt.verify config.accessSecret accessToken = some payload →
      payload.type = .access → payload.exp ≤ seconds now

/-- A sign-out with the token happens after the second of its issue. -/
def SignsOutInTime (jwt : Jwt) (config : JwtConfig) (x : Expiration) (accessToken : String)
    (e : SessionEvent) : Prop :=
  ∀ userId now payload, e.input = .inl (.signOut userId accessToken now) →
    jwt.verify config.accessSecret accessToken = some payload → payload.type = .access →
    payload.exp ≤ seconds now + x.seconds

/-! ### One step -/

section Step

variable {jwt : Jwt} {config : JwtConfig} {redis after : Redis} {accessToken : String}
  {x : Expiration}

/-- A step that leaves the token's entry alone keeps the token revoked. -/
theorem Revoked.same (revoked : Revoked jwt config redis accessToken)
    (entry : after (blacklistKey accessToken) = redis (blacklistKey accessToken)) :
    Revoked jwt config after accessToken := by
  intro now
  have read :
      isTokenBlacklisted after now accessToken = isTokenBlacklisted redis now accessToken := by
    simp only [isTokenBlacklisted, cacheGet, Expiring.get_congr entry]
  rw [read]
  exact revoked now

/-- A sign-out revokes its token: when the entry has gone, the token has expired. -/
theorem revoked_of_signOut (expiration : config.accessExpiration = x.text) (userId : String)
    {now : Time} (inTime : ∀ payload, jwt.verify config.accessSecret accessToken = some payload →
      payload.type = .access → payload.exp ≤ seconds now + x.seconds) :
    Revoked jwt config (revokeAllUserTokens config redis now userId accessToken) accessToken := by
  intro later
  have ttl := parseExpirationToSeconds_text x
  have positive : 0 ≤ x.seconds := by
    unfold Expiration.seconds
    positivity
  by_cases early : later ≤ now + x.seconds * 1000
  · left
    apply revoked_isTokenBlacklisted
    intro ttl' parsed nonzero
    rw [expiration, ttl, Option.some.injEq] at parsed
    subst parsed
    exact ⟨by omega, early⟩
  · right
    intro payload verified access
    have bound := inTime payload verified access
    have late := Int.not_le.mp early
    simp only [CoupangEats.seconds] at bound ⊢
    omega

/-- A token call changes the entries of refresh tokens, and a sign-out that of
its token. -/
theorem tokenMachine_entry {db : Db} {compare : String → String → Bool} {call : TokenCall}
    {output : Except ApiError (Option TokenPair)}
    (step : (tokenMachine jwt config db compare).step redis call = (after, output))
    (other : ∀ userId token now, call = .signOut userId token now → token ≠ accessToken) :
    after (blacklistKey accessToken) = redis (blacklistKey accessToken) := by
  cases outcome_of_step step with
  | issued _ _ generated =>
      rw [generated.stored]
      exact cacheSet_of_ne (blacklistKey_ne_refreshTokenKey _ _)
  | signedOut userId token now =>
      have apart : blacklistKey accessToken ≠ blacklistKey token := fun same =>
        other userId token now rfl (blacklistKey_inj same).symm
      rw [revokeAllUserTokens, cacheSet_of_ne apart, revokeRefreshToken, cacheDel,
        Expiring.del_of_ne (blacklistKey_ne_refreshTokenKey _ _)]
  | refused => rfl

/-- A step of a run keeps a revoked token revoked. -/
theorem Revoked.step {db : Db} {compare : String → String → Bool} {e : SessionEvent}
    (expiration : config.accessExpiration = x.text)
    (step : (sessions jwt config db compare).step e.before e.input = (e.after, e.output))
    (inTime : SignsOutInTime jwt config x accessToken e)
    (revoked : Revoked jwt config e.before accessToken) :
    Revoked jwt config e.after accessToken := by
  rcases Machine.step_both step with ⟨call, out, input, -, step⟩ | ⟨request, out, -, -, step⟩
  · by_cases again : ∃ userId now, call = .signOut userId accessToken now
    · obtain ⟨userId, now, rfl⟩ := again
      simp only [tokenMachine, Prod.mk.injEq] at step
      rw [← step.1]
      exact revoked_of_signOut expiration userId fun payload => inTime userId now payload input
    · apply revoked.same
      apply tokenMachine_entry step
      rintro userId token now rfl rfl
      exact again ⟨userId, now, rfl⟩
  · simp only [routes, Prod.mk.injEq] at step
    exact revoked.same (by rw [← step.1])

/-- With a revoked token no request is admitted. -/
theorem Revoked.refuses (revoked : Revoked jwt config redis accessToken) {request : RouteRequest}
    (carries : Carries request.authHeader accessToken) :
    ∃ e, authorize false jwt config request.db redis request.now request.authHeader =
      .error e := by
  obtain ⟨header, bearer⟩ := carries
  have guard : guardToken request.authHeader = some accessToken := by
    rw [header] at bearer ⊢
    exact (guardToken_eq_bearerToken bearer).mpr rfl
  cases admitted : authorize false jwt config request.db redis request.now request.authHeader with
  | error e => exact ⟨e, rfl⟩
  | ok user =>
      obtain ⟨⟨checked, found, -, unlisted⟩, accepted⟩ := authorize_eq_ok admitted
      obtain ⟨token, read, payload, verified, fresh, access⟩ := accessTokenGuard_eq_ok accepted
      rw [guard, Option.some.injEq] at found
      rw [bearer, Option.some.injEq] at read
      subst found read
      exfalso
      rcases revoked request.now with listed | expired
      · rw [listed] at unlisted
        cases unlisted
      · exact absurd fresh (Int.not_lt.mpr (expired payload verified access))

/-- An access token expires its lifetime behind the second of its issue. -/
theorem exp_of_issues {db : Db} {compare : String → String → Bool} {e : SessionEvent}
    {payload : JwtPayload} (lawful : jwt.Lawful) (reads : jwt.ReadsExpirations)
    (expiration : config.accessExpiration = x.text)
    (step : (sessions jwt config db compare).step e.before e.input = (e.after, e.output))
    (issues : Issues e accessToken)
    (verified : jwt.verify config.accessSecret accessToken = some payload) :
    ∃ t ∈ sessionInstants e.input, payload.exp = seconds t + x.seconds := by
  obtain ⟨pair, issued, rfl⟩ := issues
  rcases Machine.step_both step with ⟨call, out, input, output, step⟩ | ⟨_, _, -, output, -⟩
  · rw [issued, Sum.inl.injEq] at output
    subst output
    generalize e.after = after at step
    cases outcome_of_step step with
    | @issued _ clock _ _ _ _ instant generated =>
        obtain ⟨lifetime, parsed, token⟩ := generated.access
        rw [token, lawful, Option.some.injEq] at verified
        rw [expiration] at parsed
        rw [input, ← verified, reads x lifetime parsed]
        exact ⟨clock.signedAccess, instant, rfl⟩
  · rw [issued] at output
    cases output

end Step

/-! ### Runs -/

section Run

variable {jwt : Jwt} {config : JwtConfig} {db : Db} {compare : String → String → Bool}
  {redis : Redis} {calls : List (TokenCall ⊕ RouteRequest)} {first rest : List SessionEvent}
  {s : SessionEvent} {token : String} {x : Expiration}

/-- From the sign-out of an unforged token on, its sign-outs come after its issue. -/
theorem signsOutInTime (lawful : jwt.Lawful) (reads : jwt.ReadsExpirations)
    (expiration : config.accessExpiration = x.text)
    (chronological : Machine.Chronological sessionInstants calls)
    (split : (sessions jwt config db compare).history redis calls = first ++ s :: rest)
    (unforged : Unforged jwt config first token) :
    ∀ e ∈ s :: rest, SignsOutInTime jwt config x token e := by
  intro e mem userId now payload input verified access
  obtain ⟨f, earlier, issues⟩ := unforged payload verified access
  have step := Machine.step_of_mem_history
    (show f ∈ (sessions jwt config db compare).history redis calls from
      split ▸ List.mem_append_left _ earlier)
  obtain ⟨t, instant, expires⟩ := exp_of_issues lawful reads expiration step issues verified
  have order : t ≤ now := by
    apply chronological.order split earlier mem t instant
    rw [input]
    exact List.mem_singleton_self now
  have same : seconds t ≤ seconds now := Int.ediv_le_ediv (by omega) order
  omega

/-- Once an unforged token has been signed out it stays revoked, and no request
with it is admitted to a route that is not public. -/
theorem signed_out_for_good (lawful : jwt.Lawful) (reads : jwt.ReadsExpirations)
    (expiration : config.accessExpiration = x.text)
    (chronological : Machine.Chronological sessionInstants calls)
    (split : (sessions jwt config db compare).history redis calls = first ++ s :: rest)
    (unforged : Unforged jwt config first token) {userId : String} {now : Time}
    (signedOut : s.input = .inl (.signOut userId token now)) :
    (∀ f ∈ s :: rest, Revoked jwt config f.after token) ∧
      ∀ f ∈ rest, ∀ request, f.input = .inr request → Carries request.authHeader token →
        ∃ e, f.output = .inr (.error e) := by
  have inTime := signsOutInTime lawful reads expiration chronological split unforged
  have established : Revoked jwt config s.after token := by
    have step := Machine.step_of_mem_history (Machine.mem_of_split split)
    rw [signedOut] at step
    simp only [sessions, Machine.both, tokenMachine, Prod.mk.injEq] at step
    rw [← step.1]
    exact revoked_of_signOut expiration userId fun payload =>
      inTime s List.mem_cons_self userId now payload signedOut
  obtain ⟨late, rfl, -⟩ := Machine.run_of_split split
  obtain ⟨-, stays⟩ := Machine.history_invariant (Revoked jwt config · token)
    (SignsOutInTime jwt config x token) (fun e step => Revoked.step expiration step) established
    fun f mem => inTime f (List.mem_cons_of_mem _ mem)
  constructor
  · intro f mem
    rcases List.mem_cons.mp mem with rfl | mem
    · exact established
    · exact (stays f mem).2
  · intro f mem request input carries
    have step := Machine.step_of_mem_history mem
    rw [input] at step
    simp only [sessions, Machine.both, routes, Prod.mk.injEq] at step
    obtain ⟨e, refused⟩ := (stays f mem).1.refuses carries
    exact ⟨e, by rw [← step.2, refused]⟩

end Run

/-- The sample library, reading expirations as the service does. -/
def readingJwt : Jwt := { sampleJwt with lifetime := parseExpirationToSeconds }

theorem readingJwt_lawful : readingJwt.Lawful := sampleJwt_lawful

theorem readingJwt_reads : readingJwt.ReadsExpirations := by
  intro x lifetime read
  have text : readingJwt.lifetime x.text = some x.seconds := parseExpirationToSeconds_text x
  rw [text, Option.some.injEq] at read
  exact read.symm

/-- Signed out a second behind the sign-in, the token is refused in the last
second of its lifetime. -/
theorem signed_out_token_refused :
    let token := sampleJwt.sign "access" ⟨"user", .access, 0, 9⟩
    let m := sessions readingJwt sampleConfig oneUserStore fun _ _ => true
    let redis := m.run .empty
      [.inl (.signIn "u@x.kr" "pw" ⟨0, 0, 0, 0, 0⟩), .inl (.signOut "user" token 1000)]
    ∃ e, (m.step redis (.inr ⟨some ("Bearer " ++ token), oneUserStore, 8999⟩)).2 =
      .inr (.error e) := by
  intro token m redis
  let calls : List (TokenCall ⊕ RouteRequest) :=
    [.inl (.signIn "u@x.kr" "pw" ⟨0, 0, 0, 0, 0⟩), .inl (.signOut "user" token 1000),
      .inr ⟨some ("Bearer " ++ token), oneUserStore, 8999⟩]
  let x : Expiration := ⟨['9'], by simp, by simp, .second⟩
  have expiration : sampleConfig.accessExpiration = x.text := rfl
  have chronological : Machine.Chronological sessionInstants calls := by
    simp [calls, Machine.Chronological, sessionInstants, TokenCall.instants]
  have split : m.history .empty calls = [_] ++ _ :: [_] := rfl
  obtain ⟨-, refused⟩ := signed_out_for_good readingJwt_lawful readingJwt_reads
    expiration chronological split
    (fun _ _ _ => ⟨_, List.mem_singleton_self _, ⟨token, _⟩, by rfl, rfl⟩) rfl
  exact refused _ (List.mem_singleton_self _) _ rfl ⟨rfl, by decide +kernel⟩

end CoupangEats
