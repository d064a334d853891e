import CoupangEats.Auth.Issue

/-!
Refresh token rotation.

A refresh replaces the stored token by a newly signed one, which is a different
one exactly when it is signed in another second than the presented token: the
claims of the two differ in nothing but the instants. In a run where no refresh
signs in the second of its own token, a refresh token is good for one refresh
(`rotates_once`): everything stored later was issued later.
-/

namespace CoupangEats

open CoupangEats.Base

/-- The event is a refresh with the token that returned a new pair. -/
def Refreshed (e : Event Redis TokenCall (Except ApiError (Option TokenPair)))
    (refreshToken : String) : Prop :=
  ∃ clock pair, e.input = .refreshTokens refreshToken clock ∧ e.output = .ok (some pair)

theorem refreshed_event {m : Machine Redis TokenCall (Except ApiError (Option TokenPair))}
    {redis : Redis} {refreshToken : String} {clock : Clock} {pair : TokenPair}
    (answered : (m.step redis (.refreshTokens refreshToken clock)).2 = .ok (some pair)) :
    Refreshed (m.event redis (.refreshTokens refreshToken clock)) refreshToken :=
  ⟨clock, pair, rfl, answered⟩

/-- Once a refresh token has been refreshed, every later refresh with it is
refused. -/
def RotatesOnce (history : List (Event Redis TokenCall (Except ApiError (Option TokenPair)))) :
    Prop :=
  ∀ first rest e f refreshToken, history = first ++ e :: rest → f ∈ rest →
    Refreshed e refreshToken → ¬ Refreshed f refreshToken

/-- The condition on a call: a refresh whose token is the stored one does not
sign in the second in which that token was issued. -/
def SignsLater (jwt : Jwt) (config : JwtConfig) (redis : Redis) : TokenCall → Prop
  | .refreshTokens refreshToken clock =>
      ∀ payload ∈ jwt.verify config.refreshSecret refreshToken,
        cacheGet redis clock.read (refreshTokenKey payload.sub) = some (.str refreshToken) →
        seconds clock.signedRefresh ≠ payload.iat
  | _ => True

instance (jwt : Jwt) (config : JwtConfig) (redis : Redis) (call : TokenCall) :
    Decidable (SignsLater jwt config redis call) :=
  match call with
  | .signIn .. => inferInstanceAs (Decidable True)
  | .refreshTokens .. => inferInstanceAs (Decidable (∀ payload ∈ jwt.verify _ _, _ → _))
  | .signOut .. => inferInstanceAs (Decidable True)

/-! ### What the cache can hold -/

/-- The refresh token that a user's key has been set to. -/
def HoldsToken (redis : Redis) (userId refreshToken : String) : Prop :=
  redis.Holds (refreshTokenKey userId) (.str refreshToken)

section Holds

variable {jwt : Jwt} {config : JwtConfig} {redis : Redis} {userId refreshToken : String}

/-- The step of a refresh that returned a pair. -/
theorem refreshed_of_step {db : Db} {compare : String → String → Bool} {clock : Clock}
    {pair : TokenPair} {after : Redis} {output : Except ApiError (Option TokenPair)}
    (step : (tokenMachine jwt config db compare).step redis (.refreshTokens refreshToken clock) =
      (after, output)) (answered : output = .ok (some pair)) :
    refreshTokens jwt config redis clock refreshToken = (.ok pair, after) := by
  subst answered
  simp only [tokenMachine, Prod.mk.injEq] at step
  obtain ⟨left, answer⟩ := step
  obtain ⟨pair', ok, same⟩ := map_eq_ok answer
  rw [Option.some.inj same] at ok
  exact Prod.ext ok left

/-- What a call leaves at a user's key was there before, or it is the refresh
token that the call has signed for the user. -/
theorem holds_of_step {db : Db} {compare : String → String → Bool} {call : TokenCall}
    (holds : HoldsToken ((tokenMachine jwt config db compare).step redis call).1 userId
      refreshToken) :
    HoldsToken redis userId refreshToken ∨
      ∃ now exp, call.signed = some now ∧
        refreshToken = jwt.sign config.refreshSecret ⟨userId, .refresh, seconds now, exp⟩ := by
  generalize step : (tokenMachine jwt config db compare).step redis call = out at holds
  obtain ⟨after, output⟩ := out
  cases outcome_of_step step with
  | issued signed _ generated =>
      obtain ⟨lifetime, -, token⟩ := generated.refresh
      rw [generated.stored] at holds
      rcases holds_of_cacheSet holds with ⟨same, value⟩ | ⟨-, old⟩
      · cases refreshTokenKey_inj same
        cases value
        exact .inr ⟨_, _, signed, token⟩
      · exact .inl old
  | signedOut =>
      rcases holds_of_cacheSet holds with ⟨-, value⟩ | ⟨-, old⟩
      · cases value
      · exact .inl (Expiring.holds_of_del old)
  | refused => exact .inl holds

end Holds

/-! ### Runs -/

section Run

variable {jwt : Jwt} {config : JwtConfig} {db : Db} {compare : String → String → Bool}

/-- What a run leaves at a user's key was there at its start, or it was signed
by one of its calls. -/
theorem holds_of_run {redis : Redis} {calls : List TokenCall} {userId refreshToken : String}
    (holds : HoldsToken ((tokenMachine jwt config db compare).run redis calls) userId
      refreshToken) :
    HoldsToken redis userId refreshToken ∨
      ∃ call ∈ calls, ∃ now exp, call.signed = some now ∧
        refreshToken = jwt.sign config.refreshSecret ⟨userId, .refresh, seconds now, exp⟩ := by
  induction calls generalizing redis with
  | nil => exact .inl holds
  | cons call calls ih =>
      rcases ih holds with early | ⟨later, mem, signed⟩
      · rcases holds_of_step early with old | signed
        · exact .inl old
        · exact .inr ⟨call, List.mem_cons_self, signed⟩
      · exact .inr ⟨later, List.mem_cons_of_mem _ mem, signed⟩

/-- A refresh that returns a pair leaves the presented token out of the cache,
if it was issued in an earlier second. -/
theorem replaced_of_step {redis after : Redis} {clock : Clock} {pair : TokenPair}
    {refreshToken : String} {payload : JwtPayload} (lawful : jwt.Lawful)
    (refreshed : refreshTokens jwt config redis clock refreshToken = (.ok pair, after))
    (verified : jwt.verify config.refreshSecret refreshToken = some payload)
    (earlier : payload.iat < seconds clock.signedRefresh) :
    ¬ HoldsToken after payload.sub refreshToken := by
  obtain ⟨payload', accepts, generated⟩ := refreshTokens_eq_ok refreshed
  cases verified.symm.trans accepts.verified
  obtain ⟨lifetime, -, signed⟩ := generated.refresh
  rw [generated.stored]
  intro holds
  rcases holds_of_cacheSet holds with ⟨-, value⟩ | ⟨other, -⟩
  · cases value
    rw [signed, lawful] at verified
    exact earlier.ne' (congrArg JwtPayload.iat (Option.some.inj verified))
  · exact other rfl

/-- Later calls do not bring a token back that was issued before all of them. -/
theorem not_holds_of_run {redis : Redis} {calls : List TokenCall} {refreshToken : String}
    {payload : JwtPayload} (lawful : jwt.Lawful)
    (verified : jwt.verify config.refreshSecret refreshToken = some payload)
    (absent : ¬ HoldsToken redis payload.sub refreshToken)
    (earlier : ∀ now ∈ calls.filterMap TokenCall.signed, payload.iat < seconds now) :
    ¬ HoldsToken ((tokenMachine jwt config db compare).run redis calls) payload.sub
      refreshToken := by
  intro holds
  rcases holds_of_run holds with old | ⟨call, mem, now, exp, issued, signed⟩
  · exact absent old
  · rw [signed, lawful] at verified
    exact (earlier now (List.mem_filterMap.mpr ⟨call, mem, issued⟩)).ne'
      (congrArg JwtPayload.iat (Option.some.inj verified))

/-- A token that a run from an empty cache has left there was issued before the
second that follows the run, unless in that very second. -/
theorem issued_earlier {calls : List TokenCall} {refreshToken : String} {payload : JwtPayload}
    {now : Time} (lawful : jwt.Lawful)
    (verified : jwt.verify config.refreshSecret refreshToken = some payload)
    (holds : HoldsToken ((tokenMachine jwt config db compare).run .empty calls) payload.sub
      refreshToken)
    (ordered : ∀ signed ∈ calls.filterMap TokenCall.signed, signed ≤ now)
    (other : seconds now ≠ payload.iat) : payload.iat < seconds now := by
  rcases holds_of_run holds with initial | ⟨call, mem, signed, exp, issued, signedToken⟩
  · exact absurd initial (Expiring.not_holds_empty _ _)
  · have iat : payload.iat = seconds signed := by
      rw [signedToken, lawful] at verified
      exact (congrArg JwtPayload.iat (Option.some.inj verified)).symm
    have notAfter : signed ≤ now := ordered signed (List.mem_filterMap.mpr ⟨call, mem, issued⟩)
    exact lt_of_le_of_ne (iat ▸ Int.ediv_le_ediv (by decide) notAfter) other.symm

/-- A run from an empty cache in which the clock does not go back between two
signatures, and no refresh of a stored token signs in the second of that token,
rotates: each refresh token is good for one refresh. -/
theorem rotates_once {calls : List TokenCall} (lawful : jwt.Lawful)
    (ordered : (calls.filterMap TokenCall.signed).Pairwise (· ≤ ·))
    (later : ∀ e ∈ (tokenMachine jwt config db compare).history .empty calls,
      SignsLater jwt config e.before e.input) :
    RotatesOnce ((tokenMachine jwt config db compare).history .empty calls) := by
  intro first rest e f refreshToken split mem
  rintro ⟨clock, pair, asked, answered⟩ ⟨clock', pair', asked', answered'⟩
  have stepE : (tokenMachine jwt config db compare).step e.before e.input = (e.after, e.output) :=
    Machine.step_of_mem_history (Machine.mem_of_split split)
  have notSame := later e (Machine.mem_of_split split)
  obtain ⟨early, late, rfl, -, before, rfl⟩ := Machine.history_split split
  have stepF := Machine.step_of_mem_history mem
  obtain ⟨between, rest', hlate⟩ := List.append_of_mem mem
  obtain ⟨between, after, rfl, -, beforeF, -⟩ := Machine.history_split hlate
  rw [asked] at stepE
  rw [asked'] at stepF
  have refreshed := refreshed_of_step stepE answered
  obtain ⟨payload, ⟨verified, -, -, stored⟩, -⟩ := refreshTokens_eq_ok refreshed
  obtain ⟨payload', ⟨verified', -, -, stored'⟩, -⟩ :=
    refreshTokens_eq_ok (refreshed_of_step stepF answered')
  cases verified.symm.trans verified'
  simp only [List.filterMap_append, List.filterMap_cons, asked, asked', TokenCall.signed,
    List.pairwise_append, List.pairwise_cons] at ordered
  rw [asked] at notSame
  have earlier : payload.iat < seconds clock.signedRefresh :=
    issued_earlier lawful verified (before ▸ Expiring.holds_of_get stored)
      (fun signed mem => ordered.2.2 signed mem _ List.mem_cons_self)
      (notSame payload verified stored)
  have absent := replaced_of_step lawful refreshed verified earlier
  refine not_holds_of_run lawful verified absent (fun now mem => ?_)
    (beforeF ▸ Expiring.holds_of_get stored')
  have notBefore : clock.signedRefresh ≤ now :=
    ordered.2.1.1 now (List.mem_append_left _ mem)
  exact lt_of_lt_of_le earlier (Int.ediv_le_ediv (by decide) notBefore)

end Run

/-! ### A refresh in the second of the sign-in -/

/-- A call whose steps all happen at one instant. -/
def Clock.at (now : Time) : Clock := ⟨now, now, now, now, now⟩

/-- A sign-in at the start of the clock, and two refreshes with its token. -/
def twoRefreshes (first second : Time) : List TokenCall :=
  let token := sampleJwt.sign "refresh" ⟨"user", .refresh, 0, 9⟩
  [.signIn "u@x.kr" "pw" (.at 0), .refreshTokens token (.at first),
    .refreshTokens token (.at second)]

/-- A second later, the sign-in's token is replaced. -/
theorem refreshed_a_second_later :
    RotatesOnce ((tokenMachine sampleJwt sampleConfig oneUserStore (fun a b => a = b)).history
      .empty (twoRefreshes 1000 2000)) :=
  rotates_once sampleJwt_lawful (by decide +kernel) (by decide +kernel)

/-- Within the second of the sign-in the new token is the old one, which is
refreshed again. -/
theorem refreshed_twice_in_a_second :
    ¬ ∀ (jwt : Jwt) (config : JwtConfig) (db : Db) (compare : String → String → Bool)
        (calls : List TokenCall), jwt.Lawful →
      (calls.filterMap TokenCall.signed).Pairwise (· ≤ ·) →
      RotatesOnce ((tokenMachine jwt config db compare).history .empty calls) := by
  intro all
  let token := sampleJwt.sign "refresh" ⟨"user", .refresh, 0, 9⟩
  let pair : TokenPair := ⟨sampleJwt.sign "access" ⟨"user", .access, 0, 9⟩, token⟩
  let m := tokenMachine sampleJwt sampleConfig oneUserStore fun a b => a = b
  let signedIn := m.run .empty [.signIn "u@x.kr" "pw" (.at 0)]
  let refreshed := m.run signedIn [.refreshTokens token (.at 500)]
  have first : (m.step signedIn (.refreshTokens token (.at 500))).2 = .ok (some pair) := by
    decide +kernel
  have second : (m.step refreshed (.refreshTokens token (.at 600))).2 = .ok (some pair) := by
    decide +kernel
  have rotates := all sampleJwt sampleConfig oneUserStore (fun a b => a = b) (twoRefreshes 500 600)
    sampleJwt_lawful (by decide +kernel)
  exact rotates [_] [_] _ _ token rfl List.mem_cons_self (refreshed_event first)
    (refreshed_event second)

end CoupangEats
