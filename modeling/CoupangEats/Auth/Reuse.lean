import CoupangEats.Auth.Acceptance

/-!
A refresh token that is used again.

A refresh with a token that is not the stored one is refused, and the refusal
leaves the cache as it is: a token that is stored in its place stays good. So the
reuse stops the sessions of its user exactly when there is nothing to stop, that
is when no live token of the user is stored (`reuse_detected_iff`).
-/

namespace CoupangEats

open CoupangEats.Base

section Reuse

variable (jwt : Jwt) (config : JwtConfig)

/-- The token is a valid refresh token, but not the stored one. -/
structure Reuse (redis : Redis) (clock : Clock) (token : String) (payload : JwtPayload) :
    Prop where
  verified : jwt.verify config.refreshSecret token = some payload
  unexpired : seconds clock.verified < payload.exp
  type : payload.type = .refresh
  replaced : cacheGet redis clock.read (refreshTokenKey payload.sub) ≠ some (.str token)

/-- The event is a sign-in of the user. -/
def SignsIn (e : TokenEvent) (userId : String) : Prop :=
  ∃ email password clock token, e.input = .signIn email password clock ∧
    IssuedTo jwt config e userId token

/-- The event accepts a refresh token of the user. -/
def Renews (e : TokenEvent) (userId : String) : Prop :=
  ∃ token clock pair payload, e.input = .refreshTokens token clock ∧
    e.output = .ok (some pair) ∧ jwt.verify config.refreshSecret token = some payload ∧
    payload.sub = userId

/-- The refresh is refused, and in whatever follows no refresh token of the user
is accepted until the user signs in again. -/
def ReuseDetected (db : Db) (compare : String → String → Bool) (redis : Redis) (clock : Clock)
    (token : String) (payload : JwtPayload) : Prop :=
  let m := tokenMachine jwt config db compare
  let out := m.step redis (.refreshTokens token clock)
  (∃ e, out.2 = .error e) ∧
    ∀ calls : List TokenCall, (∀ call ∈ calls, ∀ t ∈ call.instants, clock.read ≤ t) →
      ∀ first e rest, m.history out.1 calls = first ++ e :: rest →
        (∀ f ∈ first, ¬ SignsIn jwt config f payload.sub) → ¬ Renews jwt config e payload.sub

/-- The user's key holds no token that has not expired. -/
def NoLiveToken (redis : Redis) (now : Time) (userId : String) : Prop :=
  ∀ token payload, cacheGet redis now (refreshTokenKey userId) = some (.str token) →
    jwt.verify config.refreshSecret token = some payload → payload.exp ≤ seconds now

/-- From the time on there is no live token of the user. -/
def Dead (now : Time) (userId : String) (redis : Redis) : Prop :=
  ∀ later, now ≤ later → NoLiveToken jwt config redis later userId

end Reuse

section Run

variable {jwt : Jwt} {config : JwtConfig} {db : Db} {compare : String → String → Bool}
  {redis after : Redis} {userId token : String} {now : Time}

/-! ### No live token -/

/-- Time brings no token to life. -/
theorem dead_of_noLiveToken (none : NoLiveToken jwt config redis now userId) :
    Dead jwt config now userId redis := by
  intro later order token payload stored verified
  have expired := none token payload (Expiring.get_earlier order stored) verified
  exact expired.trans (Int.ediv_le_ediv (by decide) order)

theorem Dead.same (dead : Dead jwt config now userId redis)
    (entry : after (refreshTokenKey userId) = redis (refreshTokenKey userId)) :
    Dead jwt config now userId after := by
  intro later order token payload stored
  rw [cacheGet, Expiring.get_congr entry] at stored
  exact dead later order token payload stored

/-- Where there is no live token, none of the user's is accepted. -/
theorem Dead.not_accepts (dead : Dead jwt config now userId redis) {clock : Clock}
    {payload : JwtPayload} (owner : payload.sub = userId) (verified : now ≤ clock.verified)
    (read : now ≤ clock.read) : ¬ Accepts jwt config redis clock token payload := by
  intro accepts
  -- The token is stored and unexpired at the earlier of the two instants.
  have stored := Expiring.get_earlier (min_le_right clock.verified clock.read) accepts.stored
  rw [owner] at stored
  have expired := dead _ (le_min verified read) token payload stored accepts.verified
  have early : seconds (min clock.verified clock.read) ≤ seconds clock.verified :=
    Int.ediv_le_ediv (by decide) (min_le_left _ _)
  exact absurd accepts.unexpired (Int.not_lt.mpr (expired.trans early))

/-- A refresh token is issued to a user at a sign-in of the user, or for another
refresh token of the user. -/
theorem signsIn_or_renews (lawful : jwt.Lawful) {e : TokenEvent}
    (step : (tokenMachine jwt config db compare).step e.before e.input = (e.after, e.output))
    (issued : IssuedTo jwt config e userId token) :
    SignsIn jwt config e userId ∨ Renews jwt config e userId := by
  obtain ⟨pair, -, output, -⟩ := id issued
  cases input : e.input with
  | signIn email password clock => exact .inl ⟨email, password, clock, token, input, issued⟩
  | refreshTokens token' clock =>
      rw [input] at step
      obtain ⟨payload, accepts, generated⟩ := refreshTokens_eq_ok (refreshed_of_step step output)
      obtain ⟨owner, -⟩ := (issuedTo_of_generated lawful generated output).mp issued
      exact .inr ⟨token', clock, pair, payload, input, output, accepts.verified, owner.symm⟩
  | signOut owner accessToken now =>
      rw [input, output] at step
      simp [tokenMachine] at step

/-- A later call that is not a sign-in of the user neither accepts a token of the
user nor brings one to life. -/
theorem Dead.step (lawful : jwt.Lawful) {e : TokenEvent}
    (step : (tokenMachine jwt config db compare).step e.before e.input = (e.after, e.output))
    (later : ∀ t ∈ e.input.instants, now ≤ t) (dead : Dead jwt config now userId e.before) :
    ¬ Renews jwt config e userId ∧
      (¬ SignsIn jwt config e userId → Dead jwt config now userId e.after) := by
  have notRenewed : ¬ Renews jwt config e userId := by
    rintro ⟨token, clock, pair, payload, input, output, verified, owner⟩
    rw [input] at step later
    obtain ⟨payload', accepts, -⟩ := refreshTokens_eq_ok (refreshed_of_step step output)
    cases verified.symm.trans accepts.verified
    exact dead.not_accepts owner (later _ (by simp [TokenCall.instants, Clock.instants]))
      (later _ (by simp [TokenCall.instants, Clock.instants])) accepts
  refine ⟨notRenewed, ?_⟩
  intro notSignedIn
  have notIssued : ∀ token, ¬ IssuedTo jwt config e userId token := fun token issued =>
    (signsIn_or_renews lawful step issued).elim notSignedIn notRenewed
  obtain ⟨before, input, output, after⟩ := e
  have outcome : CallOutcome jwt config before input after output := outcome_of_step step
  cases outcome with
  | @issued _ _ owner pair _ _ _ generated =>
      have other : userId ≠ owner := fun same =>
        notIssued _ ((issuedTo_of_generated lawful generated rfl).mpr ⟨same, rfl⟩)
      apply dead.same
      rw [generated.stored]
      exact cacheSet_of_ne fun same => other (refreshTokenKey_inj same)
  | signedOut owner accessToken now =>
      have entry :
          revokeAllUserTokens config before now owner accessToken (refreshTokenKey userId) =
            revokeRefreshToken before owner (refreshTokenKey userId) :=
        cacheSet_of_ne (blacklistKey_ne_refreshTokenKey accessToken userId).symm
      by_cases same : userId = owner
      · intro later order token payload stored
        subst same
        rw [cacheGet, Expiring.get_congr entry] at stored
        exact absurd (Expiring.holds_of_get stored) Expiring.not_holds_del
      · have untouched : revokeRefreshToken before owner (refreshTokenKey userId) =
            before (refreshTokenKey userId) :=
          Expiring.del_of_ne fun key => same (refreshTokenKey_inj key)
        exact dead.same (entry.trans untouched)
  | refused => exact dead.same rfl

/-! ### A live token -/

/-- Once the service has issued a pair, it issues one whenever it is asked to. -/
theorem generates_of_issued {e : TokenEvent}
    (step : (tokenMachine jwt config db compare).step e.before e.input = (e.after, e.output))
    (issued : IssuedTo jwt config e userId token) (redis : Redis) (clock : Clock)
    (owner : String) :
    ∃ pair after, generateTokenPair jwt config redis clock owner = (.ok pair, after) := by
  obtain ⟨pair, -, output, -⟩ := issued
  rw [output] at step
  generalize e.input = input, e.after = after at step
  cases outcome_of_step step with
  | issued _ _ generated =>
      obtain ⟨⟨_, access, -⟩, ⟨_, refresh, -⟩, -⟩ := generated
      exact ⟨⟨_, _⟩, _, generateTokenPair_eq_ok.mpr ⟨⟨_, access, rfl⟩, ⟨_, refresh, rfl⟩, rfl⟩⟩

/-- A live token that a run has left for a user is accepted. -/
theorem renews_of_live {calls : List TokenCall} {payload : JwtPayload} (lawful : jwt.Lawful)
    (stored : cacheGet ((tokenMachine jwt config db compare).run .empty calls) now
      (refreshTokenKey userId) = some (.str token))
    (verified : jwt.verify config.refreshSecret token = some payload)
    (live : seconds now < payload.exp) :
    let m := tokenMachine jwt config db compare
    Renews jwt config (m.event (m.run .empty calls) (.refreshTokens token (.at now))) userId := by
  intro m
  obtain ⟨first, e, later, split, issued, -⟩ :=
    mostRecent_of_run lawful (Expiring.holds_of_get stored)
  obtain ⟨_, payload', -, -, verified', type, owner⟩ := id issued
  cases verified.symm.trans verified'
  have accepts : Accepts jwt config (m.run .empty calls) (.at now) token payload :=
    ⟨verified, live, type, by rw [owner]; exact stored⟩
  obtain ⟨pair, after, generated⟩ := generates_of_issued
    (Machine.step_of_mem_history (Machine.mem_of_split split)) issued (m.run .empty calls)
    (.at now) payload.sub
  refine ⟨token, .at now, pair, payload, rfl, ?_, verified, owner⟩
  change (refreshTokens jwt config (m.run .empty calls) (.at now) token).1.map some = _
  rw [refreshTokens_of_accepts accepts, generated]
  rfl

/-! ### The refusal -/

/-- A reuse is refused, and changes nothing. -/
theorem reuse_refused {clock : Clock} {payload : JwtPayload}
    (reuse : Reuse jwt config redis clock token payload) :
    ∃ e, (tokenMachine jwt config db compare).step redis (.refreshTokens token clock) =
      (redis, .error e) := by
  rcases refreshTokens_cases jwt config redis clock token with
    ⟨e, refused⟩ | ⟨payload', accepts, -⟩
  · refine ⟨e, ?_⟩
    simp only [tokenMachine, refused]
    rfl
  · cases reuse.verified.symm.trans accepts.verified
    exact absurd accepts.stored reuse.replaced

/-- After a run from an empty cache, a reuse stops its user's refreshes exactly
when no live token of the user is stored. -/
theorem reuse_detected_iff {calls : List TokenCall} {clock : Clock} {payload : JwtPayload}
    (lawful : jwt.Lawful)
    (reuse : Reuse jwt config ((tokenMachine jwt config db compare).run .empty calls) clock token
      payload) :
    ReuseDetected jwt config db compare ((tokenMachine jwt config db compare).run .empty calls)
        clock token payload ↔
      NoLiveToken jwt config ((tokenMachine jwt config db compare).run .empty calls) clock.read
        payload.sub := by
  obtain ⟨e, refused⟩ : ∃ e, (tokenMachine jwt config db compare).step _
      (.refreshTokens token clock) = (_, .error e) := reuse_refused reuse
  simp only [ReuseDetected, refused]
  constructor
  · rintro ⟨-, stopped⟩ token' payload' stored verified
    by_contra alive
    refine stopped [.refreshTokens token' (.at clock.read)] ?_ [] _ [] rfl (by simp) ?_
    · simp [TokenCall.instants, Clock.instants, Clock.at]
    · exact renews_of_live lawful stored verified (Int.not_le.mp alive)
  · intro none
    refine ⟨⟨e, rfl⟩, ?_⟩
    intro late later first f rest split notSignedIn
    have step := Machine.step_of_mem_history (Machine.mem_of_split split)
    obtain ⟨early, behind, rfl, rfl, before, -⟩ := Machine.history_split split
    obtain ⟨dead, -⟩ := Machine.history_invariant (Dead jwt config clock.read payload.sub)
      (fun f => (∀ t ∈ f.input.instants, clock.read ≤ t) ∧ ¬ SignsIn jwt config f payload.sub)
      (fun f step permitted dead => (dead.step lawful step permitted.1).2 permitted.2)
      (dead_of_noLiveToken none)
      (fun f mem => ⟨later f.input (List.mem_append_left _ (Machine.input_mem mem)),
        notSignedIn f mem⟩)
    rw [← before] at dead
    exact (dead.step lawful step (later f.input (by simp))).1

end Run

/-- A token that has been rotated is used again, and the token in its place is
refreshed all the same. -/
theorem rotated_token_reused :
    ¬ ∀ (jwt : Jwt) (config : JwtConfig) (db : Db) (compare : String → String → Bool)
        (calls : List TokenCall) (clock : Clock) (token : String) (payload : JwtPayload),
      jwt.Lawful →
      Reuse jwt config ((tokenMachine jwt config db compare).run .empty calls) clock token payload →
      ReuseDetected jwt config db compare ((tokenMachine jwt config db compare).run .empty calls)
        clock token payload := by
  intro all
  let first := sampleJwt.sign "refresh" ⟨"user", .refresh, 0, 9⟩
  let second := sampleJwt.sign "refresh" ⟨"user", .refresh, 1, 10⟩
  let m := tokenMachine sampleJwt sampleConfig oneUserStore fun a b => a = b
  let calls : List TokenCall := [.signIn "u@x.kr" "pw" (.at 0), .refreshTokens first (.at 1000)]
  have reuse : Reuse sampleJwt sampleConfig (m.run .empty calls) (.at 2000) first
      ⟨"user", .refresh, 0, 9⟩ :=
    ⟨sampleJwt_lawful _ _, by decide, rfl, by decide +kernel⟩
  obtain ⟨-, stopped⟩ := all _ _ _ _ _ _ _ _ sampleJwt_lawful reuse
  refine stopped [.refreshTokens second (.at 3000)] ?_ [] _ [] rfl (by simp) ?_
  · simp [TokenCall.instants, Clock.instants, Clock.at]
  · refine ⟨second, .at 3000, ⟨sampleJwt.sign "access" ⟨"user", .access, 3, 12⟩,
      sampleJwt.sign "refresh" ⟨"user", .refresh, 3, 12⟩⟩, _, rfl, ?_, sampleJwt_lawful _ _, rfl⟩
    decide +kernel

/-- After a sign-out there is nothing to stop. -/
theorem reuse_after_sign_out :
    let m := tokenMachine sampleJwt sampleConfig oneUserStore fun a b => a = b
    let calls : List TokenCall := [.signIn "u@x.kr" "pw" (.at 0), .signOut "user" "" 1000]
    ReuseDetected sampleJwt sampleConfig oneUserStore (fun a b => a = b) (m.run .empty calls)
      (.at 2000) (sampleJwt.sign "refresh" ⟨"user", .refresh, 0, 9⟩)
      ⟨"user", .refresh, 0, 9⟩ := by
  intro m calls
  have gone : cacheGet (m.run .empty calls) 2000 (refreshTokenKey "user") = none := by
    decide +kernel
  have reuse : Reuse sampleJwt sampleConfig (m.run .empty calls) (.at 2000)
      (sampleJwt.sign "refresh" ⟨"user", .refresh, 0, 9⟩) ⟨"user", .refresh, 0, 9⟩ :=
    ⟨sampleJwt_lawful _ _, by decide, rfl, by decide +kernel⟩
  apply (reuse_detected_iff sampleJwt_lawful reuse).mpr
  intro token payload stored
  have absent : cacheGet (m.run .empty calls) 2000 (refreshTokenKey "user") = some (.str token) :=
    stored
  rw [gone] at absent
  cases absent

end CoupangEats
