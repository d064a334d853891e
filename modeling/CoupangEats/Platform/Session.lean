import CoupangEats.Platform.Cache

/-!
How long a browser stays signed in.

A browser keeps the refresh token that it was given in a cookie for seven days, sends
it to have its tokens renewed, and is then given another one. When it asks each time
before the token, its entry in the cache and the cookie are over, every renewal
succeeds from the sign-in on, whatever the other requests to the server are
(`session_lasts`). What ends a session is an answer that is lost, a sign-out, or
tokens that the user is given elsewhere.
-/

namespace CoupangEats

open CoupangEats.Base

/-! ### The browser -/

/-- The cookie of the refresh token, and when it was set. -/
structure RefreshCookie where
  value : String
  setAt : Time

/-- The `maxAge` of the cookie. -/
def refreshCookieMaxAge : Time := 7 * 24 * 60 * 60 * 1000

/-- A browser, and when it has sent the request that got it its tokens. -/
structure Browser where
  cookie : Option RefreshCookie
  renewed : Time

/-- The cookie that goes with a request. -/
def Browser.sends (browser : Browser) (now : Time) : Option String :=
  (browser.cookie.filter fun cookie => now < cookie.setAt + refreshCookieMaxAge).map
    RefreshCookie.value

/-- What the browser asks of the server, and when it gets the answer if it gets one, or
what others ask. -/
inductive BrowserInput where
  | signIn (email password : String) (sent : Time) (clock : Clock) (received : Option Time)
  | refresh (sent guarded : Time) (clock : Clock) (received : Option Time)
  | signOut (now : Time) (authHeader : Option String) (revoked : Time) (received : Option Time)
  | other (call : ServerCall)

def BrowserInput.call (browser : Browser) : BrowserInput → ServerCall
  | .signIn email password _ clock _ => .signIn email password clock
  | .refresh sent guarded clock _ => .refresh guarded clock (browser.sends sent)
  | .signOut now authHeader revoked _ => .member now authHeader (.signOut revoked)
  | .other call => call

/-- `setRefreshTokenCookie`, when the answer arrives. -/
def Browser.setRefreshTokenCookie (browser : Browser) (sent : Time) (received : Option Time)
    (reply : ServerReply) : Browser :=
  match received, reply.result with
  | some now, .ok (.tokens pair) => ⟨some ⟨pair.refreshToken, now⟩, sent⟩
  | _, _ => browser

/-- `clearRefreshTokenCookie`, when the answer arrives. -/
def Browser.clearRefreshTokenCookie (browser : Browser) (received : Option Time)
    (reply : ServerReply) : Browser :=
  match received, reply.result with
  | some _, .ok _ => { browser with cookie := none }
  | _, _ => browser

def Browser.receive (browser : Browser) (reply : ServerReply) : BrowserInput → Browser
  | .signIn _ _ sent _ received => browser.setRefreshTokenCookie sent received reply
  | .refresh sent _ _ received => browser.setRefreshTokenCookie sent received reply
  | .signOut _ _ _ received => browser.clearRefreshTokenCookie received reply
  | .other _ => browser

/-- A browser on the server, among others. -/
def browsing (deployment : Deployment) :
    Machine (ServerState × Browser) BrowserInput ServerReply where
  step s input :=
    let out := (server deployment).step s.1 (input.call s.2)
    ((out.1, s.2.receive out.2 input), out.2)

abbrev BrowserEvent := Event (ServerState × Browser) BrowserInput ServerReply

/-! ### What other requests leave alone -/

section Entry

variable {deployment : Deployment} {s : ServerState} {userId : String}

/-- The call gives the user tokens, or it is the user's sign-out. -/
def Replaces (deployment : Deployment) (userId : String) (s : ServerState) (call : ServerCall) :
    Prop :=
  (∃ pair payload, ((server deployment).step s call).2.result = .ok (.tokens pair) ∧
      deployment.jwt.verify deployment.config.refreshSecret pair.refreshToken = some payload ∧
      payload.sub = userId) ∨
    ∃ now authHeader revoked user, call = .member now authHeader (.signOut revoked) ∧
      admitMember deployment s now authHeader (.signOut revoked) = .ok user ∧ user.id = userId

/-- The key of a user's refresh token is touched by nothing else. -/
theorem replaces_of_touches {call : ServerCall}
    (touches : Touches deployment s call (refreshTokenKey userId)) :
    Replaces deployment userId s call := by
  generalize same : refreshTokenKey userId = key at touches
  cases touches with
  | signedUp => exact absurd same.symm (verifyKey_ne_refreshTokenKey _ _)
  | verified => exact absurd same.symm (verifyKey_ne_refreshTokenKey _ _)
  | issued answered verified =>
      exact .inl ⟨_, _, answered, verified, (refreshTokenKey_inj same).symm⟩
  | signedOut admitted =>
      exact .inr ⟨_, _, _, _, rfl, admitted, (refreshTokenKey_inj same).symm⟩
  | blacklisted => exact absurd same.symm (blacklistKey_ne_refreshTokenKey _ _)
  | profile => exact absurd same.symm (userKey_ne_refreshTokenKey _ _)

/-- A call that neither gives the user tokens nor signs the user out leaves the refresh
token of the user alone. -/
theorem entry_of_step {call : ServerCall} (stays : ¬ Replaces deployment userId s call)
    (lawful : deployment.jwt.Lawful) :
    ((server deployment).step s call).1.redis (refreshTokenKey userId) =
      s.redis (refreshTokenKey userId) :=
  cache_frame lawful fun touches => stays (replaces_of_touches touches)

end Entry

/-! ### Renewals -/

/-- Tokens, their entry in the cache and the cookie all last longer than the gap between
two renewals, and no token is empty. -/
structure Renewable (deployment : Deployment) (gap : Int) : Prop where
  access : (deployment.jwt.lifetime deployment.config.accessExpiration).isSome
  refresh : ∃ lifetime,
    deployment.jwt.lifetime deployment.config.refreshExpiration = some lifetime ∧
      gap + 1000 ≤ lifetime * 1000
  stored : ∀ ttl, parseExpirationToSeconds deployment.config.refreshExpiration = some ttl →
    ttl ≠ 0 → 0 < ttl ∧ gap ≤ ttl * 1000
  cookie : gap < refreshCookieMaxAge
  token : ∀ secret payload, deployment.jwt.sign secret payload ≠ ""

/-- The browser has the refresh token that the cache has of the user, and both the token
and its entry last until the next renewal is due. -/
structure InSession (deployment : Deployment) (gap : Int) (userId : String) (redis : Redis)
    (renewed : Time) (cookie : RefreshCookie) (payload : JwtPayload) : Prop where
  set : renewed ≤ cookie.setAt
  nonempty : cookie.value ≠ ""
  verified : deployment.jwt.verify deployment.config.refreshSecret cookie.value = some payload
  type : payload.type = .refresh
  sub : payload.sub = userId
  unexpired : ∀ now ≤ renewed + gap, seconds now < payload.exp
  stored : ∀ now ≤ renewed + gap,
    cacheGet redis now (refreshTokenKey userId) = some (.str cookie.value)

def SignedIn (deployment : Deployment) (gap : Int) (userId : String)
    (s : ServerState × Browser) : Prop :=
  ∃ cookie payload, s.2.cookie = some cookie ∧
    InSession deployment gap userId s.1.redis s.2.renewed cookie payload

section Renewal

variable {deployment : Deployment} {gap : Int} {userId : String} {redis after : Redis}
  {renewed sent guarded received : Time} {cookie : RefreshCookie} {payload : JwtPayload}
  {clock : Clock} {pair : TokenPair}

/-- Tokens that arrive begin a session. -/
theorem inSession_of_generated (renewable : Renewable deployment gap)
    (lawful : deployment.jwt.Lawful)
    (generated : Generated deployment.jwt deployment.config redis clock userId pair after)
    (signed : sent ≤ clock.signedRefresh) (stored : sent ≤ clock.stored)
    (arrives : sent ≤ received) :
    ∃ payload,
      InSession deployment gap userId after sent ⟨pair.refreshToken, received⟩ payload := by
  obtain ⟨lifetime, lasts, token⟩ := generated.refresh
  obtain ⟨_, same, long⟩ := renewable.refresh
  rw [lasts, Option.some.injEq] at same
  subst same
  refine ⟨_, ⟨arrives, ?_, token ▸ lawful _ _, rfl, rfl, fun now early => ?_, fun now early => ?_⟩⟩
  · rw [token]
    exact renewable.token _ _
  · simp only [seconds]
    unfold Time at *
    omega
  · rw [generated.stored]
    refine cacheGet_cacheSet fun ttl parsed timed => ?_
    obtain ⟨positive, lives⟩ := renewable.stored ttl parsed timed
    refine ⟨positive, ?_⟩
    unfold Time at *
    omega

/-- A renewal in time succeeds. -/
theorem InSession.refresh (renewable : Renewable deployment gap)
    (session : InSession deployment gap userId redis renewed cookie payload)
    (passes : guarded ≤ renewed + gap) (verifies : clock.verified ≤ renewed + gap)
    (reads : clock.read ≤ renewed + gap) :
    ∃ pair after, refresh deployment.jwt deployment.config redis guarded clock
        (some cookie.value) = (.ok pair, after) ∧
      Generated deployment.jwt deployment.config redis clock userId pair after := by
  have guard : refreshTokenGuard deployment.jwt deployment.config guarded (some cookie.value) =
      .ok cookie.value := by
    have live := session.unexpired guarded passes
    simp only [refreshTokenGuard, session.nonempty, session.verified, session.type, if_false,
      ne_eq, not_true_eq_false]
    rw [if_neg (by omega)]
  have verified : verifyRefreshToken deployment.jwt deployment.config redis clock cookie.value =
      .ok ⟨payload, false⟩ := by
    have live := session.unexpired clock.verified verifies
    have token : verifyToken deployment.jwt deployment.config.refreshSecret .refresh
        clock.verified cookie.value = .ok ⟨payload, false⟩ := by
      simp only [verifyToken, session.verified, session.type, ne_eq, not_true_eq_false, if_false]
      rw [if_neg (by omega)]
    simp [verifyRefreshToken, token, session.sub, session.stored clock.read reads]
  obtain ⟨lifetime, access⟩ := Option.isSome_iff_exists.mp renewable.access
  obtain ⟨lifetime', refresh, -⟩ := renewable.refresh
  rcases generateTokenPair_cases deployment.jwt deployment.config redis clock userId with
    ⟨e, failed⟩ | ⟨pair, after, answered, generated⟩
  · simp [generateTokenPair, generateAccessToken, access, generateRefreshToken, refresh] at failed
  · refine ⟨pair, after, ?_, generated⟩
    simp only [CoupangEats.refresh, guard, refreshTokens, verified, Bool.false_eq_true, if_false,
      session.sub, answered]

/-- A browser that renews in time sends its cookie. -/
theorem InSession.sends (renewable : Renewable deployment gap) {browser : Browser}
    (session : InSession deployment gap userId redis browser.renewed cookie payload)
    (kept : browser.cookie = some cookie) (early : sent ≤ browser.renewed + gap) :
    browser.sends sent = some cookie.value := by
  have live : sent < cookie.setAt + refreshCookieMaxAge := by
    have set := session.set
    have long := renewable.cookie
    unfold Time at *
    omega
  rw [Browser.sends, kept]
  simp [live]

end Renewal

/-! ### Runs -/

/-- The instants of a request for tokens that is answered: nothing happens before it is
sent. -/
structure Answered (sent : Time) (clock : Clock) (received : Option Time) : Prop where
  signed : sent ≤ clock.signedRefresh
  stored : sent ≤ clock.stored
  received : ∃ now, received = some now ∧ sent ≤ now

/-- The request for a renewal is handled before the gap is over. -/
structure Prompt (last sent guarded : Time) (clock : Clock) : Prop where
  sent : sent ≤ last
  guarded : guarded ≤ last
  verified : clock.verified ≤ last
  read : clock.read ≤ last

/-- The browser signs the user in. -/
def BeginsSession (deployment : Deployment) (userId : String) (e : BrowserEvent) : Prop :=
  ∃ email password sent clock received pair user,
    e.input = .signIn email password sent clock received ∧ Answered sent clock received ∧
      e.output.result = .ok (.tokens pair) ∧
      validateUser e.before.1.db deployment.compare email password = some user ∧
      user.id = userId

/-- What does not end a session: prompt renewals, what the server refuses, and what others
do without tokens for the user. -/
def KeepsSession (deployment : Deployment) (gap : Int) (userId : String) (e : BrowserEvent) :
    Prop :=
  match e.input with
  | .refresh sent guarded clock received =>
      Prompt (e.before.2.renewed + gap) sent guarded clock ∧ Answered sent clock received
  | .signIn _ _ _ _ _ => ∃ error, e.output.result = .error error
  | .signOut _ _ _ _ => ∃ error, e.output.result = .error error
  | .other call => ¬ Replaces deployment userId e.before.1 call

/-- The browser is given an access token of the user. -/
def Renewed (deployment : Deployment) (userId : String) (e : BrowserEvent) : Prop :=
  ∃ pair claims, e.output.result = .ok (.tokens pair) ∧
    deployment.jwt.verify deployment.config.accessSecret pair.accessToken = some claims ∧
    claims.type = .access ∧ claims.sub = userId

section Runs

variable {deployment : Deployment} {gap : Int} {userId : String}

theorem signedIn_of_begins (renewable : Renewable deployment gap)
    (lawful : deployment.jwt.Lawful) {e : BrowserEvent}
    (step : (browsing deployment).step e.before e.input = (e.after, e.output))
    (begins : BeginsSession deployment userId e) : SignedIn deployment gap userId e.after := by
  obtain ⟨⟨s, browser⟩, input, output, after⟩ := e
  obtain ⟨email, password, sent, clock, received, pair, user, rfl, answered, given, valid, rfl⟩ :=
    begins
  obtain ⟨now, rfl, arrives⟩ := answered.received
  obtain rfl : after = ((browsing deployment).step (s, browser)
    (.signIn email password sent clock (some now))).1 := (congrArg Prod.fst step).symm
  obtain rfl : output = ((browsing deployment).step (s, browser)
    (.signIn email password sent clock (some now))).2 := (congrArg Prod.snd step).symm
  simp only [browsing, BrowserInput.call, server] at given
  rcases signIn_outcome deployment s.db s.redis email password clock with
    ⟨e, refused⟩ | ⟨pair', after, user', out, valid', generated⟩
  · rw [refused] at given
    cases given
  · rw [show validateUser s.db _ _ _ = _ from valid, Option.some.injEq] at valid'
    subst valid'
    obtain ⟨payload, session⟩ := inSession_of_generated renewable lawful generated
      answered.signed answered.stored arrives
    refine ⟨⟨pair'.refreshToken, now⟩, payload, ?_, ?_⟩
    · simp [browsing, BrowserInput.call, server, out, Browser.receive,
        Browser.setRefreshTokenCookie, Except.map]
    · simpa [browsing, BrowserInput.call, server, out, Browser.receive,
        Browser.setRefreshTokenCookie, Except.map] using session

/-- A call that leaves the entry of the user and the cookie alone. -/
theorem SignedIn.idle {s s' : ServerState} {browser : Browser}
    (signedIn : SignedIn deployment gap userId (s, browser))
    (same : s'.redis (refreshTokenKey userId) = s.redis (refreshTokenKey userId)) :
    SignedIn deployment gap userId (s', browser) := by
  obtain ⟨cookie, payload, kept, session⟩ := signedIn
  refine ⟨cookie, payload, kept, { session with stored := fun now early => ?_ }⟩
  rw [← session.stored now early]
  exact Expiring.get_congr same now

/-- A request that is refused. -/
theorem SignedIn.refused (lawful : deployment.jwt.Lawful) {s : ServerState} {browser : Browser}
    {input : BrowserInput} {error : ApiError}
    (signedIn : SignedIn deployment gap userId (s, browser))
    (refused : ((browsing deployment).step (s, browser) input).2.result = .error error) :
    SignedIn deployment gap userId ((browsing deployment).step (s, browser) input).1 := by
  have kept : browser.receive ((browsing deployment).step (s, browser) input).2 input =
      browser := by
    cases input <;> simp [Browser.receive, Browser.setRefreshTokenCookie,
      Browser.clearRefreshTokenCookie, refused]
  have stays : ¬ Replaces deployment userId s (input.call browser) := by
    rintro (⟨pair, payload, given, -⟩ | ⟨now, authHeader, revoked, user, signOut, admitted, -⟩)
    · rw [show ((server deployment).step s (input.call browser)).2.result = _ from refused] at given
      cases given
    · simp only [browsing, signOut, server, admitted, serveMember] at refused
      cases refused
  have after : ((browsing deployment).step (s, browser) input).1 =
      (((server deployment).step s (input.call browser)).1, browser) := Prod.ext rfl kept
  rw [after]
  exact signedIn.idle (entry_of_step stays lawful)

theorem SignedIn.step (renewable : Renewable deployment gap) (lawful : deployment.jwt.Lawful)
    {e : BrowserEvent} (step : (browsing deployment).step e.before e.input = (e.after, e.output))
    (keeps : KeepsSession deployment gap userId e)
    (signedIn : SignedIn deployment gap userId e.before) :
    SignedIn deployment gap userId e.after ∧
      ∀ sent guarded clock received, e.input = .refresh sent guarded clock received →
        Renewed deployment userId e := by
  obtain ⟨⟨s, browser⟩, input, output, after⟩ := e
  obtain rfl : after = ((browsing deployment).step (s, browser) input).1 :=
    (congrArg Prod.fst step).symm
  obtain rfl : output = ((browsing deployment).step (s, browser) input).2 :=
    (congrArg Prod.snd step).symm
  cases input with
  | signIn email password sent clock received =>
      obtain ⟨error, refused⟩ := keeps
      exact ⟨signedIn.refused lawful refused, by simp⟩
  | signOut now authHeader revoked received =>
      obtain ⟨error, refused⟩ := keeps
      exact ⟨signedIn.refused lawful refused, by simp⟩
  | other call =>
      exact ⟨signedIn.idle (entry_of_step keeps lawful), by simp⟩
  | refresh sent guarded clock received =>
      obtain ⟨prompt, answered⟩ := keeps
      obtain ⟨now, rfl, arrives⟩ := answered.received
      obtain ⟨cookie, payload, kept, session⟩ := signedIn
      have sends := session.sends renewable kept prompt.sent
      obtain ⟨pair, after, out, generated⟩ :=
        session.refresh renewable prompt.guarded prompt.verified prompt.read
      obtain ⟨payload', next⟩ := inSession_of_generated renewable lawful generated
        answered.signed answered.stored arrives
      obtain ⟨claims, verified, type, sub⟩ := generated.access_claims lawful
      simp only at sends
      refine ⟨⟨⟨pair.refreshToken, now⟩, payload', ?_, ?_⟩, fun _ _ _ _ _ =>
        ⟨pair, claims, ?_, verified, type, sub⟩⟩
      · simp [browsing, BrowserInput.call, server, sends, out, Browser.receive,
          Browser.setRefreshTokenCookie, Except.map]
      · simpa [browsing, BrowserInput.call, server, sends, out, Browser.receive,
          Browser.setRefreshTokenCookie, Except.map] using next
      · simp [browsing, BrowserInput.call, server, sends, out, Except.map]

/-- However the requests of a browser and of others interleave behind its sign-in: while
its renewals are prompt and answered, it signs in and out no more and nobody else is
given tokens of the user or signs the user out, every one of its renewals gives it an
access token of the user. -/
theorem session_lasts (renewable : Renewable deployment gap) (lawful : deployment.jwt.Lawful)
    {s : ServerState × Browser} {inputs : List BrowserInput} {first rest : List BrowserEvent}
    {e : BrowserEvent} (split : (browsing deployment).history s inputs = first ++ e :: rest)
    (begins : BeginsSession deployment userId e)
    (keeps : ∀ f ∈ rest, KeepsSession deployment gap userId f) :
    ∀ f ∈ rest, ∀ sent guarded clock received, f.input = .refresh sent guarded clock received →
      Renewed deployment userId f := by
  intro f mem
  have signedIn := signedIn_of_begins renewable lawful
    (Machine.step_of_mem_history (Machine.mem_of_split split)) begins
  have before := Machine.history_after (SignedIn deployment gap userId)
    (KeepsSession deployment gap userId)
    (fun _ step kept signedIn => (signedIn.step renewable lawful step kept).1) split signedIn keeps
  have later : f ∈ (browsing deployment).history s inputs := by
    rw [split]
    exact List.mem_append_right _ (List.mem_cons_of_mem _ mem)
  exact ((before f mem).step renewable lawful (Machine.step_of_mem_history later)
    (keeps f mem)).2

end Runs

/-! ### A session of the owner -/

theorem sampleDeployment_renewable : Renewable sampleDeployment 8000 := by
  constructor
  case access => rfl
  case refresh => exact ⟨9, rfl, by decide⟩
  case cookie => decide
  case stored =>
    intro ttl parsed _
    rw [show parseExpirationToSeconds sampleDeployment.config.refreshExpiration = some 9 by
      decide +kernel, Option.some.injEq] at parsed
    omega
  case token =>
    intro secret payload empty
    have chars := congrArg String.toList empty
    simp [sampleDeployment, sampleJwt, encodeToken] at chars

/-- The owner signs in and renews the tokens twice; the guest tries to sign in. -/
def ownersSession : List BrowserInput :=
  [.signIn "o@x.kr" "passw0rd!" 0 (.at 0) (some 100),
    .other (.signIn "g@x.kr" "passw0rd?" (.at 3000)),
    .refresh 6000 6000 (.at 6000) (some 6100),
    .refresh 13000 13000 (.at 13000) (some 13100)]

/-- The second renewal succeeds when the tokens of the sign-in are over. -/
theorem owner_stays_signed_in :
    Renewed sampleDeployment "owner" ((browsing sampleDeployment).event
      ((browsing sampleDeployment).run (guestStore, ⟨none, 0⟩) (ownersSession.take 3))
      (.refresh 13000 13000 (.at 13000) (some 13100))) := by
  refine @session_lasts sampleDeployment 8000 "owner" sampleDeployment_renewable sampleJwt_lawful
    (guestStore, ⟨none, 0⟩) ownersSession [] _ _ rfl ?_ ?_ _
    (List.mem_cons_of_mem _ (List.mem_cons_of_mem _ List.mem_cons_self)) 13000 13000 _ _ rfl
  · exact ⟨_, _, 0, _, _, _, _, rfl, ⟨by decide, by decide, 100, rfl, by decide⟩, rfl, rfl, rfl⟩
  · intro f mem
    rcases List.mem_cons.mp mem with rfl | mem
    · -- The address of the guest is not verified.
      rintro (⟨pair, payload, given, -⟩ | ⟨now, authHeader, revoked, user, signOut, -⟩)
      · cases given
      · cases signOut
    rcases List.mem_cons.mp mem with rfl | mem
    · exact ⟨⟨by decide, by decide, by decide, by decide⟩,
        ⟨by decide, by decide, 6100, rfl, by decide⟩⟩
    rcases List.mem_cons.mp mem with rfl | mem
    · refine ⟨⟨?_, ?_, ?_, ?_⟩, ⟨by decide, by decide, 13100, rfl, by decide⟩⟩ <;> decide +kernel
    · cases mem

end CoupangEats
