import CoupangEats.Auth.EmailGate
import CoupangEats.Platform.Integrity

/-!
Who acts on the server.

A request is made in the name of the user of its access token, and tokens are given
to whoever signs in or brings the refresh token that the cache has of a user. As long
as the access tokens that arrive are ones that the server has given out, each user in
whose name a request is admitted has signed in before (`admitted_signed_in`). What
belongs to a user who never signs in stays as it is, but for the progress of the
orders that others work on (`nothing_without_sign_in`).
-/

namespace CoupangEats

open CoupangEats.Base

/-! ### Sign-ins and tokens -/

section Tokens

variable (deployment : Deployment)

/-- The call signs the user in, with the password of a live account. -/
def SignsInAs (e : ServerEvent) (userId : String) : Prop :=
  ∃ email password clock pair user, e.input = .signIn email password clock ∧
    e.output.result = .ok (.tokens pair) ∧
    validateUser e.before.db deployment.compare email password = some user ∧ user.id = userId

/-- Some earlier call has signed the user in. -/
def SignedInBefore (past : List ServerEvent) (userId : String) : Prop :=
  ∃ e ∈ past, SignsInAs deployment e userId

/-- The access token was given out. -/
def GivenOut (past : List ServerEvent) (token : String) : Prop :=
  ∃ e ∈ past, ∃ pair, e.output.result = .ok (.tokens pair) ∧ pair.accessToken = token

/-- Nobody else signs access tokens with the secret: the one that a member's request
carries was given out. -/
def Authentic (past : List ServerEvent) : ServerCall → Prop
  | .member _ authHeader _ => ∀ token payload, bearerToken authHeader = some token →
      deployment.jwt.verify deployment.config.accessSecret token = some payload →
      payload.type = .access → GivenOut past token
  | _ => True

/-- What a call does about tokens: it gives a pair to the user who signs in or whose
refresh token is in the cache, or it gives none and leaves no new one. -/
inductive TokenEffect (e : ServerEvent) : Prop
  | issued {clock owner pair} (answered : e.output.result = .ok (.tokens pair))
      (generated : Generated deployment.jwt deployment.config e.before.redis clock owner pair
        e.after.redis)
      (entitled : SignsInAs deployment e owner ∨
        ∃ token, HoldsToken e.before.redis owner token)
  | none (silent : ∀ pair, e.output.result ≠ .ok (.tokens pair))
      (kept : ∀ userId token, HoldsToken e.after.redis userId token →
        HoldsToken e.before.redis userId token)

/-- Whoever has a refresh token in the cache, or was given an access token, has signed
in. -/
structure TokensEarned (past : List ServerEvent) (s : ServerState) : Prop where
  cached : ∀ userId token, HoldsToken s.redis userId token →
    SignedInBefore deployment past userId
  given : ∀ e ∈ past, ∀ pair, e.output.result = .ok (.tokens pair) → ∃ payload,
    deployment.jwt.verify deployment.config.accessSecret pair.accessToken = some payload ∧
      SignedInBefore deployment past payload.sub

end Tokens

section Effects

variable {deployment : Deployment} {s : ServerState} {redis : Redis}

theorem holdsToken_of_set {now : Time} {key userId token : String} {value : Json}
    {ttl : Option Int} (other : ∀ owner, key ≠ refreshTokenKey owner)
    (holds : HoldsToken (cacheSet redis now key value ttl) userId token) :
    HoldsToken redis userId token := by
  rcases holds_of_cacheSet holds with ⟨same, -⟩ | ⟨-, old⟩
  · exact absurd same.symm (other userId)
  · exact old

theorem holdsToken_of_signUp {db : Db} {body : SignUpBody} {env : SignUpEnv}
    {userId token : String} (holds : HoldsToken (signUp db redis body env).redis userId token) :
    HoldsToken redis userId token := by
  simp only [signUp] at holds
  have set := @holdsToken_of_set redis env.now ("email-verify:" ++ env.token) userId token
    (.str body.email) (some 300) (verifyKey_ne_refreshTokenKey env.token)
  split at holds
  · exact holds
  · split at holds
    · exact holds
    · split at holds
      · exact set holds
      · exact set holds

theorem holdsToken_of_delete {fails : Bool} {key userId token : String}
    (holds : HoldsToken (if fails then redis else cacheDel redis key) userId token) :
    HoldsToken redis userId token := by
  split at holds
  · exact holds
  · exact Expiring.holds_of_del holds

theorem holdsToken_of_getUser {userId owner token : String} {env : WrapEnv} {t : AccountState}
    (holds : HoldsToken (getUser t userId env).1.redis owner token) :
    HoldsToken t.redis owner token := by
  have other (u : String) : "user/" ++ userId ≠ refreshTokenKey u :=
    userKey_ne_refreshTokenKey userId u
  simp only [getUser, wrapMethod] at holds
  split at holds
  · exact holds
  · split at holds
    · exact holds
    · split at holds
      · exact holds
      · split_ifs at holds
        · exact holds
        · exact @holdsToken_of_set _ 0 _ _ _ _ none other holds
        · exact @holdsToken_of_set _ env.written _ _ _ _ (some 60) other holds

/-- The token effect of a member's request: none, whatever it does to the cache. -/
theorem serveMember_tokens {user : UserRow} {authHeader : Option String}
    (request : MemberRequest) :
    (∀ pair, (serveMember deployment s user authHeader request).2.result ≠ .ok (.tokens pair)) ∧
      ∀ owner token,
        HoldsToken (serveMember deployment s user authHeader request).1.redis owner token →
          HoldsToken s.redis owner token := by
  cases request with
  | signOut now =>
      refine ⟨by simp [serveMember], fun owner token holds => ?_⟩
      exact Expiring.holds_of_del
        (holdsToken_of_set (fun owner => blacklistKey_ne_refreshTokenKey _ owner) holds)
  | updateUser dto env =>
      refine ⟨fun pair given => ?_, fun owner token holds => ?_⟩
      · obtain ⟨_, -, same⟩ := map_eq_ok given
        cases same
      · simp only [serveMember] at holds
        rcases updateProfile_cases ⟨s.db, s.redis⟩ user.id dto env with
          same | ⟨_, -, -, deleted⟩
        · rwa [same] at holds
        · rw [deleted] at holds
          exact holdsToken_of_delete holds
  | getUser userId env =>
      refine ⟨fun pair given => ?_, fun owner token holds => ?_⟩
      · simp only [serveMember] at given
        split at given
        · obtain ⟨_, -, same⟩ := map_eq_ok given
          cases same
        · cases given
      · simp only [serveMember] at holds
        split at holds
        · exact holdsToken_of_getUser holds
        · exact holds
  | createCategory | catalogue | createOrder | editOrderStatus | createPayment | review =>
      refine ⟨fun pair given => ?_, fun owner token holds => holds⟩
      obtain ⟨_, -, same⟩ := map_eq_ok given
      cases same

/-- A sign-in is refused, or it gives a pair to the user of the password. -/
theorem signIn_outcome (deployment : Deployment) (db : Db) (redis : Redis) (email password : String)
    (clock : Clock) :
    let out := signIn deployment.jwt deployment.config db deployment.compare redis email password
      clock
    (∃ e, out = (.error e, redis)) ∨ ∃ pair after user, out = (.ok pair, after) ∧
      validateUser db deployment.compare email password = some user ∧
      Generated deployment.jwt deployment.config redis clock user.id pair after := by
  intro out
  simp only [out, signIn]
  split
  · exact .inl ⟨_, rfl⟩
  · rename_i user valid
    split
    · rcases generateTokenPair_cases deployment.jwt deployment.config redis clock user.id with
        refused | ⟨pair, after, same, generated⟩
      · exact .inl refused
      · exact .inr ⟨pair, after, user, same, valid, generated⟩
    · exact .inl ⟨_, rfl⟩

/-- A renewal is refused, or it gives a pair to the user whose token the cache has. -/
theorem refresh_outcome (deployment : Deployment) (redis : Redis) (guarded : Time) (clock : Clock)
    (cookie : Option String) :
    let out := refresh deployment.jwt deployment.config redis guarded clock cookie
    (∃ e, out = (.error e, redis)) ∨ ∃ pair after owner, out = (.ok pair, after) ∧
      (∃ token, HoldsToken redis owner token) ∧
      Generated deployment.jwt deployment.config redis clock owner pair after := by
  intro out
  simp only [out, refresh]
  split
  · exact .inl ⟨_, rfl⟩
  · rename_i token passed
    rcases refreshTokens_cases deployment.jwt deployment.config redis clock token with
      refused | ⟨payload, accepts, same⟩
    · exact .inl refused
    · rw [same]
      rcases generateTokenPair_cases deployment.jwt deployment.config redis clock payload.sub with
        refused | ⟨pair, after, same, generated⟩
      · exact .inl refused
      · exact .inr ⟨pair, after, payload.sub, same,
          ⟨token, Expiring.holds_of_get accepts.stored⟩, generated⟩

/-- Every call has one of the effects. -/
theorem server_tokens {e : ServerEvent}
    (step : (server deployment).step e.before e.input = (e.after, e.output)) :
    TokenEffect deployment e := by
  obtain ⟨s, call, reply, s'⟩ := e
  obtain rfl : reply = ((server deployment).step s call).2 := (congrArg Prod.snd step).symm
  obtain rfl : s' = ((server deployment).step s call).1 := (congrArg Prod.fst step).symm
  cases call with
  | signUp body env =>
      refine .none (fun pair given => ?_) fun owner token holds => holdsToken_of_signUp holds
      obtain ⟨_, -, same⟩ := map_eq_ok given
      cases same
  | verifyEmail token env =>
      refine .none (fun pair given => ?_) fun owner held holds => ?_
      · obtain ⟨_, -, same⟩ := map_eq_ok given
        cases same
      · simp only [server] at holds
        rcases verifyEmail_cases ⟨s.db, s.redis⟩ token env with same | ⟨_, -, -, deleted⟩
        · rwa [same] at holds
        · rw [deleted] at holds
          exact holdsToken_of_delete holds
  | signIn email password clock =>
      rcases signIn_outcome deployment s.db s.redis email password clock with
        ⟨e, refused⟩ | ⟨pair, after, user, answered, valid, generated⟩
      · simp only [server, refused]
        exact .none (fun pair given => by cases given) fun owner token holds => holds
      · simp only [server, answered]
        exact .issued rfl generated
          (.inl ⟨email, password, clock, pair, user, rfl, rfl, valid, rfl⟩)
  | refresh guarded clock cookie =>
      rcases refresh_outcome deployment s.redis guarded clock cookie with
        ⟨e, refused⟩ | ⟨pair, after, owner, answered, held, generated⟩
      · simp only [server, refused]
        exact .none (fun pair given => by cases given) fun owner token holds => holds
      · simp only [server, answered]
        exact .issued rfl generated (.inr held)
  | member now authHeader request =>
      simp only [server]
      split
      · exact .none (fun pair given => by cases given) fun owner token holds => holds
      · obtain ⟨silent, kept⟩ := serveMember_tokens request
        exact .none silent kept
  | cron now =>
      simp only [server]
      split
      · exact .none (fun pair given => by cases given) fun owner token holds => holds
      · exact .none (fun pair given => by cases given) fun owner token holds => holds

end Effects

/-! ### Runs -/

section Runs

variable {deployment : Deployment} {past : List ServerEvent} {s : ServerState}
  {calls : List ServerCall}

theorem SignedInBefore.more {userId : String} (before : SignedInBefore deployment past userId)
    (e : ServerEvent) : SignedInBefore deployment (past ++ [e]) userId := by
  obtain ⟨f, mem, signsIn⟩ := before
  exact ⟨f, List.mem_append_left _ mem, signsIn⟩

/-- One call. -/
theorem TokensEarned.step (lawful : deployment.jwt.Lawful) {e : ServerEvent}
    (step : (server deployment).step e.before e.input = (e.after, e.output))
    (earned : TokensEarned deployment past e.before) :
    TokensEarned deployment (past ++ [e]) e.after := by
  cases server_tokens step with
  | @issued clock owner pair answered generated entitled =>
      have signedIn : SignedInBefore deployment (past ++ [e]) owner := by
        rcases entitled with signsIn | ⟨token, holds⟩
        · exact ⟨e, by simp, signsIn⟩
        · exact (earned.cached owner token holds).more e
      constructor
      · intro userId token holds
        rw [HoldsToken, generated.stored] at holds
        rcases holds_of_cacheSet holds with ⟨same, -⟩ | ⟨-, old⟩
        · rw [refreshTokenKey_inj same]
          exact signedIn
        · exact (earned.cached userId token old).more e
      · intro f mem pair' given
        rcases List.mem_append.mp mem with old | new
        · obtain ⟨payload, verified, before⟩ := earned.given f old pair' given
          exact ⟨payload, verified, before.more e⟩
        · rw [List.mem_singleton.mp new, answered, Except.ok.injEq,
            ServerAnswer.tokens.injEq] at given
          obtain ⟨claims, verified, -, sub⟩ := generated.access_claims lawful
          exact ⟨claims, given ▸ verified, sub ▸ signedIn⟩
  | none silent kept =>
      constructor
      · intro userId token holds
        exact (earned.cached userId token (kept userId token holds)).more e
      · intro f mem pair given
        rcases List.mem_append.mp mem with old | new
        · obtain ⟨payload, verified, before⟩ := earned.given f old pair given
          exact ⟨payload, verified, before.more e⟩
        · rw [List.mem_singleton.mp new] at given
          exact absurd given (silent pair)

theorem tokensEarned_of_history (lawful : deployment.jwt.Lawful)
    (start : ∀ userId token, ¬ HoldsToken s.redis userId token) {first rest : List ServerEvent}
    {e : ServerEvent} (split : (server deployment).history s calls = first ++ e :: rest) :
    TokensEarned deployment first e.before := by
  have initial : TokensEarned deployment [] s :=
    ⟨fun userId token holds => absurd holds (start userId token), by simp⟩
  exact ((Machine.history_past (TokensEarned deployment) (fun _ => True)
    (fun _ _ step _ earned => earned.step lawful step) initial fun _ _ => trivial).2 first e rest
      split).1

/-- Whoever is admitted with a token that was given out has signed in. -/
theorem TokensEarned.signedIn (earned : TokensEarned deployment past s) {call : ServerCall}
    (authentic : Authentic deployment past call) {user : UserRow}
    (admitted : actor deployment s call = some user) :
    SignedInBefore deployment past user.id := by
  cases call with
  | member now authHeader request =>
      simp only [actor] at admitted
      cases out : admitMember deployment s now authHeader request with
      | error e =>
          rw [out] at admitted
          cases admitted
      | ok found =>
          rw [out] at admitted
          cases admitted
          obtain ⟨-, -, token, payload, carried, verified, type, sub⟩ := admitMember_eq_ok out
          obtain ⟨f, mem, pair, given, rfl⟩ := authentic token payload carried verified type
          obtain ⟨payload', verified', before⟩ := earned.given f mem pair given
          rw [verified, Option.some.injEq] at verified'
          rw [← sub, verified']
          exact before
  | signUp | verifyEmail | signIn | refresh | cron => cases admitted

/-- In every run from a cache without refresh tokens, whose access tokens are the
server's own, a request is admitted only in the name of a user who has signed in
before. -/
theorem admitted_signed_in (lawful : deployment.jwt.Lawful)
    (start : ∀ userId token, ¬ HoldsToken s.redis userId token)
    (authentic : ∀ first e rest, (server deployment).history s calls = first ++ e :: rest →
      Authentic deployment first e.input) :
    ∀ first e rest, (server deployment).history s calls = first ++ e :: rest →
      ∀ user, actor deployment e.before e.input = some user →
        SignedInBefore deployment first user.id :=
  fun first e rest split _ admitted =>
    (tokensEarned_of_history lawful start split).signedIn (authentic first e rest split) admitted

end Runs

/-! ### Users who do not sign in -/

/-- The dish is on the menu of a restaurant of the user. -/
def OnMenuOf (db : Db) (userId : String) (dish : DishRow) : Prop :=
  ∃ restaurant, db.restaurants.find? dish.restaurantId = some restaurant ∧
    restaurant.ownerId = userId

/-- What is the user's is there as before: the account may have been verified, and the
orders may have got another status and a driver, or have been deleted. -/
structure Spared (userId : String) (db db' : Db) : Prop where
  account : ∀ row, db.users.find? userId = some row →
    ∃ verified, db'.users.find? userId = some { row with verified }
  restaurants : ∀ row : RestaurantRow, row.ownerId = userId →
    (row ∈ db'.restaurants.rows ↔ row ∈ db.restaurants.rows)
  menus : ∀ row, OnMenuOf db userId row → (row ∈ db'.dishes.rows ↔ row ∈ db.dishes.rows)
  ordered : ∀ row ∈ db'.orders.rows, row.customerId = some userId →
    ∃ old ∈ db.orders.rows, ∃ status driverId, row = { old with status, driverId }
  driven : ∀ row ∈ db'.orders.rows, row.driverId = some userId →
    ∃ old ∈ db.orders.rows, old.id = row.id ∧ old.driverId = some userId
  payments : ∀ row : PaymentRow, row.userId = userId →
    (row ∈ db'.payments.rows ↔ row ∈ db.payments.rows)
  reviews : ∀ row : ReviewRow, row.clientId = some userId →
    (row ∈ db'.reviews.rows ↔ row ∈ db.reviews.rows)

section Spared

variable {userId : String} {db db' db'' : Db} {user : UserRow}

theorem Spared.refl (db : Db) : Spared userId db db where
  account row stored := ⟨row.verified, stored⟩
  restaurants _ _ := Iff.rfl
  menus _ _ := Iff.rfl
  ordered row mem _ := ⟨row, mem, row.status, row.driverId, rfl⟩
  driven row mem drives := ⟨row, mem, rfl, drives⟩
  payments _ _ := Iff.rfl
  reviews _ _ := Iff.rfl

theorem Spared.onMenu (spared : Spared userId db db') {dish : DishRow}
    (menu : OnMenuOf db userId dish) : OnMenuOf db' userId dish := by
  obtain ⟨restaurant, found, own⟩ := menu
  have mem := (spared.restaurants restaurant own).mpr (Table.mem_of_find? found)
  have id : restaurant.id = dish.restaurantId := Table.key_of_find? found
  exact ⟨restaurant, id ▸ Table.find?_of_mem mem, own⟩

theorem Spared.trans (spared : Spared userId db db') (more : Spared userId db' db'') :
    Spared userId db db'' where
  account row stored := by
    obtain ⟨_, stored'⟩ := spared.account row stored
    obtain ⟨verified, stored''⟩ := more.account _ stored'
    exact ⟨verified, stored''⟩
  restaurants row own := (more.restaurants row own).trans (spared.restaurants row own)
  menus row menu := (more.menus row (spared.onMenu menu)).trans (spared.menus row menu)
  ordered row mem own := by
    obtain ⟨row', mem', status, driverId, rfl⟩ := more.ordered row mem own
    obtain ⟨old, stored, _, _, rfl⟩ := spared.ordered row' mem' own
    exact ⟨old, stored, status, driverId, rfl⟩
  driven row mem drives := by
    obtain ⟨row', mem', same, drives'⟩ := more.driven row mem drives
    obtain ⟨old, stored, same', drove⟩ := spared.driven row' mem' drives'
    exact ⟨old, stored, same'.trans same, drove⟩
  payments row own := (more.payments row own).trans (spared.payments row own)
  reviews row own := (more.reviews row own).trans (spared.reviews row own)

/-- Accounts are written by nobody or by their users. -/
theorem Spared.of_account {actor : Option String} (write : AccountWrite db actor db')
    (other : actor ≠ some userId) : Spared userId db db' := by
  have changed {old row : UserRow} {users : Table String UserRow UserRow.id}
      (puts : db.users.Puts row users)
      (kept : ∀ r, db.users.find? userId = some r → row.id = userId →
        ∃ verified, row = { r with verified }) : Spared userId db { db with users } := by
    refine { Spared.refl db with account := fun r stored => ?_ }
    rw [puts]
    split
    · rename_i same
      obtain ⟨verified, rfl⟩ := kept r stored same.symm
      exact ⟨verified, rfl⟩
    · exact ⟨r.verified, stored⟩
  cases write with
  | none => exact .refl db
  | @added row users new live unique puts =>
      refine @changed row row users puts fun r stored same => ?_
      rw [← same, new] at stored
      cases stored
  | @verified old users stored puts =>
      refine @changed old _ users puts fun r stored' same => ?_
      rw [← show old.id = userId from same, stored, Option.some.injEq] at stored'
      exact ⟨true, stored' ▸ rfl⟩
  | @updated old name password users stored puts =>
      refine @changed old _ users puts fun r stored' same => ?_
      exact absurd (congrArg some same) other

/-- A request writes for its own user. -/
theorem Spared.of_write (write : Write db user db') (other : user.id ≠ userId) :
    Spared userId db db' := by
  have apart {id : Option String} (here : id = some user.id) : id ≠ some userId := by
    rw [here]
    exact fun same => other (Option.some.inj same)
  cases write with
  | none => exact .refl db
  | @restaurant row restaurants role owner live category own puts =>
      refine { Spared.refl db with restaurants := fun r own' => ?_ }
      apply puts.mem_of_other (fun r => r.ownerId = userId) _ _ own'
      · exact fun same => other (owner.symm.trans same)
      · exact fun old stored same => other ((own old stored).symm.trans same)
  | @dish row dishes restaurant role found owner own puts =>
      have not_menu : ¬ OnMenuOf db userId row := by
        rintro ⟨restaurant', found', own'⟩
        rw [found, Option.some.injEq] at found'
        exact other (owner.symm.trans (found' ▸ own'))
      refine { Spared.refl db with menus := fun r menu => ?_ }
      apply puts.mem_of_other (OnMenuOf db userId) not_menu _ menu
      intro old stored menu'
      rw [OnMenuOf, own old stored] at menu'
      exact not_menu menu'
  | @order row orders orderItems restaurant role customer status driver place found new puts =>
      refine { Spared.refl db with
        ordered := fun r mem own => ?_
        driven := fun r mem drives => ?_ }
      · rcases puts.mem.mp mem with rfl | ⟨stored, -⟩
        · exact absurd own (apart customer)
        · exact (Spared.refl db).ordered r stored own
      · rcases puts.mem.mp mem with rfl | ⟨stored, -⟩
        · rw [driver] at drives
          cases drives
        · exact ⟨r, stored, rfl, drives⟩
  | @status old orders status stored may puts =>
      have stored := Table.mem_of_find? stored
      refine { Spared.refl db with
        ordered := fun r mem own => ?_
        driven := fun r mem drives => ?_ }
      · rcases puts.mem.mp mem with rfl | ⟨mem, -⟩
        · exact ⟨old, stored, status, _, rfl⟩
        · exact (Spared.refl db).ordered r mem own
      · rcases puts.mem.mp mem with rfl | ⟨mem, -⟩
        · refine ⟨old, stored, rfl, ?_⟩
          simp only [OrderRow.edited] at drives
          split at drives
          · exact absurd drives (apart rfl)
          · exact drives
        · exact ⟨r, mem, rfl, drives⟩
  | @payment row payments order role payer found customer place new unpaid puts =>
      refine { Spared.refl db with payments := fun r own => ?_ }
      apply puts.mem_of_other (fun r => r.userId = userId) _ _ own
      · exact fun same => other (payer.symm.trans same)
      · intro old stored
        rw [new] at stored
        cases stored
  | @review row reviews order role found of author customer place delivered new unreviewed puts =>
      refine { Spared.refl db with reviews := fun r own => ?_ }
      apply puts.mem_of_other (fun r => r.clientId = some userId) (apart author) _ own
      intro old stored
      rw [new] at stored
      cases stored
  | @changedReview old row reviews role stored author same puts =>
      refine { Spared.refl db with reviews := fun r own => ?_ }
      apply puts.mem_of_other (fun r => r.clientId = some userId)
        (apart (same.author.trans author)) _ own
      intro old' stored'
      rw [same.id, Table.find?_of_mem stored, Option.some.injEq] at stored'
      exact stored' ▸ apart author

/-- The cleanup job deletes orders and their items only. -/
theorem Spared.of_cron {dayBefore : Time → Time} {now : Time} (sound : Sound db)
    (deleted : handleCron dayBefore now db = .ok db') : Spared userId db db' := by
  obtain ⟨users, -, restaurants, dishes, payments⟩ := deleteOrders_static deleted
  have orders {row : OrderRow} (mem : row ∈ db'.orders.rows) : row ∈ db.orders.rows := by
    rw [deleteOrders_orders deleted] at mem
    exact (Table.mem_filter.mp mem).1
  constructor
  · intro row stored
    rw [users]
    exact ⟨row.verified, stored⟩
  · intro row _
    rw [restaurants]
  · intro row _
    rw [dishes]
  · intro row mem own
    exact ⟨row, orders mem, row.status, row.driverId, rfl⟩
  · intro row mem drives
    exact ⟨row, orders mem, rfl, drives⟩
  · intro row _
    rw [payments]
  · intro row _
    rw [sound.cron_reviews deleted]

/-- One call in the name of others. -/
theorem Spared.of_step {deployment : Deployment} {e : ServerEvent}
    (step : (server deployment).step e.before e.input = (e.after, e.output))
    (declared : e.input.Declared) (sound : ServerSound e.before)
    (others : ∀ user, actor deployment e.before e.input = some user → user.id ≠ userId) :
    Spared userId e.before.db e.after.db := by
  obtain ⟨s, call, reply, s'⟩ := e
  have effect : ServerEffect deployment s call s' :=
    server_effect sound.db.linked sound.shown declared step
  cases effect with
  | account write _ own =>
      apply Spared.of_account write
      intro same
      obtain ⟨user, acts, id⟩ := own userId same
      exact others user acts id
  | category => exact { Spared.refl s.db with }
  | member admitted write => exact .of_write write (others _ (actor_of_admitted admitted))
  | cron deleted => exact .of_cron sound.db deleted

end Spared

/-- In every run with declared fields from a sound store and a cache without refresh
tokens, whose access tokens are the server's own, what belongs to a user who never signs
in is as it was. -/
theorem nothing_without_sign_in {deployment : Deployment} {s : ServerState}
    {calls : List ServerCall} {userId : String} (lawful : deployment.jwt.Lawful)
    (sound : ServerSound s) (start : ∀ userId token, ¬ HoldsToken s.redis userId token)
    (declared : ∀ call ∈ calls, call.Declared)
    (authentic : ∀ first e rest, (server deployment).history s calls = first ++ e :: rest →
      Authentic deployment first e.input)
    (absent : ∀ e ∈ (server deployment).history s calls, ¬ SignsInAs deployment e userId) :
    Spared userId s.db ((server deployment).run s calls).db := by
  have others (e : ServerEvent) (mem : e ∈ (server deployment).history s calls) (user : UserRow)
      (acts : actor deployment e.before e.input = some user) : user.id ≠ userId := by
    rintro rfl
    obtain ⟨first, rest, split⟩ := List.append_of_mem mem
    obtain ⟨f, earlier, signsIn⟩ :=
      (tokensEarned_of_history lawful start split).signedIn (authentic first e rest split) acts
    exact absent f (split ▸ List.mem_append_left _ earlier) signsIn
  have step (e : ServerEvent)
      (step : (server deployment).step e.before e.input = (e.after, e.output))
      (allowed : e.input.Declared ∧
        ∀ user, actor deployment e.before e.input = some user → user.id ≠ userId)
      (inv : ServerSound e.before ∧ Spared userId s.db e.before.db) :
      ServerSound e.after ∧ Spared userId s.db e.after.db :=
    ⟨inv.1.step step allowed.1, inv.2.trans (.of_step step allowed.1 inv.1 allowed.2)⟩
  exact (Machine.history_invariant (fun t => ServerSound t ∧ Spared userId s.db t.db)
    (fun e => e.input.Declared ∧
      ∀ user, actor deployment e.before e.input = some user → user.id ≠ userId)
    step ⟨sound, .refl s.db⟩ fun e mem =>
      ⟨declared e.input (Machine.input_mem mem), others e mem⟩).1.2

/-! ### A day of the owner -/

/-- A store with the accounts of an owner and of a guest. -/
def guestStore : ServerState :=
  ⟨{ Db.empty with
      users := ⟨[⟨"owner", "o@x.kr", "passw0rd!", "owner", .owner, true, none⟩,
        ⟨"guest", "g@x.kr", "passw0rd?", "guest", .client, false, none⟩], by decide⟩ },
    .empty, .empty⟩

/-- The opening day, without the sign-up. -/
def ownersDay : List ServerCall := openingDay.drop 2

theorem guestStore_sound : ServerSound guestStore := by
  constructor
  · constructor
    case liveUsers => simp [guestStore]
    case emails =>
      have apart : (guestStore.db.users.rows.map UserRow.email).Nodup := by decide
      intro row mem other mem' email here there
      exact List.inj_on_of_nodup_map apart mem mem' (Option.some.inj (here.trans there.symm))
    all_goals
      intro row mem
      cases mem
  · rfl

/-- The requests carry the token of the sign-in. -/
theorem ownersDay_authentic : ∀ first e rest,
    (server sampleDeployment).history guestStore ownersDay = first ++ e :: rest →
      Authentic sampleDeployment first e.input := by
  intro first e rest split
  have carried : bearerToken (sampleHeader "owner") =
      some (sampleJwt.sign "access" ⟨"owner", .access, 0, 9⟩) := by
    decide +kernel
  obtain ⟨early, late, inputs, rfl, -, -⟩ := Machine.history_split split
  generalize e.input = call at inputs
  cases early with
  | nil =>
      obtain ⟨rfl, -⟩ := List.cons.inj inputs
      trivial
  | cons a early =>
      obtain ⟨rfl, behind⟩ := List.cons.inj inputs
      have mem : call ∈ openingDay.drop 3 := by
        rw [show openingDay.drop 3 = _ from behind]
        simp
      have signedIn : GivenOut
          ((server sampleDeployment).history guestStore (openingDay[2] :: early))
          (sampleJwt.sign "access" ⟨"owner", .access, 0, 9⟩) :=
        ⟨_, List.mem_cons_self, ⟨_, _⟩, rfl, rfl⟩
      have given {request : MemberRequest} : Authentic sampleDeployment
          ((server sampleDeployment).history guestStore (openingDay[2] :: early))
          (.member 0 (sampleHeader "owner") request) := by
        intro token payload here _ _
        rw [carried, Option.some.injEq] at here
        exact here ▸ signedIn
      simp only [openingDay, List.drop_succ_cons, List.drop_zero, List.mem_cons, List.not_mem_nil,
        or_false] at mem
      rcases mem with rfl | rfl | rfl
      · exact given
      · exact given
      · trivial

/-- The restaurant is opened by someone who has signed in. -/
theorem owner_signed_in :
    SignedInBefore sampleDeployment
      ((server sampleDeployment).history guestStore (ownersDay.take 2)) "owner" := by
  have admitted := @admitted_signed_in sampleDeployment guestStore ownersDay sampleJwt_lawful
    (fun _ _ => Expiring.not_holds_empty _ _) ownersDay_authentic
    ((server sampleDeployment).history guestStore (ownersDay.take 2)) _ _ rfl
  exact admitted _ rfl

theorem guest_absent : ∀ e ∈ (server sampleDeployment).history guestStore ownersDay,
    ¬ SignsInAs sampleDeployment e "guest" := by
  rintro e mem ⟨email, password, clock, pair, user, input, -, valid, id⟩
  rcases List.mem_cons.mp mem with rfl | later
  · cases input
    have owner : (validateUser guestStore.db sampleDeployment.compare "o@x.kr" "passw0rd!").map
        UserRow.id = some "owner" := by
      decide +kernel
    rw [show validateUser guestStore.db _ _ _ = _ from valid, Option.map_some, id] at owner
    simp at owner
  · have call := Machine.input_mem later
    rw [input] at call
    simp at call

/-- The owner's day is nothing to the guest. -/
theorem guest_spared :
    Spared "guest" guestStore.db ((server sampleDeployment).run guestStore ownersDay).db :=
  nothing_without_sign_in sampleJwt_lawful guestStore_sound
    (fun _ _ => Expiring.not_holds_empty _ _)
    (fun call mem => openingDay_declared call (List.mem_of_mem_drop mem)) ownersDay_authentic
    guest_absent

end CoupangEats
