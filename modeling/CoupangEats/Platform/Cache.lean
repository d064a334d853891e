import CoupangEats.Platform.Access

/-!
What one call does to the cache.

`Touches` is the list of the keys that a call may change: a sign-up and a verification
that of their token, whoever is given tokens and whoever signs out that of the user,
a sign-out that of its access token, and a profile that of its user. Every other key
keeps its entry (`cache_frame`).
-/

namespace CoupangEats

open CoupangEats.Base

/-- The keys that a call may change. -/
inductive Touches (deployment : Deployment) (s : ServerState) : ServerCall → String → Prop
  | signedUp {body env} : Touches deployment s (.signUp body env) ("email-verify:" ++ env.token)
  | verified {token env} : Touches deployment s (.verifyEmail token env) ("email-verify:" ++ token)
  | issued {call pair payload}
      (answered : ((server deployment).step s call).2.result = .ok (.tokens pair))
      (verified : deployment.jwt.verify deployment.config.refreshSecret pair.refreshToken =
        some payload) : Touches deployment s call (refreshTokenKey payload.sub)
  | signedOut {now authHeader revoked user}
      (admitted : admitMember deployment s now authHeader (.signOut revoked) = .ok user) :
      Touches deployment s (.member now authHeader (.signOut revoked)) (refreshTokenKey user.id)
  | blacklisted {now authHeader revoked token} :
      Touches deployment s (.member now authHeader (.signOut revoked)) (blacklistKey token)
  | profile {now authHeader request userId} :
      Touches deployment s (.member now authHeader request) ("user/" ++ userId)

section Frame

variable {deployment : Deployment} {s : ServerState} {key : String}

theorem entry_of_generated {clock : Clock} {owner : String} {pair : TokenPair}
    {redis after : Redis}
    (generated : Generated deployment.jwt deployment.config redis clock owner pair after)
    (other : key ≠ refreshTokenKey owner) : after key = redis key := by
  rw [generated.stored]
  exact cacheSet_of_ne other

theorem entry_of_delete {redis : Redis} {fails : Bool} {deleted : String} (other : key ≠ deleted) :
    (if fails then redis else cacheDel redis deleted) key = redis key := by
  cases fails
  · exact Expiring.del_of_ne other
  · rfl

theorem entry_of_signUp {db : Db} {redis : Redis} {body : SignUpBody} {env : SignUpEnv}
    (other : key ≠ "email-verify:" ++ env.token) :
    (signUp db redis body env).redis key = redis key := by
  have set := @cacheSet_of_ne redis env.now _ _ (.str body.email) (some 300) other
  simp only [signUp]
  split
  · rfl
  · split_ifs
    · rfl
    · exact set
    · exact set

theorem entry_of_getUser {id : String} {env : WrapEnv} {t : AccountState}
    (other : key ≠ "user/" ++ id) : (getUser t id env).1.redis key = t.redis key := by
  simp only [getUser, wrapMethod]
  split
  · rfl
  · split
    · rfl
    · split
      · rfl
      · rename_i result _ _
        split_ifs
        · rfl
        · exact @cacheSet_of_ne t.redis 0 _ _ result none other
        · exact @cacheSet_of_ne t.redis env.written _ _ _ (some 60) other

theorem entry_of_member {now : Time} {authHeader : Option String} {request : MemberRequest}
    {user : UserRow} (admitted : admitMember deployment s now authHeader request = .ok user)
    (untouched : ¬ Touches deployment s (.member now authHeader request) key) :
    (serveMember deployment s user authHeader request).1.redis key = s.redis key := by
  have profile (userId : String) : key ≠ "user/" ++ userId := by
    rintro rfl
    exact untouched .profile
  cases request with
  | signOut revoked =>
      have blacklist : key ≠ blacklistKey ((bearerToken authHeader).getD "") := by
        rintro rfl
        exact untouched .blacklisted
      have own : key ≠ refreshTokenKey user.id := by
        rintro rfl
        exact untouched (.signedOut admitted)
      simp only [serveMember, revokeAllUserTokens]
      rw [cacheSet_of_ne blacklist]
      exact Expiring.del_of_ne own
  | updateUser dto env =>
      simp only [serveMember]
      rcases updateProfile_cases ⟨s.db, s.redis⟩ user.id dto env with same | ⟨_, -, -, deleted⟩
      · rw [same]
      · rw [deleted]
        exact entry_of_delete (profile user.id)
  | getUser id env =>
      simp only [serveMember]
      split
      · exact entry_of_getUser (profile id)
      · rfl
  | createCategory | catalogue | createOrder | editOrderStatus | createPayment | review => rfl

/-- A key that a call does not touch keeps its entry. -/
theorem cache_frame (lawful : deployment.jwt.Lawful) {call : ServerCall}
    (untouched : ¬ Touches deployment s call key) :
    ((server deployment).step s call).1.redis key = s.redis key := by
  have issued {clock : Clock} {owner : String} {pair : TokenPair} {after : Redis}
      (answered : ((server deployment).step s call).2.result = .ok (.tokens pair))
      (generated : Generated deployment.jwt deployment.config s.redis clock owner pair after) :
      after key = s.redis key := by
    obtain ⟨claims, verified, -, rfl⟩ := generated.refresh_claims lawful
    refine entry_of_generated generated ?_
    rintro rfl
    exact untouched (.issued answered verified)
  cases call with
  | signUp body env =>
      refine entry_of_signUp ?_
      rintro rfl
      exact untouched .signedUp
  | verifyEmail token env =>
      simp only [server]
      rcases verifyEmail_cases ⟨s.db, s.redis⟩ token env with same | ⟨_, -, -, deleted⟩
      · rw [same]
      · rw [deleted]
        refine entry_of_delete ?_
        rintro rfl
        exact untouched .verified
  | signIn email password clock =>
      rcases signIn_outcome deployment s.db s.redis email password clock with
        ⟨e, refused⟩ | ⟨pair, after, user, answered, -, generated⟩
      · simp only [server, refused]
      · simp only [server, answered] at issued ⊢
        exact issued rfl generated
  | refresh guarded clock cookie =>
      rcases refresh_outcome deployment s.redis guarded clock cookie with
        ⟨e, refused⟩ | ⟨pair, after, owner, answered, -, generated⟩
      · simp only [server, refused]
      · simp only [server, answered] at issued ⊢
        exact issued rfl generated
  | member now authHeader request =>
      cases admitted : admitMember deployment s now authHeader request with
      | error e => simp only [server, admitted]
      | ok user =>
          simp only [server, admitted]
          exact entry_of_member admitted untouched
  | cron now =>
      simp only [server]
      split
      · rfl
      · rfl

end Frame

end CoupangEats
