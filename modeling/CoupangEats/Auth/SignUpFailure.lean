import CoupangEats.Auth.SignUp
import CoupangEats.Core.CacheService

/-!
Sign-ups that fail.

A sign-up hashes the password, makes the account in a transaction, stores the
verification token and sends the mail. The last two steps stand outside the
transaction on purpose: when one of them throws, the request fails and the account
stays. Up to the commit a failed sign-up leaves nothing behind, and can be
repeated (`signUp_failure`).
-/

namespace CoupangEats

open CoupangEats.Base

/-- The steps of a sign-up. -/
inductive SignUpStep where
  | hashing
  | transaction
  | storingToken
  | sendingEmail
  deriving DecidableEq, Repr

/-- What each step of a sign-up meets outside. A failing hash or mail has a message. -/
structure SignUpAttempt where
  hash : Except String String
  userId : String
  token : String
  now : Time
  faults : Faults
  setReply : Reply
  expireReply : Reply
  mail : Except String Unit

/-- The attempt as its transaction sees it. -/
def SignUpAttempt.env (attempt : SignUpAttempt) (hashedPassword : String) : SignUpEnv where
  hashedPassword
  userId := attempt.userId
  token := attempt.token
  now := attempt.now
  faults := attempt.faults
  cacheDown := attempt.setReply.fails || attempt.expireReply.fails
  mailDown := match attempt.mail with
    | .error _ => true
    | .ok () => false

/-- What an attempt leaves behind, and the step in which it has thrown. -/
structure SignUpEnd where
  result : Except ApiError Unit
  thrownIn : Option SignUpStep
  db : Db
  redis : Redis
  sent : List WelcomeNotification

/-- The steps of `signUp` behind the transaction: the token, and the mail. -/
def sendVerification (db : Db) (redis : Redis) (body : SignUpBody) (attempt : SignUpAttempt) :
    SignUpEnd :=
  match CacheService.set redis attempt.now ("email-verify:" ++ attempt.token) (.str body.email)
      (some 300) attempt.setReply attempt.expireReply with
  | (redis, .error e) => ⟨.error e, some .storingToken, db, redis, []⟩
  | (redis, .ok ()) =>
      match attempt.mail with
      | .error message =>
          ⟨.error (.internal ("SES 실패: " ++ message)), some .sendingEmail, db, redis, []⟩
      | .ok () => ⟨.ok (), none, db, redis, [⟨body.email, "고객", attempt.token⟩]⟩

/-- `AuthService.signUp`, with what can fail in each of its steps. -/
def attemptSignUp (db : Db) (redis : Redis) (body : SignUpBody) (attempt : SignUpAttempt) :
    SignUpEnd :=
  match attempt.hash with
  | .error message => ⟨.error (.internal message), some .hashing, db, redis, []⟩
  | .ok hashedPassword =>
      let created := createUserOrThrow db body (attempt.env hashedPassword)
      match created.result with
      | .error e => ⟨.error e, some .transaction, created.store, redis, []⟩
      | .ok () => sendVerification created.store redis body attempt

section Failure

variable (db : Db) (redis : Redis) (body : SignUpBody) (attempt : SignUpAttempt)

/-- Where the hash and the cache work, this is the sign-up of the account service. -/
theorem attemptSignUp_eq {hashedPassword : String} (hashed : attempt.hash = .ok hashedPassword)
    (cached : attempt.setReply = .works ∧ attempt.expireReply = .works) :
    let signedUp := signUp db redis body (attempt.env hashedPassword)
    let ended := attemptSignUp db redis body attempt
    (ended.result = .ok () ↔ signedUp.result = .ok ()) ∧
      ended.db = signedUp.db ∧ ended.redis = signedUp.redis ∧ ended.sent = signedUp.sent := by
  have works := CacheService.set_works redis attempt.now ("email-verify:" ++ attempt.token)
    (.str body.email) (some 300)
  obtain ⟨sets, expires⟩ := cached
  simp only [attemptSignUp, hashed, signUp, sendVerification, sets, expires]
  cases created : (createUserOrThrow db body (attempt.env hashedPassword)).result with
  | error e => simp
  | ok _ =>
      rw [Option.map_some, Int.cast_ofNat] at works
      simp only [works]
      cases mail : attempt.mail with
      | error message => simp [SignUpAttempt.env, mail, sets, expires, Reply.fails]
      | ok _ => simp [SignUpAttempt.env, mail, sets, expires, Reply.fails]

/-- Behind the commit no step touches the store. -/
theorem sendVerification_db : (sendVerification db redis body attempt).db = db := by
  unfold sendVerification
  split
  · rfl
  · split <;> rfl

theorem sendVerification_thrownIn :
    let ended := sendVerification db redis body attempt
    (ended.thrownIn = none ∧ ended.result = .ok ()) ∨
      (ended.thrownIn = some .storingToken ∨ ended.thrownIn = some .sendingEmail) ∧
        ended.result ≠ .ok () := by
  unfold sendVerification
  split
  · exact .inr ⟨.inl rfl, by simp⟩
  · split
    · exact .inr ⟨.inr rfl, by simp⟩
    · exact .inl ⟨rfl, rfl⟩

/-- A transaction that fails leaves the store as it was. -/
theorem createUserOrThrow_rollback {env : SignUpEnv} {e : ApiError}
    (failed : (createUserOrThrow db body env).result = .error e) :
    (createUserOrThrow db body env).store = db := by
  apply transactional_rollback
  rintro ⟨_, ok⟩
  rw [createUserOrThrow, ok] at failed
  cases failed

/-- What an attempt comes to: it has thrown before the commit and left nothing behind,
or its transaction has committed and the steps behind it follow. -/
theorem attemptSignUp_cases :
    let ended := attemptSignUp db redis body attempt
    ((ended.thrownIn = some .hashing ∨ ended.thrownIn = some .transaction) ∧
        ended.result ≠ .ok () ∧ ended.db = db ∧ ended.redis = redis ∧ ended.sent = []) ∨
      ∃ hashedPassword, attempt.hash = .ok hashedPassword ∧
        (createUserOrThrow db body (attempt.env hashedPassword)).result = .ok () ∧
        ended = sendVerification (createUserOrThrow db body (attempt.env hashedPassword)).store
          redis body attempt := by
  cases hashed : attempt.hash with
  | error message =>
      simp only [attemptSignUp, hashed]
      exact .inl ⟨.inl trivial, by simp⟩
  | ok hashedPassword =>
      cases created : (createUserOrThrow db body (attempt.env hashedPassword)).result with
      | error e =>
          simp only [attemptSignUp, hashed, created, createUserOrThrow_rollback db body created]
          exact .inl ⟨.inr trivial, by simp⟩
      | ok _ =>
          refine .inr ⟨hashedPassword, rfl, created, ?_⟩
          simp only [attemptSignUp, hashed, created]

end Failure

/-- A sign-up throws in one of its steps or succeeds. When it throws while hashing or in
its transaction, everything is as before the call, and the same sign-up can be
repeated. When it throws afterwards, the store is as the committed transaction has
left it. -/
theorem signUp_failure (db : Db) (redis : Redis) (body : SignUpBody) (attempt : SignUpAttempt) :
    let ended := attemptSignUp db redis body attempt
    (ended.thrownIn = none ↔ ended.result = .ok ()) ∧
      (ended.thrownIn = some .hashing ∨ ended.thrownIn = some .transaction →
        ended.db = db ∧ ∀ again,
          attemptSignUp ended.db ended.redis body again = attemptSignUp db redis body again) ∧
      (ended.thrownIn = some .storingToken ∨ ended.thrownIn = some .sendingEmail →
        ∃ hashedPassword, attempt.hash = .ok hashedPassword ∧
          (createUserOrThrow db body (attempt.env hashedPassword)).result = .ok () ∧
          ended.db = (createUserOrThrow db body (attempt.env hashedPassword)).store) := by
  intro ended
  rcases attemptSignUp_cases db redis body attempt with
    ⟨early, failed, sameDb, sameRedis, -⟩ | ⟨hashedPassword, hashed, committed, follows⟩
  · refine ⟨?_, ?_, ?_⟩
    · rcases early with thrown | thrown <;> simp [ended, thrown, failed]
    · intro _
      refine ⟨sameDb, fun again => ?_⟩
      rw [show ended.db = db from sameDb, show ended.redis = redis from sameRedis]
    · rcases early with thrown | thrown <;> simp [ended, thrown]
  · have after := sendVerification_thrownIn
      (createUserOrThrow db body (attempt.env hashedPassword)).store redis body attempt
    rw [← follows] at after
    refine ⟨?_, ?_, fun _ => ⟨hashedPassword, hashed, committed, ?_⟩⟩
    · rcases after with ⟨none, ok⟩ | ⟨thrown | thrown, failed⟩
      · exact iff_of_true none ok
      · exact iff_of_false (by simp [ended, thrown]) failed
      · exact iff_of_false (by simp [ended, thrown]) failed
    · rcases after with ⟨none, -⟩ | ⟨thrown | thrown, -⟩
      · simp [ended, none]
      · simp [ended, thrown]
      · simp [ended, thrown]
    · rw [show ended = _ from follows, sendVerification_db]

/-- The account of a sign-up whose mail cannot be sent is there. -/
theorem signed_up_without_mail :
    ¬ ∀ (db : Db) (redis : Redis) (body : SignUpBody) (attempt : SignUpAttempt),
      (attemptSignUp db redis body attempt).result ≠ .ok () →
      (attemptSignUp db redis body attempt).db.users = db.users := by
  intro all
  let body : SignUpBody :=
    ⟨[("email", .str "u@x.kr"), ("password", .str "passw0rd!"), ("name", .str "user"),
      ("role", .str "Client")], by decide +kernel⟩
  have same := all .empty .empty body
    ⟨.ok "hash", "user", "token", 0, .none, .works, .works, .error "Throttling"⟩
  revert same
  decide +kernel

end CoupangEats
