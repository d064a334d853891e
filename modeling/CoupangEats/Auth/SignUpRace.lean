import CoupangEats.Auth.SignUp
import CoupangEats.Base.Contest

/-!
Concurrent sign-ups.

A sign-up looks the address up and stores the account in two statements, and the
transaction around them does not keep other sign-ups out in between. The unique
index on the address is what decides: however the sign-ups interleave, a free
address gets one account, with the password of the request that is told so, and no
account that was there changes (`one_account_per_address`).
-/

namespace CoupangEats

open CoupangEats.Base

/-- A sign-up as a thread takes it: the body and what comes from outside. -/
structure SignUpRequest where
  body : SignUpBody
  env : SignUpEnv

section Threads

variable {ι : Type} (request : ι → SignUpRequest)

/-- The two statements of `createUserOrThrow`; the transaction commits, or fails to,
with the second. -/
def signUpContest : Contest ι Db String ApiError UserRow where
  key i := (request i).body.email
  look i db :=
    (db.userByEmail? (request i).body.email).map fun _ => .conflict "이미 존재하는 이메일입니다."
  store i db :=
    match (if (request i).env.faults.save then none
      else userMapping.save db.acceptsUser (request i).env.userId db.users
        ((request i).body.toEntity (request i).env.hashedPassword)) with
    | none => .error queryFailed
    | some (row, users) =>
        if (request i).env.faults.commit then .error queryFailed
        else .ok (row, { db with users })

/-- A sign-up on its own is `createUserOrThrow`. -/
theorem signUpContest_alone (i : ι) (db : Db) :
    let step (s : Db × Attempt ApiError UserRow) := (signUpContest request).step i () s.1 s.2
    let out := createUserOrThrow db (request i).body (request i).env
    ∃ result : Except ApiError UserRow, step (step (db, .ready)) = (out.store, .done result) ∧
      result.map (fun _ => ()) = out.result := by
  simp only [createUserOrThrow, createUserBody, transactional, Contest.step, signUpContest]
  cases account : db.userByEmail? (request i).body.email with
  | some user => exact ⟨_, rfl, rfl⟩
  | none =>
      simp only [Option.map_none]
      generalize (if (request i).env.faults.save = true then none
        else userMapping.save db.acceptsUser (request i).env.userId db.users
          ((request i).body.toEntity (request i).env.hashedPassword)) = saved
      cases saved with
      | none => exact ⟨_, rfl, rfl⟩
      | some out => cases (request i).env.faults.commit <;> exact ⟨_, rfl, rfl⟩

end Threads

section Contest

variable {ι : Type} {request : ι → SignUpRequest}

/-- An account has the address, live or deleted. -/
def HasAccount (db : Db) (email : String) : Prop := ∃ user ∈ db.users.rows, user.email = email

/-- Nothing fails for the request, its id is fresh and the columns it brings can be
stored. -/
structure CanSignUp (request : SignUpRequest) (db : Db) : Prop where
  faults : request.env.faults = .none
  fresh : db.users.find? request.env.userId = none
  verified : (column request.body.fields "verified" flagColumn (some false)).isSome
  deletedAt : (column request.body.fields "deletedAt" timestampColumn (some none)).isSome

/-- The account is stored, as the request asks for it. -/
structure IsAccount (request : SignUpRequest) (db : Db) (row : UserRow) : Prop where
  stored : row ∈ db.users.rows
  id : row.id = request.env.userId
  email : row.email = request.body.email
  password : row.password = request.env.hashedPassword
  name : row.name = request.body.name
  role : row.role = request.body.role

/-- The new row of a body. -/
theorem insertRow_toEntity (body : SignUpBody) (hashedPassword id : String) :
    userMapping.insertRow id (body.toEntity hashedPassword) =
      (column body.fields "verified" flagColumn (some false)).bind fun verified =>
        (column body.fields "deletedAt" timestampColumn (some none)).map fun deletedAt =>
          ⟨id, body.email, hashedPassword, body.name, body.role, verified, deletedAt⟩ := by
  obtain ⟨text, spelled, parsed⟩ := body.read_role
  simp only [userMapping, Mapping.ofWrite, UserRow.write, column, body.read_toEntity_password,
    body.read_toEntity _ _ (show "email" ≠ "password" by decide),
    body.read_toEntity _ _ (show "name" ≠ "password" by decide),
    body.read_toEntity _ _ (show "role" ≠ "password" by decide),
    body.read_toEntity _ _ (show "verified" ≠ "password" by decide),
    body.read_toEntity _ _ (show "deletedAt" ≠ "password" by decide),
    body.read_email, body.read_name, spelled, textColumn, roleColumn, parsed]
  simp [Option.map_eq_bind]

/-- What a stored sign-up is: a new row of its body. -/
theorem signUpContest_store {i : ι} {db db' : Db} {row : UserRow}
    (declared : (request i).body.fields.read "id" = none)
    (stored : (signUpContest request).store i db = .ok (row, db')) :
    ∃ users, db' = { db with users } ∧ db.acceptsUser row = true ∧
      db.users.insert row = some users ∧
      userMapping.insertRow (request i).env.userId
        ((request i).body.toEntity (request i).env.hashedPassword) = some row := by
  simp only [signUpContest] at stored
  split at stored
  · cases stored
  · rename_i row' users saved
    split_ifs at stored saved
    cases stored
    rw [Mapping.save_unnamed (by rw [SignUpBody.read_toEntity _ _ _ (by decide), declared])]
      at saved
    obtain ⟨made, accepted, inserted⟩ := Mapping.saveNew_eq_some saved
    exact ⟨users, rfl, accepted, inserted, made⟩

theorem signUpContest_lawful (declared : ∀ i, (request i).body.fields.read "id" = none)
    (distinct : ∀ i j, (request i).env.userId = (request j).env.userId → i = j) :
    (signUpContest request).Lawful HasAccount (fun i => CanSignUp (request i))
      (fun i => IsAccount (request i)) := by
  constructor
  · intro i db e seen
    obtain ⟨user, found, -⟩ := Option.map_eq_some_iff.mp seen
    refine ⟨user, List.mem_of_find?_eq_some found, ?_⟩
    have matching := List.find?_some found
    simp only [Bool.and_eq_true, decide_eq_true_eq] at matching
    exact matching.2
  · intro i db row db' stored
    obtain ⟨users, rfl, accepted, inserted, made⟩ := signUpContest_store (declared i) stored
    obtain ⟨fresh, rows⟩ := Table.insert_eq_some inserted
    rw [insertRow_toEntity] at made
    obtain ⟨verified, -, made⟩ := Option.bind_eq_some_iff.mp made
    obtain ⟨deletedAt, -, rfl⟩ := Option.map_eq_some_iff.mp made
    refine ⟨?_, ⟨by simp [rows], rfl, rfl, rfl, rfl, rfl⟩, fun email => ?_⟩
    · rintro ⟨user, mem, same⟩
      have unique := acceptsUser_eq_true.mp accepted user mem same
      exact Table.find?_eq_none_iff.mp fresh user mem unique
    · simp only [HasAccount, rows, List.mem_append, List.mem_singleton, or_and_right, exists_or,
        exists_eq_left]
      exact or_congr Iff.rfl eq_comm
  · intro i db able free
    obtain ⟨verified, hverified⟩ := Option.isSome_iff_exists.mp able.verified
    obtain ⟨deletedAt, hdeletedAt⟩ := Option.isSome_iff_exists.mp able.deletedAt
    have made := insertRow_toEntity (request i).body (request i).env.hashedPassword
      (request i).env.userId
    rw [hverified, Option.bind_some, hdeletedAt, Option.map_some] at made
    have accepted : db.acceptsUser ⟨(request i).env.userId, (request i).body.email,
        (request i).env.hashedPassword, (request i).body.name, (request i).body.role, verified,
        deletedAt⟩ = true := by
      rw [acceptsUser_eq_true]
      intro other mem same
      exact (free ⟨other, mem, same⟩).elim
    obtain ⟨⟨row, users⟩, saved⟩ := Mapping.saveNew_isSome.mpr ⟨_, made, accepted, able.fresh⟩
    refine ⟨(row, { db with users }), ?_⟩
    simp only [signUpContest, able.faults, Faults.none, Bool.false_eq_true, if_false]
    rw [Mapping.save_unnamed (by rw [SignUpBody.read_toEntity _ _ _ (by decide), declared]), saved]
  · intro i j db row db' stored other
    obtain ⟨users, rfl, -, inserted, made⟩ := signUpContest_store (declared i) stored
    obtain ⟨fresh, rows⟩ := Table.insert_eq_some inserted
    constructor
    · intro able
      refine ⟨able.faults, ?_, able.verified, able.deletedAt⟩
      have apart : (request j).env.userId ≠ row.id := by
        rw [userMapping.key_insertRow made]
        exact fun same => other (distinct j i same)
      rw [Table.find?_insert inserted, if_neg apart]
      exact able.fresh
    · intro row' account
      exact { account with stored := by simp [rows, account.stored] }

/-- The accounts at a moment: those of the start, and the new ones. -/
structure AccountsOf (db : Db) (config : Config ι Db (Attempt ApiError UserRow)) : Prop where
  kept : ∀ user ∈ db.users.rows, user ∈ config.store.users.rows
  new : ∀ user ∈ config.store.users.rows,
    user ∈ db.users.rows ∨ ∃ i, config.locals i = .done (.ok user)

theorem accountsOf_step [DecidableEq ι]
    (declared : ∀ i, (request i).body.fields.read "id" = none) {db : Db}
    {e : Event (Config ι Db (Attempt ApiError UserRow)) (ι × Unit) Unit}
    (step : (interleave (signUpContest request).step).step e.before e.input = (e.after, e.output))
    (accounts : AccountsOf db e.before) : AccountsOf db e.after := by
  obtain ⟨kept, new⟩ := accounts
  rcases Contest.step_cases step with ⟨sameStore, winners, -⟩ | ⟨row, looked, stored, wins, others⟩
  · constructor
    · rw [sameStore]
      exact kept
    · simp only [sameStore, winners]
      exact new
  · obtain ⟨users, after, -, inserted, -⟩ := signUpContest_store (declared _) stored
    have rows := (Table.insert_eq_some inserted).2
    rw [show users = e.after.store.users by rw [after]] at rows
    constructor
    · intro user mem
      rw [rows]
      exact List.mem_append_left _ (kept user mem)
    · intro user mem
      rw [rows, List.mem_append, List.mem_singleton] at mem
      rcases mem with old | rfl
      · refine (new user old).imp id ?_
        rintro ⟨i, won⟩
        by_cases mover : i = e.input.1
        · rw [mover, looked] at won
          cases won
        · exact ⟨i, by rw [others i mover, won]⟩
      · exact .inr ⟨_, wins⟩

/-- However sign-ups without an id of their own interleave: a request that succeeds
has made the one account of an address that was free; of the requests for an address
one succeeds at most, and a request that could have succeeded is refused because the
address had an account or another request got it. No account that was there changes,
and there are no new ones but those of the successful requests. -/
theorem one_account_per_address [DecidableEq ι]
    (declared : ∀ i, (request i).body.fields.read "id" = none)
    (distinct : ∀ i j, (request i).env.userId = (request j).env.userId → i = j) (db : Db)
    (schedule : List (ι × Unit)) :
    let final := (interleave (signUpContest request).step).run (Contest.start db) schedule
    (∀ i row, final.locals i = .done (.ok row) →
        IsAccount (request i) final.store row ∧ ¬ HasAccount db (request i).body.email) ∧
      (∀ i j row row', final.locals i = .done (.ok row) → final.locals j = .done (.ok row') →
        (request i).body.email = (request j).body.email → i = j) ∧
      (∀ i e, CanSignUp (request i) db → final.locals i = .done (.error e) →
        HasAccount db (request i).body.email ∨ ∃ j, j ≠ i ∧
          (∃ row, final.locals j = .done (.ok row)) ∧
          (request j).body.email = (request i).body.email) ∧
      AccountsOf db final := by
  intro final
  obtain ⟨kept, -, fresh, single, lost⟩ :=
    Contest.contest_decided (signUpContest_lawful declared distinct) (s := db) schedule
  refine ⟨?_, ?_, ?_, ?_⟩
  · intro i row won
    exact ⟨kept i row won, fresh i ⟨row, won⟩⟩
  · intro i j row row' won won' same
    exact single i j ⟨row, won⟩ ⟨row', won'⟩ same
  · intro i e able refused
    exact lost i able ⟨e, refused⟩
  · exact (Machine.history_invariant (AccountsOf db) (fun _ => True)
      (fun _ step _ => accountsOf_step declared step)
      ⟨fun _ mem => mem, fun _ mem => .inl mem⟩ fun _ _ => trivial).1

end Contest

/-- Two sign-ups for one address that both find it free. -/
def twinRequests (second : Bool) : SignUpRequest :=
  ⟨⟨[("email", .str "new@x.kr"), ("password", .str "passw0rd!"), ("name", .str "new"),
      ("role", .str "Owner")], by decide +kernel⟩,
    ⟨if second then "hash2" else "hash1", if second then "id2" else "id1", "", 0, .none, false,
      false⟩⟩

/-- The second one stores first, and is the one that succeeds. -/
theorem twins_signed_up :
    let final := (interleave (signUpContest twinRequests).step).run (Contest.start Db.empty)
      [(false, ()), (true, ()), (true, ()), (false, ())]
    final.locals true = .done (.ok ⟨"id2", "new@x.kr", "hash2", "new", .owner, false, none⟩) ∧
      final.locals false = .done (.error queryFailed) ∧ AccountsOf Db.empty final ∧
      (HasAccount Db.empty "new@x.kr" ∨ ∃ j, j ≠ false ∧
        (∃ row, final.locals j = .done (.ok row)) ∧
        (twinRequests j).body.email = "new@x.kr") := by
  have decided := @one_account_per_address _ twinRequests _ (fun _ => rfl)
    (by decide) Db.empty [(false, ()), (true, ()), (true, ()), (false, ())]
  have refused : ((interleave (signUpContest twinRequests).step).run (Contest.start Db.empty)
      [(false, ()), (true, ()), (true, ()), (false, ())]).locals false =
        .done (.error queryFailed) := by
    decide +kernel
  refine ⟨by decide +kernel, refused, decided.2.2.2, decided.2.2.1 false _ ?_ refused⟩
  exact ⟨rfl, rfl, by decide, by decide⟩

end CoupangEats
