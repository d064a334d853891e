import CoupangEats.Platform.Server

/-!
What one call does to the server.

`ServerEffect` is what the invariants and the access results of the server are read
off: a call with declared fields writes an account, a category or one row for the user
it is admitted as, the cleanup job deletes orders, and everything else leaves the
database alone.
-/

namespace CoupangEats

open CoupangEats.Base

/-- What is written to the accounts, and by the user of which request: sign-ups and
verifications are nobody's. -/
inductive AccountWrite (db : Db) : Option String → Db → Prop
  | none {actor} : AccountWrite db actor db
  | added {row users} (new : db.users.find? row.id = .none) (live : row.deletedAt = .none)
      (unique : ∀ other ∈ db.users.rows, other.email ≠ row.email)
      (puts : db.users.Puts row users) : AccountWrite db .none { db with users }
  | verified {old users} (stored : db.users.find? old.id = some old)
      (puts : db.users.Puts { old with verified := true } users) :
      AccountWrite db .none { db with users }
  | updated {old name password users} (stored : db.users.find? old.id = some old)
      (puts : db.users.Puts { old with name, password } users) :
      AccountWrite db (some old.id) { db with users }

/-- A body with nothing but the fields that the request declares. -/
def SignUpBody.Declared (body : SignUpBody) : Prop :=
  ∀ entry ∈ body.fields, entry.1 ∈ ["email", "password", "name", "role"]

/-- The call's body has declared fields only. -/
def ServerCall.Declared : ServerCall → Prop
  | .signUp body _ => body.Declared
  | .member _ _ (.createCategory call) => call.Declared
  | .member _ _ (.catalogue request _) => request.Declared
  | .member _ _ (.createPayment body _) => CoupangEats.Declared body
  | .member _ _ (.review request _) => request.Declared
  | _ => True

/-- What a call with declared fields makes of the database and the categories. -/
inductive ServerEffect (deployment : Deployment) (s : ServerState) :
    ServerCall → ServerState → Prop
  | account {call actor s'} (write : AccountWrite s.db actor s'.db)
      (same : s'.categories = s.categories)
      (own : ∀ id, actor = some id → ∃ user,
        CoupangEats.actor deployment s call = some user ∧ user.id = id) :
      ServerEffect deployment s call s'
  | category {now authHeader call user row categories}
      (admitted : admitMember deployment s now authHeader (.createCategory call) = .ok user)
      (sluggish : Sluggish deployment.toLowerCase s.categories →
        Sluggish deployment.toLowerCase categories)
      (new : s.categories.find? row.id = none) (puts : s.categories.Puts row categories) :
      ServerEffect deployment s (.member now authHeader (.createCategory call))
        { s with db := { s.db with categories := liveCategories categories }, categories }
  | member {now authHeader request user db'}
      (admitted : admitMember deployment s now authHeader request = .ok user)
      (write : Write s.db user db') :
      ServerEffect deployment s (.member now authHeader request) { s with db := db' }
  | cron {now db'} (deleted : handleCron deployment.dayBefore now s.db = .ok db') :
      ServerEffect deployment s (.cron now) { s with db := db' }

/-! ### The accounts -/

section Accounts

variable {db : Db} {body : SignUpBody} {env : SignUpEnv}

theorem createUserOrThrow_store :
    (createUserOrThrow db body env).store =
      { db with users := (createUserOrThrow db body env).store.users } := by
  by_cases accepted : (createUserOrThrow db body env).Accepted
  · obtain ⟨_, ok⟩ := accepted
    rw [createUserOrThrow, transactional_store ok]
    unfold createUserBody
    split
    · rfl
    · split <;> rfl
  · rw [createUserOrThrow, transactional_rollback accepted]

theorem signUp_db (redis : Redis) :
    (signUp db redis body env).db = (createUserOrThrow db body env).store := by
  simp only [signUp]
  split
  · rfl
  · split
    · rfl
    · split <;> rfl

/-- A sign-up with declared fields adds an account with a new address, or does nothing. -/
theorem signUp_write (redis : Redis) (declared : body.Declared) :
    AccountWrite db none (signUp db redis body env).db := by
  have absent {name : String} (other : name ∉ ["email", "password", "name", "role"]) :
      (body.toEntity env.hashedPassword).read name = none := by
    rw [body.read_toEntity _ _ (by rintro rfl; simp at other)]
    exact read_undeclared declared other
  rw [signUp_db, createUserOrThrow_store]
  rcases createUserOrThrow_cases db body env with same | ⟨-, -, row, saved⟩
  · rw [same]
    exact .none
  · generalize (createUserOrThrow db body env).store.users = users at saved
    rw [Mapping.save_unnamed (absent (by decide))] at saved
    obtain ⟨made, accepted, inserted⟩ := Mapping.saveNew_eq_some saved
    have fresh := (Table.insert_eq_some inserted).1
    refine .added fresh ?_ ?_ (Table.puts_insert inserted)
    · simp only [userMapping, Mapping.ofWrite, UserRow.write, Option.bind_eq_bind,
        Option.bind_eq_some_iff, Option.pure_def, Option.some.injEq] at made
      obtain ⟨_, -, _, -, _, -, _, -, _, -, deletedAt, column, rfl⟩ := made
      simpa [CoupangEats.column, absent (show "deletedAt" ∉ _ by decide), eq_comm] using column
    · intro other mem same
      exact Table.find?_eq_none_iff.mp fresh other mem
        (acceptsUser_eq_true.mp accepted other mem same)

theorem verifyEmail_write (s : AccountState) (token : String) (env : VerifyEnv) :
    AccountWrite s.db none (verifyEmail s token env).1.db := by
  rcases verifyEmail_cases s token env with same | ⟨user, marks, db, -⟩
  · rw [same]
    exact .none
  · obtain ⟨email, -, -, found⟩ := marks.account
    have stored := Table.find?_of_mem (userByEmail?_eq_some found).1
    rw [db]
    exact .verified stored (Table.puts_modify stored rfl)

theorem updateProfile_write (s : AccountState) (userId : String) (dto : Fields)
    (env : UpdateEnv) :
    AccountWrite s.db (some userId) (updateProfile s userId dto env).1.db := by
  rcases updateProfile_cases s userId dto env with same | ⟨user, known, db, -⟩
  · rw [same]
    exact .none
  · have stored := Db.user?_stored known
    rw [db, ← Db.user?_id known]
    exact .updated stored (Table.puts_modify stored rfl)

end Accounts

/-! ### The calls -/

section Calls

variable {deployment : Deployment} {s : ServerState}

theorem actor_of_admitted {now : Time} {authHeader : Option String} {request : MemberRequest}
    {user : UserRow} (admitted : admitMember deployment s now authHeader request = .ok user) :
    actor deployment s (.member now authHeader request) = some user := by
  simp [actor, admitted, Except.toOption]

/-- A call that leaves the database and the categories alone. -/
theorem ServerEffect.none {call : ServerCall} (redis : Redis) :
    ServerEffect deployment s call { s with redis } :=
  .account (@AccountWrite.none _ .none) rfl fun _ given => by cases given

/-- The categories after a request with declared fields. -/
theorem category_effect {call : CategoryCall} {output : Except ApiError CategoryEntity}
    {categories : Categories} (declared : call.Declared)
    (step : (categoryService deployment.toLowerCase).step s.categories call =
      (categories, output)) :
    categories = s.categories ∨ ∃ row, s.categories.find? row.id = none ∧
      s.categories.Puts row categories ∧ row.deletedAt = none := by
  simp only [categoryService] at step
  split at step
  · rename_i valid
    split at step
    · cases step
      exact .inl rfl
    · rename_i row after created
      cases step
      obtain ⟨-, -, live, inserted, -⟩ := createCategory_row valid declared created
      exact .inr ⟨row, (Table.insert_eq_some inserted).1, Table.puts_insert inserted, live⟩
  · cases step
    exact .inl rfl

/-- The effect of an admitted request. -/
theorem serveMember_effect {now : Time} {authHeader : Option String} {request : MemberRequest}
    {user : UserRow} (linked : Linked s.db) (shown : s.db.categories = liveCategories s.categories)
    (declared : (ServerCall.member now authHeader request).Declared)
    (admitted : admitMember deployment s now authHeader request = .ok user) :
    ServerEffect deployment s (.member now authHeader request)
      (serveMember deployment s user authHeader request).1 := by
  obtain ⟨known, role, -⟩ := admitMember_eq_ok admitted
  cases request with
  | signOut time => exact .none _
  | updateUser dto env =>
      refine .account (updateProfile_write ⟨s.db, s.redis⟩ user.id dto env) rfl fun id same => ?_
      exact ⟨user, actor_of_admitted admitted, Option.some.inj same⟩
  | getUser userId env =>
      simp only [serveMember]
      split
      · exact .none _
      · exact .none s.redis
  | createCategory call =>
      simp only [serveMember]
      generalize step : (categoryService deployment.toLowerCase).step s.categories call = out
      rcases category_effect declared (step : _ = (out.1, out.2)) with same | ⟨row, new, puts, -⟩
      · rw [same, ← shown]
        exact .none s.redis
      · refine .category admitted (fun sluggish => ?_) new puts
        exact sluggish.step (e := ⟨s.categories, call, out.2, out.1⟩) step
  | catalogue request env => exact .member admitted (write_of_catalogue known declared rfl)
  | createOrder dto env =>
      exact .member admitted (write_of_createOrder known (rolesGuard_client.mp role) rfl)
  | editOrderStatus orderId status faults =>
      exact .member admitted (write_of_editOrderStatus known linked rfl)
  | createPayment body generated => exact .member admitted (write_of_payment known declared rfl)
  | review request env => exact .member admitted (write_of_review known declared rfl)

/-- Every call with declared fields has one of the effects. -/
theorem server_effect {e : ServerEvent} (linked : Linked e.before.db)
    (shown : e.before.db.categories = liveCategories e.before.categories)
    (declared : e.input.Declared)
    (step : (server deployment).step e.before e.input = (e.after, e.output)) :
    ServerEffect deployment e.before e.input e.after := by
  obtain ⟨s, call, reply, s'⟩ := e
  rw [show s' = ((server deployment).step s call).1 from (congrArg Prod.fst step).symm]
  cases call with
  | signUp body env =>
      exact .account (signUp_write s.redis declared) rfl fun _ given => by cases given
  | verifyEmail token env =>
      exact .account (verifyEmail_write ⟨s.db, s.redis⟩ token env) rfl fun _ given => by cases given
  | signIn email password clock => exact .none _
  | refresh guarded clock cookie => exact .none _
  | member now authHeader request =>
      simp only [server]
      split
      · exact .none s.redis
      · rename_i user admitted
        exact serveMember_effect linked shown declared admitted
  | cron now =>
      simp only [server]
      split
      · exact .none s.redis
      · rename_i db deleted
        exact .cron deleted

end Calls

end CoupangEats
