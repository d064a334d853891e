import CoupangEats.Platform.Integrity
import CoupangEats.Order.Refusals

/-!
What the server fails with.

An exception that a service throws has a status of its own; everything else is
answered as an internal error. Behind the guards the services read properties of rows
they have loaded, and would throw a `TypeError` at a row without its relation. In a
sound store none of them meets such a row, so what is left (`ExpectedFailure`) are the
database, the cache, the mail service, an expiration that the token library cannot
read, and a `null` among the options of an ordered item (`failures_expected`).
-/

namespace CoupangEats

open CoupangEats.Base

/-! ### Failures -/

/-- The cache fails the call, where a failing cache is not passed over. -/
def ServerCall.cacheFails : ServerCall → Bool
  | .signUp _ env => env.cacheDown
  | .verifyEmail _ env => env.cacheDown || env.deleteFails
  | .member _ _ (.updateUser _ env) => env.deleteFails
  | _ => false

/-- What a call may fail with when it is answered as an internal error. -/
inductive ExpectedFailure (deployment : Deployment) : ServerCall → String → Prop
  | database {call} : ExpectedFailure deployment call "QueryFailedError"
  | cache {call} (down : call.cacheFails = true) : ExpectedFailure deployment call "RedisError"
  | mail {body env} (down : env.mailDown = true) :
      ExpectedFailure deployment (.signUp body env) "MailError"
  | expiration {call}
      (unread : deployment.jwt.lifetime deployment.config.accessExpiration = none ∨
        deployment.jwt.lifetime deployment.config.refreshExpiration = none) :
      ExpectedFailure deployment call
        "\"expiresIn\" should be a number of seconds or string representing a timespan"
  | nullOption {now authHeader dto env item} (ordered : item ∈ dto.items)
      (null : Json.null ∈ item.options.getD []) :
      ExpectedFailure deployment (.member now authHeader (.createOrder dto env))
        "Cannot read properties of null (reading 'name')"

/-- The internal errors of a result are allowed. -/
def FailsOnly {α : Type} (allowed : String → Prop) (result : Except ApiError α) : Prop :=
  ∀ m, result = .error (.internal m) → allowed m

section FailsOnly

variable {α β : Type} {allowed allowed' : String → Prop} {result : Except ApiError α}

@[simp] theorem failsOnly_ok (a : α) : FailsOnly allowed (.ok a) := by
  intro m failed
  cases failed

@[simp] theorem failsOnly_error {e : ApiError} :
    FailsOnly allowed (.error e : Except ApiError α) ↔ ∀ m, e = .internal m → allowed m := by
  simp [FailsOnly]

theorem failsOnly_internal {m : String} (expected : allowed m) :
    FailsOnly allowed (.error (.internal m) : Except ApiError α) := by
  simpa using expected

theorem FailsOnly.map (fails : FailsOnly allowed result) (f : α → β) :
    FailsOnly allowed (result.map f) := by
  cases result with
  | error e => exact failsOnly_error.mpr (failsOnly_error.mp fails)
  | ok a => exact failsOnly_ok _

theorem FailsOnly.mono (fails : FailsOnly allowed result) (more : ∀ m, allowed m → allowed' m) :
    FailsOnly allowed' result :=
  fun m failed => more m (fails m failed)

/-- Errors that pass through fail as before. -/
theorem FailsOnly.error (fails : FailsOnly allowed result) {e : ApiError}
    (failed : result = .error e) : FailsOnly allowed (.error e : Except ApiError β) := by
  rw [failsOnly_error, ← failsOnly_error (α := α), ← failed]
  exact fails

/-- A transaction fails as its body does, or with the database. -/
theorem FailsOnly.transactional {σ ν : Type} {before : σ} {commitFails : Bool}
    {body : Body σ ApiError ν α} (fails : FailsOnly allowed body.result)
    (database : allowed "QueryFailedError") :
    FailsOnly allowed (transactional commitFails queryFailed before body).result := by
  unfold Base.transactional
  split
  · rename_i e failed
    exact fails.error failed
  · split
    · exact failsOnly_internal database
    · simp

end FailsOnly

/-- Failures of the database only. -/
def DatabaseOnly {α : Type} (result : Except ApiError α) : Prop :=
  FailsOnly (· = "QueryFailedError") result

/-- An operation fails as its checks do, or with the database. -/
theorem operation_fails {α β : Type} {env : CatalogueEnv} {check : Except ApiError β}
    {write : β → Option (α × Db)} (fails : DatabaseOnly check) :
    DatabaseOnly (operation env check write) := by
  unfold operation
  split
  · rename_i e
    exact fails.error rfl
  · split
    · exact failsOnly_internal rfl
    · exact failsOnly_ok _

/-! ### The accounts and their tokens -/

section Accounts

variable {deployment : Deployment} {s : ServerState}

theorem createUserOrThrow_fails (db : Db) (body : SignUpBody) (env : SignUpEnv) :
    DatabaseOnly (createUserOrThrow db body env).result := by
  apply FailsOnly.transactional
  · unfold createUserBody
    split
    · simp
    · split
      · exact failsOnly_internal rfl
      · simp
  · rfl

theorem signUp_fails (db : Db) (redis : Redis) (body : SignUpBody) (env : SignUpEnv) :
    FailsOnly (ExpectedFailure deployment (.signUp body env))
      (signUp db redis body env).result := by
  simp only [signUp]
  split
  · rename_i e failed
    have fails := (createUserOrThrow_fails db body env).error (β := Unit) failed
    exact fails.mono fun m same => same ▸ .database
  · split
    · rename_i down
      exact failsOnly_internal (.cache down)
    · split
      · rename_i down
        exact failsOnly_internal (.mail down)
      · simp

theorem verifyEmail_fails (s : AccountState) (token : String) (env : VerifyEnv) :
    FailsOnly (ExpectedFailure deployment (.verifyEmail token env))
      (verifyEmail s token env).2 := by
  have cache (down : env.cacheDown = true ∨ env.deleteFails = true) :
      ExpectedFailure deployment (.verifyEmail token env) "RedisError" :=
    .cache (by simpa [ServerCall.cacheFails] using down)
  simp only [verifyEmail]
  split
  · rename_i down
    exact failsOnly_internal (cache (.inl down))
  · split
    · simp
    · split
      · simp
      · split
        · simp
        · split
          · exact failsOnly_internal .database
          · split
            · rename_i down
              exact failsOnly_internal (cache (.inr down))
            · simp
    · exact failsOnly_internal .database

theorem updateProfile_fails {now : Time} {authHeader : Option String} (s : AccountState)
    (userId : String) (dto : Fields) (env : UpdateEnv) :
    FailsOnly (ExpectedFailure deployment (.member now authHeader (.updateUser dto env)))
      (updateProfile s userId dto env).2 := by
  unfold updateProfile updateUser
  split
  · simp
  · split
    · split
      · simp
      · split
        · exact failsOnly_internal .database
        · split
          · rename_i down
            exact failsOnly_internal (.cache down)
          · simp
    · simp

theorem getUser_fails (s : AccountState) (userId : String) (env : WrapEnv) :
    FailsOnly (fun _ => False) (getUser s userId env).2 := by
  have read : FailsOnly (fun _ => False) (readUser s.db userId) := by
    unfold readUser
    split
    · simp
    · simp
  simp only [getUser, wrapMethod]
  split
  · exact read
  · split
    · simp
    · split
      · rename_i e t failed
        exact read.error (congrArg Prod.fst failed)
      · split_ifs <;> simp

/-- New tokens fail only if an expiration cannot be read. -/
theorem generateTokenPair_fails {call : ServerCall} (redis : Redis) (clock : Clock)
    (owner : String) :
    FailsOnly (ExpectedFailure deployment call)
      (generateTokenPair deployment.jwt deployment.config redis clock owner).1 := by
  unfold generateTokenPair generateAccessToken generateRefreshToken
  cases access : deployment.jwt.lifetime deployment.config.accessExpiration with
  | none => exact failsOnly_internal (.expiration (.inl access))
  | some lifetime =>
      cases refresh : deployment.jwt.lifetime deployment.config.refreshExpiration with
      | none => exact failsOnly_internal (.expiration (.inr refresh))
      | some lifetime' => simp

theorem signIn_fails {call : ServerCall} (db : Db) (redis : Redis) (email password : String)
    (clock : Clock) :
    FailsOnly (ExpectedFailure deployment call)
      (signIn deployment.jwt deployment.config db deployment.compare redis email password
        clock).1 := by
  unfold signIn
  split
  · simp
  · split
    · exact generateTokenPair_fails _ _ _
    · simp

/-- The token has been verified by the guard when the service verifies it. -/
theorem refresh_fails {call : ServerCall} (redis : Redis) (guarded : Time) (clock : Clock)
    (cookie : Option String) :
    FailsOnly (ExpectedFailure deployment call)
      (refresh deployment.jwt deployment.config redis guarded clock cookie).1 := by
  unfold refresh
  cases passed : refreshTokenGuard deployment.jwt deployment.config guarded cookie with
  | error e =>
      have fails : FailsOnly (ExpectedFailure deployment call)
          (refreshTokenGuard deployment.jwt deployment.config guarded cookie) := by
        unfold refreshTokenGuard
        split
        · simp
        · split_ifs
          · simp
          · split
            · simp
            · split_ifs <;> simp
      exact fails.error passed
  | ok token =>
      obtain ⟨-, payload, verified, -⟩ := refreshTokenGuard_eq_ok passed
      simp only [refreshTokens, verifyRefreshToken, verifyToken, verified]
      by_cases expired : payload.exp ≤ seconds clock.verified
      · simp [expired]
      · by_cases type : payload.type = .refresh
        · simp only [expired, type, if_false, ne_eq, not_true_eq_false, Bool.false_eq_true]
          split
          · rename_i e failed
            split_ifs at failed
            cases failed
            simp
          · split
            · simp
            · exact generateTokenPair_fails _ _ _
        · simp [expired, type]

end Accounts

/-! ### The orders -/

section Orders

variable {db : Db} {user : UserRow}

/-- A property of a `null` option is read. -/
def ReadsNull (options : List Json) (m : String) : Prop :=
  m = "Cannot read properties of null (reading 'name')" ∧ Json.null ∈ options

theorem findOption_fails (stored : List DishOption) (userOption : Json) :
    FailsOnly (ReadsNull [userOption]) (findOption stored userOption) := by
  have name : FailsOnly (ReadsNull [userOption]) (optionName userOption) := by
    cases userOption with
    | null => exact failsOnly_internal ⟨rfl, List.mem_singleton_self _⟩
    | bool | num | str | arr | obj => simp [optionName]
  induction stored with
  | nil => simp [findOption]
  | cons o rest ih =>
      unfold findOption
      split
      · rename_i e unread
        exact name.error unread
      · split
        · simp
        · exact ih

theorem addOptions_fails (dish : DishRow) (p : ℚ) (options : List Json) :
    FailsOnly (ReadsNull options) (addOptions dish p options) := by
  have later {userOption : Json} {rest : List Json} (m : String) (reads : ReadsNull rest m) :
      ReadsNull (userOption :: rest) m :=
    ⟨reads.1, List.mem_cons_of_mem _ reads.2⟩
  induction options generalizing p with
  | nil => simp [addOptions]
  | cons userOption rest ih =>
      unfold addOptions
      split
      · rename_i e unfound
        refine ((findOption_fails _ userOption).error unfound).mono fun m reads => ?_
        exact ⟨reads.1, List.mem_singleton.mp reads.2 ▸ List.mem_cons_self⟩
      · exact (ih p).mono later
      · exact (ih _).mono later

/-- A property of a `null` option of some item is read. -/
def ReadsNullOf (items : List CreateOrderItemDto) (m : String) : Prop :=
  ∃ item ∈ items, ReadsNull (item.options.getD []) m

theorem processItems_fails (dishes : List DishRow) (acc : List NewOrderItem) (p : ℚ)
    (items : List CreateOrderItemDto) :
    FailsOnly (ReadsNullOf items) (processItems dishes acc p items) := by
  induction items generalizing acc p with
  | nil => simp [processItems]
  | cons item rest ih =>
      unfold processItems
      split
      · simp
      · rename_i dish found
        split
        · rename_i e failed
          have fails : FailsOnly (ReadsNull (item.options.getD []))
              (processOrderItem item dish) := by
            unfold processOrderItem
            split
            · rename_i e' unadded
              exact (addOptions_fails dish _ _).error unadded
            · simp
          exact (fails.error failed).mono fun m reads => ⟨item, List.mem_cons_self, reads⟩
        · refine (ih _ _).mono fun m reads => ?_
          obtain ⟨item', mem, reads⟩ := reads
          exact ⟨item', List.mem_cons_of_mem _ mem, reads⟩

theorem createOrder_fails (db : Db) (customer : UserRow) (dto : CreateOrderDto)
    (env : CreateOrderEnv) :
    FailsOnly (fun m => m = "QueryFailedError" ∨ ReadsNullOf dto.items m)
      (createOrder db customer dto env).result := by
  have assembled : FailsOnly (ReadsNullOf dto.items) (assembleOrder db customer dto) := by
    unfold assembleOrder
    split
    · simp
    · split
      · rename_i e failed
        exact (processItems_fails _ _ _ _).error failed
      · simp
  apply FailsOnly.transactional
  · unfold createOrderBody
    split
    · rename_i e failed
      exact (assembled.error failed).mono fun m reads => .inr reads
    · split
      · exact failsOnly_internal (.inl rfl)
      · simp
  · exact .inl rfl

/-- The restaurant of a stored order loads. -/
theorem editOrderStatus_fails (sound : Sound db) (user : UserRow) (orderId : String)
    (status : OrderStatus) (faults : Faults) :
    DatabaseOnly (editOrderStatus db user orderId status faults).result := by
  apply FailsOnly.transactional
  · unfold editOrderStatusBody
    split
    · simp
    · rename_i order loaded
      have place : ∃ restaurant, order.restaurant = some restaurant := by
        have stored := loadOrder_row loaded
        have mem := Table.mem_of_find? stored
        obtain ⟨id, here⟩ := Option.isSome_iff_exists.mp (sound.complete _ mem).2
        obtain ⟨restaurant, found, -⟩ := sound.places _ mem id here
        rw [loadOrder_restaurant loaded, here]
        exact ⟨restaurant, sound.restaurant? found⟩
      obtain ⟨restaurant, loads⟩ := place
      have applied : FailsOnly (· = "QueryFailedError") (applyEdit user order status) := by
        unfold applyEdit
        simp only [loads]
        cases user.role with
        | client => simp
        | owner => split_ifs <;> simp
        | delivery =>
            simp only
            split
            · simp
            · split_ifs <;> simp
            · simp
      split
      · rename_i e failed
        exact applied.error failed
      · split
        · exact failsOnly_internal rfl
        · simp
  · rfl

end Orders

/-! ### The other services -/

section Services

variable {db : Db} {user : UserRow}

/-- The restaurant of a stored dish loads. -/
theorem ownDish_fails (sound : Sound db) {refusal : String} {found : Option DishRow}
    (stored : ∀ dish, found = some dish → dish ∈ db.dishes.rows) :
    DatabaseOnly (ownDish db user refusal found) := by
  unfold ownDish
  split
  · simp [DatabaseOnly]
  · rename_i dish
    obtain ⟨restaurant, here, -⟩ := sound.menus dish (stored dish rfl) dish.restaurantId rfl
    rw [sound.restaurant? here]
    simp only [DatabaseOnly]
    split_ifs <;> simp

theorem handleCatalogue_fails (sound : Sound db) (owner : UserRow) (env : CatalogueEnv)
    (request : CatalogueRequest) : DatabaseOnly (handleCatalogue db owner env request) := by
  have live {id : String} {dish : DishRow} (found : db.dish? id = some dish) :
      dish ∈ db.dishes.rows :=
    Table.mem_of_find? (Db.dish?_eq_some.mp found).1
  cases request with
  | createRestaurant body =>
      refine (operation_fails ?_).map _
      unfold restaurantToCreate DatabaseOnly
      split
      · simp
      · simp only
        split <;> simp
  | updateRestaurant restaurantId body =>
      refine (operation_fails ?_).map _
      unfold restaurantToUpdate DatabaseOnly
      split
      · simp
      · simp only
        split_ifs <;> simp
  | createDish restaurantId body =>
      refine (operation_fails ?_).map _
      unfold dishToCreate DatabaseOnly
      split
      · simp
      · split_ifs <;> simp
  | updateDish restaurantId dishId body =>
      refine (operation_fails ?_).map _
      simp only [dishToUpdate, DatabaseOnly]
      split
      · rename_i e failed
        refine (ownDish_fails sound fun dish same => ?_).error failed
        exact live (Option.filter_eq_some_iff.mp same).1
      · simp
  | deleteDish dishId =>
      exact (operation_fails (ownDish_fails sound fun _ same => live same)).map _

theorem catalogue_fails (sound : Sound db) (call : CatalogueCall) :
    DatabaseOnly (catalogue.step db call).2 := by
  simp only [catalogue]
  split
  · rename_i e refused
    have admission : DatabaseOnly (admitCatalogue db call) := by
      unfold admitCatalogue DatabaseOnly
      split
      · simp
      · split_ifs <;> simp
    exact admission.error refused
  · split
    · rename_i e failed
      exact (handleCatalogue_fails sound _ _ _).error failed
    · exact failsOnly_ok _

/-- The customer of a reviewed order loads, and is the author of the review. -/
theorem ownReview_fails (sound : Sound db) (refusal reviewId : String) :
    DatabaseOnly (ownReview db user refusal reviewId) := by
  unfold ownReview
  split
  · simp [DatabaseOnly]
  · rename_i review found
    have mem : review ∈ db.reviews.rows :=
      Table.mem_of_find? (Option.filter_eq_some_iff.mp found).1
    obtain ⟨orderId, of⟩ := Option.isSome_iff_exists.mp (sound.reviewed review mem)
    obtain ⟨order, stored, author, -⟩ := sound.reviews review mem orderId of
    have mem' := Table.mem_of_find? stored
    obtain ⟨clientId, own⟩ := Option.isSome_iff_exists.mp (sound.complete order mem').1
    obtain ⟨client, known, -⟩ := sound.customers order mem' clientId own
    rw [author, own, Option.bind_some, sound.user? known]
    simp only [DatabaseOnly]
    split_ifs <;> simp

theorem handleReview_fails (sound : Sound db) (user : UserRow) (env : CatalogueEnv)
    (request : ReviewRequest) : DatabaseOnly (handleReview db user env request) := by
  cases request with
  | createReview body =>
      refine (operation_fails ?_).map _
      simp only [reviewToCreate, DatabaseOnly]
      split
      · simp
      · rename_i order stored
        split
        · simp
        · -- The restaurant of a stored order loads.
          have mem := Table.mem_of_find? stored
          obtain ⟨id, here⟩ := Option.isSome_iff_exists.mp (sound.complete order mem).2
          obtain ⟨restaurant, found, -⟩ := sound.places order mem id here
          rw [here, Option.bind_some, sound.restaurant? found]
          simp only
          split
          · simp
          · split
            · simp
            · split <;> simp
  | updateReview reviewId body =>
      refine (operation_fails ?_).map _
      unfold reviewToUpdate DatabaseOnly
      split
      · rename_i e failed
        exact (ownReview_fails sound _ _).error failed
      · simp
  | deleteReview reviewId =>
      exact (operation_fails (ownReview_fails sound _ _)).map _

theorem review_fails (sound : Sound db) (call : ReviewCall) :
    DatabaseOnly (reviewService.step db call).2 := by
  simp only [reviewService]
  split
  · rename_i e refused
    have admission : DatabaseOnly (admitReview db call) := by
      unfold admitReview DatabaseOnly
      split
      · simp
      · split_ifs <;> simp
    exact admission.error refused
  · split
    · rename_i e failed
      exact (handleReview_fails sound _ _ _).error failed
    · exact failsOnly_ok _

theorem payment_fails (call : PaymentCall) : DatabaseOnly (paymentService.step db call).2 := by
  have fails : DatabaseOnly (createPayment db call) := by
    unfold createPayment processPayment DatabaseOnly
    split
    · simp
    · split
      · simp
      · split
        · simp only
          split
          · simp
          · split
            · simp
            · split
              · simp
              · split
                · exact failsOnly_internal rfl
                · simp
        · simp
  simp only [paymentService]
  split
  · rename_i e failed
    exact fails.error failed
  · exact failsOnly_ok _

theorem category_fails (toLowerCase : String → String) (categories : Categories)
    (call : CategoryCall) :
    DatabaseOnly ((categoryService toLowerCase).step categories call).2 := by
  have fails : DatabaseOnly (createCategory toLowerCase categories call) := by
    unfold createCategory DatabaseOnly
    split
    · simp
    · split
      · exact failsOnly_internal rfl
      · simp
  simp only [categoryService]
  split
  · split
    · rename_i e failed
      exact fails.error failed
    · exact failsOnly_ok _
  · simp [DatabaseOnly]

end Services

/-! ### The server -/

section Server

variable {deployment : Deployment} {s : ServerState} {now : Time} {authHeader : Option String}

/-- The guards throw exceptions only. -/
theorem admitMember_fails (request : MemberRequest) :
    FailsOnly (fun _ => False) (admitMember deployment s now authHeader request) := by
  have authorized : FailsOnly (fun _ => False)
      (authorize false deployment.jwt deployment.config s.db s.redis now authHeader) := by
    unfold authorize
    split
    · rename_i e refused
      have guard : FailsOnly (fun _ => False)
          (jwtBlacklistGuard false s.redis now authHeader) := by
        unfold jwtBlacklistGuard
        split
        · simp
        · split
          · simp
          · split_ifs <;> simp
      exact guard.error refused
    · unfold accessTokenGuard
      split
      · simp
      · split
        · simp
        · split
          · simp
          · split
            · simp
            · split
              · simp
              · split <;> simp
  unfold admitMember
  split
  · rename_i e refused
    exact authorized.error refused
  · simp
  · split <;> simp

/-- The token's user is the caller of the order service. -/
theorem orderService_createOrder {user : UserRow} (known : s.db.user? user.id = some user)
    (dto : CreateOrderDto) (env : CreateOrderEnv) :
    (orderService.step s.db (.createOrder user.id dto env)).2.result =
      (createOrder s.db user dto env).result.map .inl := by
  simp [orderService, orderStep, known]

theorem orderService_editOrderStatus {user : UserRow} (known : s.db.user? user.id = some user)
    (orderId : String) (status : OrderStatus) (faults : Faults) :
    (orderService.step s.db (.editOrderStatus user.id orderId status faults)).2.result =
      (editOrderStatus s.db user orderId status faults).result.map .inr := by
  simp [orderService, orderStep, known]

theorem serveMember_fails (sound : Sound s.db) {user : UserRow}
    (known : s.db.user? user.id = some user) (request : MemberRequest) :
    FailsOnly (ExpectedFailure deployment (.member now authHeader request))
      (serveMember deployment s user authHeader request).2.result := by
  have database {α : Type} {result : Except ApiError α} (fails : DatabaseOnly result) :
      FailsOnly (ExpectedFailure deployment (.member now authHeader request)) result :=
    fails.mono fun m same => same ▸ .database
  cases request with
  | signOut time => exact failsOnly_ok _
  | updateUser dto env => exact (updateProfile_fails _ _ _ _).map _
  | getUser userId env =>
      simp only [serveMember]
      split
      · exact ((getUser_fails _ _ _).mono fun _ never => never.elim).map _
      · simp
  | createCategory call => exact (database (category_fails _ _ _)).map _
  | catalogue request env => exact (database (catalogue_fails sound _)).map _
  | createOrder dto env =>
      simp only [serveMember, orderService_createOrder known]
      refine (((createOrder_fails _ _ _ _).mono fun m fails => ?_).map _).map _
      rcases fails with rfl | ⟨item, mem, rfl, null⟩
      · exact .database
      · exact .nullOption mem null
  | editOrderStatus orderId status faults =>
      simp only [serveMember, orderService_editOrderStatus known]
      exact ((database (editOrderStatus_fails sound _ _ _ _)).map _).map _
  | createPayment body generated => exact (database (payment_fails _)).map _
  | review request env => exact (database (review_fails sound _)).map _

theorem server_fails (sound : ServerSound s) (call : ServerCall) :
    FailsOnly (ExpectedFailure deployment call) ((server deployment).step s call).2.result := by
  cases call with
  | signUp body env => exact (signUp_fails _ _ _ _).map _
  | verifyEmail token env => exact (verifyEmail_fails _ _ _).map _
  | signIn email password clock => exact (signIn_fails _ _ _ _ _).map _
  | refresh guarded clock cookie => exact (refresh_fails _ _ _ _).map _
  | member now authHeader request =>
      simp only [server]
      split
      · rename_i e refused
        exact ((admitMember_fails request).error refused).mono fun _ never => never.elim
      · rename_i user admitted
        exact serveMember_fails sound.db (admitMember_eq_ok admitted).1 request
  | cron now =>
      simp only [server]
      split
      · rename_i e failed
        unfold handleCron deleteOrders at failed
        split_ifs at failed
        cases failed
        exact failsOnly_internal .database
      · exact failsOnly_ok _

end Server

/-- A sign-up whose mail is not sent. -/
def unsentSignUp : ServerCall :=
  .signUp ownerSignUp ⟨"hash", "owner", "token", 0, .none, false, true⟩

end CoupangEats
