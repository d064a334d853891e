import CoupangEats.Order.Queries
import CoupangEats.Order.Refusals
import CoupangEats.Payment.Ledger
import CoupangEats.User.Cache

/-!
What the responses show of an account.

`ApiResponseInterceptor` wraps what a handler returns and leaves it as it is, so
an account that a handler returns, or that is loaded with what it returns, is sent
with all its columns, the password hash among them. `Shows` says which accounts a
request shows. Two stores that differ in password hashes only are answered alike
exactly when they agree on the accounts that the request shows
(`responses_same_iff`).
-/

namespace CoupangEats

open CoupangEats.Base

/-! ### Entities in a response -/

def OrderStatus.text : OrderStatus → String
  | .pending => "Pending"
  | .cooking => "Cooking"
  | .cooked => "Cooked"
  | .pickedUp => "PickedUp"
  | .delivered => "Delivered"

def UserRow.toJson (user : UserRow) : Json := .obj user.toFields

def OrderRow.toFields (order : OrderRow) : Fields :=
  [("id", .str order.id), ("total", orNull (fun total => .num total.val) order.total),
    ("status", .str order.status.text), ("customerId", orNull .str order.customerId),
    ("driverId", orNull .str order.driverId), ("restaurantId", orNull .str order.restaurantId),
    ("createdAt", .num order.createdAt)]

def OrderItemRow.toJson (item : OrderItemRow) : Json :=
  .obj [("id", .str item.id), ("dishName", orNull .str item.dishName),
    ("options", orNull .arr item.options), ("orderId", orNull .str item.orderId)]

/-- An order of a query with the relations that were asked for. -/
def OrderView.toJson (joins : OrderJoins) (order : OrderView) : Json :=
  .obj (order.row.toFields ++ [("items", .arr (order.items.map OrderItemRow.toJson))] ++
    (if joins.restaurant then
      [("restaurant", orNull (fun restaurant => .obj restaurant.toFields) order.restaurant)]
    else []) ++
    (if joins.customer then [("customer", orNull UserRow.toJson order.customer)] else []) ++
    if joins.driver then [("driver", orNull UserRow.toJson order.driver)] else [])

def NewOrderItem.toJson (item : NewOrderItem) : Json :=
  .obj [("dish", .obj item.dish.toFields), ("dishName", .str item.dishName),
    ("options", orNull .arr item.options)]

/-- The entity that `createOrder` has made and saved. -/
def CreatedOrder.toJson (created : CreatedOrder) : Json :=
  .obj [("customer", created.order.customer.toJson),
    ("restaurant", .obj created.order.restaurant.toFields),
    ("restaurantId", .str created.order.restaurant.id), ("total", .num created.order.total),
    ("items", .arr (created.order.items.map NewOrderItem.toJson)),
    ("status", .str created.order.status.text), ("id", .str created.id),
    ("createdAt", .num created.createdAt)]

/-- The entity that `processPayment` has made of the body and saved. The order is
loaded with its items. -/
def paymentJson (db : Db) (user : UserRow) (body : Fields) (payment : PaymentRow) : Json :=
  let orderId := (body.readString "orderId").getD ""
  let order := db.orders.find? orderId
  let items := db.orderItems.rows.filter fun item => item.orderId = some orderId
  .obj (body ++ [("user", user.toJson),
    ("order", orNull (fun order => .obj (order.toFields ++
      [("items", .arr (items.map OrderItemRow.toJson))])) order),
    ("restaurantId", orNull .str (order.bind OrderRow.restaurantId)), ("id", .str payment.id)])

/-! ### Requests -/

inductive ApiRequest where
  | getUser (userId : String) (env : WrapEnv)
  | getOrders
  | getOrderById (orderId : String)
  | createOrder (body : Fields) (env : CreateOrderEnv)
  | processPayment (body : Fields) (generated : String)

/-- The relations that `getOrders` asks for. -/
def listJoins : Role → OrderJoins
  | .client => ⟨true, false, false⟩
  | .owner | .delivery => ⟨true, true, false⟩

/-- The handlers of the controllers, with their guards and pipes. -/
def handleRequest (s : AccountState) (user : UserRow) : ApiRequest → Except ApiError Json
  | .getUser userId env =>
      if isUuid userId then (getUser s userId env).2
      else .error (.badRequest "Validation failed (uuid is expected)")
  | .getOrders =>
      .ok (.arr ((getOrders s.db user).map (OrderView.toJson (listJoins user.role))))
  | .getOrderById orderId =>
      if isUuid orderId then
        (getOrderById s.db user orderId).map (OrderView.toJson ⟨true, true, true⟩)
      else .error (.badRequest "Validation failed (uuid is expected)")
  | .createOrder body env =>
      if user.role ≠ .client then .error (.forbidden "Forbidden resource")
      else (handleCreateOrder s.db user body env).map CreatedOrder.toJson
  | .processPayment body generated =>
      (createPayment s.db ⟨user.id, body, generated⟩).map fun out =>
        paymentJson s.db user body out.1

/-- `ApiResponseInterceptor`. -/
def apiResponse (data : Json) : Json := .obj [("success", .bool true), ("data", data)]

/-- The response to a request by the user of an access token. -/
def respond (s : AccountState) (callerId : String) (request : ApiRequest) : Except ApiError Json :=
  match s.db.user? callerId with
  | none => .error userNotFound
  | some user => (handleRequest s user request).map apiResponse

/-! ### Hashes -/

/-- The account with the hash of a table of hashes. -/
def UserRow.rehash (hash : String → String) (user : UserRow) : UserRow :=
  { user with password := hash user.id }

@[simp] theorem UserRow.rehash_id (hash : String → String) (user : UserRow) :
    (user.rehash hash).id = user.id := rfl

def Db.rehash (hash : String → String) (db : Db) : Db :=
  { db with users := db.users.mapRows (UserRow.rehash hash) (UserRow.rehash_id hash) }

def AccountState.rehash (hash : String → String) (s : AccountState) : AccountState :=
  ⟨s.db.rehash hash, s.redis⟩

/-- The states differ at most in password hashes. -/
structure SameButHashes (s s' : AccountState) : Prop where
  db : s'.db.rehash (fun _ => "") = s.db.rehash fun _ => ""
  redis : s'.redis = s.redis

/-- What the cache has for a `getUser`. -/
def cachedProfile (redis : Redis) (userId : String) (env : WrapEnv) : Option Json :=
  if env.readFails then none
  else (cacheGet redis env.read ("user/" ++ userId)).filter Json.truthy

/-- The accounts that the answer to a request shows: the one it asks for, when the
cache does not have it; the customers in the list of an owner or a driver; customer
and driver of an order in detail; and the caller who orders or pays. -/
inductive Shows (s : AccountState) (caller : UserRow) : ApiRequest → UserRow → Prop where
  | profile {userId env user} : isUuid userId = true → cachedProfile s.redis userId env = none →
      s.db.user? userId = some user → Shows s caller (.getUser userId env) user
  | listed {row customer} : caller.role ≠ .client → row ∈ s.db.orders.rows →
      Lists s.db caller row → row.customerId.bind s.db.user? = some customer →
      Shows s caller .getOrders customer
  | customer {orderId row customer} : isUuid orderId = true →
      s.db.orders.find? orderId = some row → MaySee s.db caller row →
      row.customerId.bind s.db.user? = some customer →
      Shows s caller (.getOrderById orderId) customer
  | driver {orderId row driver} : isUuid orderId = true → s.db.orders.find? orderId = some row →
      MaySee s.db caller row → row.driverId.bind s.db.user? = some driver →
      Shows s caller (.getOrderById orderId) driver
  | ordering {body dto order env} : caller.role = .client →
      CreateOrderDto.ofBody body = some dto → assembleOrder s.db caller dto = .ok order →
      env.faults = .none → (saveNewOrder s.db env order).isSome = true →
      Shows s caller (.createOrder body env) caller
  | paying {body generated order out} : Admitted s.db ⟨caller.id, body, generated⟩ caller order →
      paymentMapping.save s.db.acceptsPayment generated s.db.payments
        (paymentEntity body caller order) = some out →
      Shows s caller (.processPayment body generated) caller

/-! ### Other hashes in the store -/

section Store

variable {hash : String → String} {db : Db} {user : UserRow}

@[simp] theorem UserRow.rehash_role : (user.rehash hash).role = user.role := rfl

theorem users_find?_rehash (id : String) :
    (db.rehash hash).users.find? id = (db.users.find? id).map (UserRow.rehash hash) := by
  rw [Db.rehash, Table.find?_mapRows]

@[simp] theorem user?_rehash (id : String) :
    (db.rehash hash).user? id = (db.user? id).map (UserRow.rehash hash) := by
  rw [Db.user?, users_find?_rehash, Db.user?, Option.filter_map]
  rfl

@[simp] theorem restaurants_rehash : (db.rehash hash).restaurants = db.restaurants := rfl

@[simp] theorem orders_rehash : (db.rehash hash).orders = db.orders := rfl

@[simp] theorem orderItems_rehash : (db.rehash hash).orderItems = db.orderItems := rfl

@[simp] theorem payments_rehash : (db.rehash hash).payments = db.payments := rfl

@[simp] theorem restaurant?_rehash : (db.rehash hash).restaurant? = db.restaurant? := rfl

/-- A list that becomes another one's image is an image of the other one, when its
elements can be told from what they become. -/
theorem eq_map_of_map_eq {α β : Type} {f : α → β} {g : α → α} {l l' : List α}
    (same : l'.map f = l.map f) (restores : ∀ x' ∈ l', ∀ x, f x' = f x → x' = g x) :
    l' = l.map g := by
  induction l generalizing l' with
  | nil => simpa using same
  | cons x l ih =>
      cases l' with
      | nil => cases same
      | cons x' l' =>
          rw [List.map_cons, List.map_cons, List.cons.injEq] at same
          rw [List.map_cons, ← restores x' List.mem_cons_self x same.1,
            ← ih same.2 fun y mem => restores y (List.mem_cons_of_mem _ mem)]

/-- A store that differs in hashes only is the store with other hashes. -/
theorem exists_rehash {db' : Db} (same : db'.rehash (fun _ => "") = db.rehash fun _ => "") :
    ∃ hash, db' = db.rehash hash := by
  let hash (id : String) : String := ((db'.users.find? id).map UserRow.password).getD ""
  have users : db'.users.rows = db.users.rows.map (UserRow.rehash hash) := by
    apply eq_map_of_map_eq (congrArg (fun db => db.users.rows) same)
    intro user' mem user blank
    have id : user'.id = user.id := by simpa using congrArg UserRow.id blank
    have password : hash user.id = user'.password := by
      simp only [hash, ← id, Table.find?_of_mem mem, Option.map_some, Option.getD_some]
    obtain ⟨_, _, _, _, _, _, _⟩ := user'
    simp only [UserRow.rehash, UserRow.mk.injEq] at blank
    simp only [UserRow.rehash, password, blank]
  refine ⟨hash, ?_⟩
  obtain ⟨_, _, _, _, _, _, _, _⟩ := db'
  simp only [Db.rehash, Db.mk.injEq] at same ⊢
  exact ⟨Table.ext users, same.2⟩

/-- Other hashes change nothing else. -/
theorem sameButHashes_rehash (s : AccountState) (hash : String → String) :
    SameButHashes s (s.rehash hash) := by
  refine ⟨?_, rfl⟩
  have users : ((s.db.rehash hash).rehash fun _ => "").users = (s.db.rehash fun _ => "").users := by
    apply Table.ext
    exact List.map_map
  simp only [Db.rehash, AccountState.rehash, Db.mk.injEq, and_true] at users ⊢
  exact users

end Store

/-! ### The handlers on a store with other hashes -/

def OrderView.rehash (hash : String → String) (order : OrderView) : OrderView :=
  { order with
    customer := order.customer.map (UserRow.rehash hash)
    driver := order.driver.map (UserRow.rehash hash) }

def NewOrder.rehash (hash : String → String) (order : NewOrder) : NewOrder :=
  { order with customer := order.customer.rehash hash }

def CreatedOrder.rehash (hash : String → String) (created : CreatedOrder) : CreatedOrder :=
  { created with order := created.order.rehash hash }

section Handlers

variable {hash : String → String} {db : Db} {user : UserRow}

theorem viewOrder_rehash (joins : OrderJoins) (row : OrderRow) :
    viewOrder (db.rehash hash) joins row = (viewOrder db joins row).rehash hash := by
  obtain ⟨restaurant, customer, driver⟩ := joins
  cases customer <;> cases driver <;> simp [viewOrder, OrderView.rehash]

theorem joinsUser_rehash (userId : Option String) :
    joinsUser (db.rehash hash) (user.rehash hash) userId = joinsUser db user userId := by
  cases userId with
  | none => rfl
  | some userId => simp [joinsUser, Option.map_map, Function.comp_def]

theorem findOrders_rehash (joins : OrderJoins) (selects : OrderRow → Bool) :
    findOrders (db.rehash hash) joins selects =
      (findOrders db joins selects).map (OrderView.rehash hash) := by
  simp only [findOrders, List.map_map]
  exact List.map_congr_left fun row _ => viewOrder_rehash joins row

theorem getOrders_rehash :
    getOrders (db.rehash hash) (user.rehash hash) =
      (getOrders db user).map (OrderView.rehash hash) := by
  unfold getOrders
  rw [UserRow.rehash_role]
  cases user.role with
  | client => simp only [joinsUser_rehash, findOrders_rehash]
  | owner =>
      simp only [restaurants_rehash, restaurant?_rehash, UserRow.rehash_id, findOrders_rehash,
        apply_ite (List.map (OrderView.rehash hash)), List.map_nil]
      rfl
  | delivery => simp only [joinsUser_rehash, findOrders_rehash]

theorem map_checked {α β : Type} (refused : Prop) [Decidable refused] (e : ApiError)
    (answer : Except ApiError α) (f : α → β) :
    (if refused then Except.error e else answer).map f =
      if refused then .error e else answer.map f := by
  split
  · rfl
  · rfl

theorem getOrderById_rehash (orderId : String) :
    getOrderById (db.rehash hash) (user.rehash hash) orderId =
      (getOrderById db user orderId).map (OrderView.rehash hash) := by
  have found : findOrder (db.rehash hash) orderId =
      (findOrder db orderId).map (OrderView.rehash hash) := by
    rw [findOrder, findOrder, Option.map_map]
    exact congrArg (Option.map · _) (funext fun row => viewOrder_rehash _ row)
  unfold getOrderById
  rw [found, UserRow.rehash_role]
  cases findOrder db orderId with
  | none => rfl
  | some order =>
      simp only [Option.map_some, OrderView.rehash, UserRow.rehash_id]
      cases user.role with
      | client =>
          rw [map_checked]
          rfl
      | owner =>
          obtain ⟨row, place, customer, driver, items⟩ := order
          cases place with
          | none => rfl
          | some restaurant =>
              simp only
              rw [map_checked]
              rfl
      | delivery =>
          rw [map_checked]
          rfl

theorem assembleOrder_rehash (dto : CreateOrderDto) :
    assembleOrder (db.rehash hash) (user.rehash hash) dto =
      (assembleOrder db user dto).map (NewOrder.rehash hash) := by
  unfold assembleOrder
  rw [restaurant?_rehash, show dishesOf (db.rehash hash) dto = dishesOf db dto from rfl]
  cases db.restaurant? dto.restaurantId with
  | none => rfl
  | some restaurant =>
      simp only
      cases processItems (dishesOf db dto) [] 0 dto.items with
      | error e => rfl
      | ok made => rfl

theorem saveNewOrder_rehash (env : CreateOrderEnv) (order : NewOrder) :
    saveNewOrder (db.rehash hash) env (order.rehash hash) =
      (saveNewOrder db env order).map (Db.rehash hash) := by
  unfold saveNewOrder
  rw [users_find?_rehash, show (order.rehash hash).customer.id = order.customer.id from rfl,
    show (order.rehash hash).total = order.total from rfl]
  cases IntColumn.ofNumber order.total with
  | none => rfl
  | some total =>
      cases db.users.find? order.customer.id with
      | none => rfl
      | some customer =>
          simp only [Option.map_some, orders_rehash, orderItems_rehash]
          rw [show (order.rehash hash).row env.orderId total env.now =
            order.row env.orderId total env.now from rfl,
            show (order.rehash hash).items = order.items from rfl]
          cases db.orders.insert (order.row env.orderId total env.now) with
          | none => rfl
          | some orders =>
              simp only
              cases insertItems env.orderId env.itemId 0 order.items db.orderItems with
              | none => rfl
              | some orderItems => rfl

theorem handleCreateOrder_rehash (body : Fields) (env : CreateOrderEnv) :
    handleCreateOrder (db.rehash hash) (user.rehash hash) body env =
      (handleCreateOrder db user body env).map (CreatedOrder.rehash hash) := by
  unfold handleCreateOrder
  cases CreateOrderDto.ofBody body with
  | none => rfl
  | some dto =>
      simp only [createOrder, createOrderBody, assembleOrder_rehash]
      cases assembleOrder db user dto with
      | error e => rfl
      | ok order =>
          simp only [Except.map, saveNewOrder_rehash]
          cases env.faults.save with
          | true => rfl
          | false =>
              simp only [Bool.false_eq_true, if_false]
              cases saveNewOrder db env order with
              | none => rfl
              | some db' =>
                  cases commit : env.faults.commit with
                  | true => simp [transactional]
                  | false => simp [transactional, CreatedOrder.rehash]

theorem acceptsPayment_rehash : (db.rehash hash).acceptsPayment = db.acceptsPayment := by
  funext row
  simp only [Db.acceptsPayment, users_find?_rehash, Option.isSome_map]
  rfl

theorem processPayment_rehash (body : Fields) (generated : String) :
    processPayment (db.rehash hash) (user.rehash hash) body generated =
      (processPayment db user body generated).map fun out => (out.1, out.2.rehash hash) := by
  simp only [processPayment, orders_rehash, UserRow.rehash_id]
  cases db.orders.find? ((body.readString "orderId").getD "") with
  | none => rfl
  | some order =>
      simp only [map_checked]
      congr 1
      rw [show (db.rehash hash).paymentOf? order.id = db.paymentOf? order.id from rfl]
      cases db.paymentOf? order.id with
      | some payment => rfl
      | none =>
          simp only [acceptsPayment_rehash, payments_rehash]
          rw [show paymentEntity body (user.rehash hash) order = paymentEntity body user order
            from rfl]
          cases paymentMapping.save db.acceptsPayment generated db.payments
            (paymentEntity body user order) with
          | none => rfl
          | some out => rfl

theorem createPayment_rehash (call : PaymentCall) :
    createPayment (db.rehash hash) call =
      (createPayment db call).map fun out => (out.1, out.2.rehash hash) := by
  unfold createPayment
  rw [user?_rehash]
  cases db.user? call.userId with
  | none => rfl
  | some user =>
      simp only [Option.map_some, UserRow.rehash_role, map_checked]
      congr 1
      cases validPayment call.body with
      | false => rfl
      | true => exact processPayment_rehash _ _

/-- What a `getUser` is answered with. -/
theorem getUser_answer (s : AccountState) (userId : String) (env : WrapEnv) :
    (getUser s userId env).2 =
      match cachedProfile s.redis userId env with
      | some cached => .ok cached
      | none => readUser s.db userId := by
  unfold getUser wrapMethod cachedProfile
  cases env.readFails with
  | true => rfl
  | false =>
      simp only [Bool.false_eq_true, if_false]
      cases (cacheGet s.redis env.read ("user/" ++ userId)).filter Json.truthy with
      | some cached => rfl
      | none =>
          cases readUser s.db userId with
          | error e => rfl
          | ok user => cases env.setFails <;> cases env.expireFails <;> rfl

end Handlers

/-! ### What tells hashes apart -/

section Shown

variable {hash : String → String} {db : Db} {user : UserRow}

theorem map_eq_map_iff {α β : Type} {answer : Except ApiError α} {f g : α → β} :
    answer.map f = answer.map g ↔ ∀ a, answer = .ok a → f a = g a := by
  cases answer with
  | error e => exact iff_of_true rfl fun a same => by cases same
  | ok a => simp [Except.map]

theorem map_map {α β γ : Type} {answer : Except ApiError α} {f : α → β} {g : β → γ} :
    (answer.map f).map g = answer.map fun a => g (f a) := by
  cases answer with
  | error e => rfl
  | ok a => rfl

theorem user_same : (user.rehash hash).toJson = user.toJson ↔ user.rehash hash = user := by
  obtain ⟨_, _, _, _, _, _, _⟩ := user
  simp [UserRow.toJson, UserRow.toFields, UserRow.rehash]

theorem relation_same {related : Option UserRow} :
    orNull UserRow.toJson (related.map (UserRow.rehash hash)) = orNull UserRow.toJson related ↔
      ∀ user, related = some user → user.rehash hash = user := by
  cases related with
  | none => simp
  | some user => simpa [orNull] using user_same

theorem view_same {joins : OrderJoins} {order : OrderView} :
    (order.rehash hash).toJson joins = order.toJson joins ↔
      (joins.customer = true → ∀ user, order.customer = some user → user.rehash hash = user) ∧
        (joins.driver = true → ∀ user, order.driver = some user → user.rehash hash = user) := by
  obtain ⟨restaurant, customer, driver⟩ := joins
  rw [← relation_same, ← relation_same]
  cases customer <;> cases driver <;> simp [OrderView.toJson, OrderView.rehash]

theorem created_same {created : CreatedOrder} :
    (created.rehash hash).toJson = created.toJson ↔
      created.order.customer.rehash hash = created.order.customer := by
  rw [← user_same]
  simp [CreatedOrder.toJson, CreatedOrder.rehash, NewOrder.rehash]

theorem payment_same {body : Fields} {payment : PaymentRow} :
    paymentJson (db.rehash hash) (user.rehash hash) body payment =
      paymentJson db user body payment ↔ user.rehash hash = user := by
  rw [← user_same]
  simp [paymentJson]

end Shown

/-! ### What a request shows -/

section Requests

variable {hash : String → String} {s : AccountState} {caller : UserRow}

/-- The orders of a list are the stored ones that its rule selects. -/
theorem mem_getOrders {db : Db} {user : UserRow} {order : OrderView} :
    order ∈ getOrders db user ↔ ∃ row ∈ db.orders.rows, Lists db user row ∧
      order = viewOrder db (listJoins user.role) row := by
  have viewed : ∀ order ∈ getOrders db user,
      order = viewOrder db (listJoins user.role) order.row := by
    intro order mem
    have found {joins : OrderJoins} {selects : OrderRow → Bool}
        (mem : order ∈ findOrders db joins selects) : order = viewOrder db joins order.row := by
      obtain ⟨row, -, rfl⟩ := List.mem_map.mp mem
      rfl
    unfold getOrders at mem
    cases role : user.role with
    | client =>
        simp only [role] at mem
        exact found mem
    | owner =>
        simp only [role] at mem
        split at mem
        · cases mem
        · exact found mem
    | delivery =>
        simp only [role] at mem
        exact found mem
  obtain ⟨selects, rule, rows⟩ := getOrders_rows db user
  constructor
  · intro mem
    obtain ⟨stored, selected⟩ :=
      List.mem_filter.mp (rows.mem_iff.mp (List.mem_map_of_mem (f := OrderView.row) mem))
    exact ⟨order.row, stored, (rule _).mp selected, viewed order mem⟩
  · rintro ⟨row, stored, lists, rfl⟩
    have listed := rows.mem_iff.mpr (List.mem_filter.mpr ⟨stored, (rule row).mpr lists⟩)
    obtain ⟨order, mem, rfl⟩ := List.mem_map.mp listed
    rwa [← viewed order mem]

/-- What a request for an order creates. -/
theorem handleCreateOrder_eq_ok {db : Db} {user : UserRow} {body : Fields} {env : CreateOrderEnv}
    {created : CreatedOrder} :
    handleCreateOrder db user body env = .ok created ↔
      ∃ dto order, CreateOrderDto.ofBody body = some dto ∧ assembleOrder db user dto = .ok order ∧
        env.faults = .none ∧ (saveNewOrder db env order).isSome = true ∧
        created = ⟨env.orderId, env.now, order⟩ := by
  unfold handleCreateOrder
  cases CreateOrderDto.ofBody body with
  | none => simp
  | some dto =>
      obtain ⟨orderId, itemId, now, save, commit⟩ := env
      simp only [createOrder, createOrderBody, Option.some.injEq, exists_and_left, exists_eq_left']
      cases assembled : assembleOrder db user dto with
      | error e => simp [transactional]
      | ok order =>
          cases save with
          | true => simp [transactional, Faults.none]
          | false =>
              cases saved : saveNewOrder db ⟨orderId, itemId, now, ⟨false, commit⟩⟩ order with
              | none => simp [transactional, saved]
              | some db' =>
                  cases commit with
                  | true => simp [transactional, saved, Faults.none]
                  | false =>
                      simp only [transactional, saved, Faults.none, Option.isSome_some,
                        Except.ok.injEq, exists_eq_left', true_and, Bool.false_eq_true, if_false]
                      exact eq_comm

theorem getUser_same (userId : String) (env : WrapEnv) :
    (getUser (s.rehash hash) userId env).2 = (getUser s userId env).2 ↔
      (cachedProfile s.redis userId env = none → ∀ user, s.db.user? userId = some user →
        user.rehash hash = user) := by
  rw [getUser_answer, getUser_answer]
  simp only [AccountState.rehash]
  cases cachedProfile s.redis userId env with
  | some cached => exact iff_of_true rfl fun absent => by cases absent
  | none =>
      simp only [readUser, user?_rehash, true_implies]
      cases s.db.user? userId with
      | none => simp
      | some user =>
          simp only [Option.map_some, Except.ok.injEq, Option.some.injEq, forall_eq']
          exact user_same

theorem getOrders_same :
    (getOrders s.db caller).map (fun order => (order.rehash hash).toJson (listJoins caller.role)) =
        (getOrders s.db caller).map (OrderView.toJson (listJoins caller.role)) ↔
      ∀ user, Shows s caller .getOrders user → user.rehash hash = user := by
  rw [List.map_inj_left]
  have joined : (listJoins caller.role).driver = false ∧
      ((listJoins caller.role).customer = true ↔ caller.role ≠ .client) := by
    cases caller.role <;> simp [listJoins]
  simp only [view_same, joined, Bool.false_eq_true, false_implies, and_true]
  constructor
  · intro same user shows
    cases shows with
    | @listed row _ role stored lists known =>
        refine same _ (mem_getOrders.mpr ⟨row, stored, lists, rfl⟩) role user ?_
        simp only [viewOrder, joined.2.mpr role, if_true, known]
  · intro same order mem role user customer
    obtain ⟨row, stored, lists, rfl⟩ := mem_getOrders.mp mem
    simp only [viewOrder, joined.2.mpr role, if_true] at customer
    exact same user (.listed role stored lists customer)

theorem getOrderById_same {orderId : String} (uuid : isUuid orderId = true) :
    (getOrderById s.db caller orderId).map
        (fun order => (order.rehash hash).toJson ⟨true, true, true⟩) =
        (getOrderById s.db caller orderId).map (OrderView.toJson ⟨true, true, true⟩) ↔
      ∀ user, Shows s caller (.getOrderById orderId) user → user.rehash hash = user := by
  rw [map_eq_map_iff]
  simp only [view_same, true_implies, getOrderById_eq_ok, findOrder_eq_some]
  constructor
  · intro same user shows
    cases shows with
    | customer _ found sees known => exact (same _ ⟨⟨_, found, rfl⟩, sees⟩).1 user known
    | driver _ found sees known => exact (same _ ⟨⟨_, found, rfl⟩, sees⟩).2 user known
  · rintro same _ ⟨⟨row, found, rfl⟩, sees⟩
    exact ⟨fun user known => same user (.customer uuid found sees known),
      fun user known => same user (.driver uuid found sees known)⟩

theorem createOrder_same {body : Fields} {env : CreateOrderEnv} (role : caller.role = .client) :
    (handleCreateOrder s.db caller body env).map (fun created => (created.rehash hash).toJson) =
        (handleCreateOrder s.db caller body env).map CreatedOrder.toJson ↔
      ∀ user, Shows s caller (.createOrder body env) user → user.rehash hash = user := by
  rw [map_eq_map_iff]
  simp only [created_same, handleCreateOrder_eq_ok]
  constructor
  · intro same user shows
    cases shows with
    | ordering _ valid assembled unhindered saved =>
        have kept := same _ ⟨_, _, valid, assembled, unhindered, saved, rfl⟩
        rwa [(assembleOrder_spec assembled).2.2] at kept
  · rintro same _ ⟨dto, order, valid, assembled, unhindered, saved, rfl⟩
    rw [(assembleOrder_spec assembled).2.2]
    exact same caller (.ordering role valid assembled unhindered saved)

theorem createPayment_same {body : Fields} {generated : String}
    (known : s.db.user? caller.id = some caller) :
    (createPayment s.db ⟨caller.id, body, generated⟩).map (fun out =>
          paymentJson (s.db.rehash hash) (caller.rehash hash) body out.1) =
        (createPayment s.db ⟨caller.id, body, generated⟩).map (fun out =>
          paymentJson s.db caller body out.1) ↔
      ∀ user, Shows s caller (.processPayment body generated) user → user.rehash hash = user := by
  rw [map_eq_map_iff]
  simp only [payment_same]
  constructor
  · intro same user shows
    cases shows with
    | @paying _ _ order out admitted saved =>
        exact same (out.1, { s.db with payments := out.2 })
          (createPayment_eq_ok.mpr ⟨caller, order, admitted, out.2, saved, rfl⟩)
  · rintro same ⟨payment, db'⟩ paid
    obtain ⟨user, order, admitted, payments, saved, -⟩ := createPayment_eq_ok.mp paid
    have caller' : user = caller := Option.some.inj (admitted.known.symm.trans known)
    subst caller'
    exact same user (.paying admitted saved)

/-- A handler answers alike exactly when the accounts that it shows have kept their
hashes. -/
theorem handleRequest_same {request : ApiRequest} (known : s.db.user? caller.id = some caller) :
    handleRequest (s.rehash hash) (caller.rehash hash) request =
        handleRequest s caller request ↔
      ∀ user, Shows s caller request user → user.rehash hash = user := by
  cases request with
  | getUser userId env =>
      simp only [handleRequest]
      cases uuid : isUuid userId with
      | false =>
          refine iff_of_true rfl fun user shows => ?_
          cases shows with
          | profile valid _ _ => rw [uuid] at valid; cases valid
      | true =>
          rw [if_pos rfl, if_pos rfl, getUser_same]
          constructor
          · intro same user shows
            cases shows with
            | profile _ missed found => exact same missed user found
          · exact fun same missed user found => same user (.profile uuid missed found)
  | getOrders =>
      simp only [handleRequest, AccountState.rehash, getOrders_rehash, UserRow.rehash_role,
        List.map_map, Except.ok.injEq, Json.arr.injEq]
      exact getOrders_same
  | getOrderById orderId =>
      simp only [handleRequest]
      cases uuid : isUuid orderId with
      | false =>
          refine iff_of_true rfl fun user shows => ?_
          cases shows with
          | customer valid _ _ _ | driver valid _ _ _ => rw [uuid] at valid; cases valid
      | true =>
          simp only [if_true, AccountState.rehash, getOrderById_rehash, map_map]
          exact getOrderById_same uuid
  | createOrder body env =>
      by_cases role : caller.role = .client
      · simp only [handleRequest, UserRow.rehash_role, role, ne_eq, not_true_eq_false, if_false,
          AccountState.rehash, handleCreateOrder_rehash, map_map]
        exact createOrder_same role
      · refine iff_of_true ?_ fun user shows => ?_
        · simp only [handleRequest, UserRow.rehash_role, role, ne_eq, not_false_eq_true, if_true]
        · cases shows with
          | ordering role' _ _ _ _ => exact absurd role' role
  | processPayment body generated =>
      simp only [handleRequest, UserRow.rehash_id, AccountState.rehash, createPayment_rehash,
        map_map]
      exact createPayment_same known

/-- What is shown is stored. -/
theorem Shows.stored {request : ApiRequest} {user : UserRow} (shows : Shows s caller request user)
    (known : s.db.user? caller.id = some caller) : s.db.users.find? user.id = some user := by
  have related {id : Option String} (joined : id.bind s.db.user? = some user) :
      s.db.users.find? user.id = some user := by
    obtain ⟨id, -, found⟩ := Option.bind_eq_some_iff.mp joined
    exact Db.user?_stored found
  cases shows with
  | profile _ _ found => exact Db.user?_stored found
  | listed _ _ _ joined | customer _ _ _ joined | driver _ _ _ joined => exact related joined
  | ordering _ _ _ _ _ | paying _ _ => exact Db.user?_stored known

end Requests

/-- Two states that differ at most in password hashes answer a request alike, exactly
when they have the accounts that it shows with the same hashes. -/
theorem responses_same_iff {s s' : AccountState} (same : SameButHashes s s') (callerId : String)
    (request : ApiRequest) :
    respond s' callerId request = respond s callerId request ↔
      ∀ caller user, s.db.user? callerId = some caller → Shows s caller request user →
        s'.db.users.find? user.id = some user := by
  obtain ⟨hash, rehashed⟩ := exists_rehash same.db
  have other : s' = s.rehash hash := by
    obtain ⟨db, redis⟩ := s'
    simp only [AccountState.rehash, AccountState.mk.injEq]
    exact ⟨rehashed, same.redis⟩
  subst other
  unfold respond
  simp only [AccountState.rehash, user?_rehash]
  cases found : s.db.user? callerId with
  | none => exact iff_of_true rfl fun _ _ absent => by cases absent
  | some caller =>
      have known : s.db.user? caller.id = some caller := by rwa [Db.user?_id found]
      have wrapped : ∀ answer answer' : Except ApiError Json,
          answer'.map apiResponse = answer.map apiResponse ↔ answer' = answer := by
        intro answer answer'
        cases answer <;> cases answer' <;> simp [Except.map, apiResponse]
      simp only [Option.map_some, Option.some.injEq]
      rw [wrapped]
      refine (handleRequest_same known).trans ?_
      constructor
      · intro kept caller' user same shows
        subst same
        rw [users_find?_rehash, shows.stored known, Option.map_some, kept user shows]
      · intro kept user shows
        have stored := kept caller user rfl shows
        rw [users_find?_rehash, shows.stored known, Option.map_some, Option.some.injEq] at stored
        exact stored

/-- The sample order with an empty cache. -/
def orderedState : AccountState := ⟨orderedStore, .empty⟩

/-- The customer's own list shows no account. -/
theorem own_list_same :
    respond (orderedState.rehash fun _ => "hash") "customer" .getOrders =
      respond orderedState "customer" .getOrders := by
  refine (responses_same_iff (sameButHashes_rehash _ _) _ _).mpr fun caller user found shows => ?_
  have known : orderedStore.user? "customer" = some (sampleUser "customer" .client) := by
    decide +kernel
  cases shows with
  | listed role _ _ _ =>
      cases Option.some.inj (found.symm.trans known)
      exact absurd rfl role

/-- The owner's list has the customer's hash in it. -/
theorem customer_hash_listed :
    ¬ ∀ s s' : AccountState, SameButHashes s s' → ∀ callerId request,
      respond s' callerId request = respond s callerId request := by
  intro all
  have same := all orderedState _ (sameButHashes_rehash _ fun _ => "hash") "owner" .getOrders
  revert same
  decide +kernel

end CoupangEats
