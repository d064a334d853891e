import CoupangEats.Base.Transaction
import CoupangEats.Entity

/-!
The order service: `createOrder` and `editOrderStatus`.

Both are transactional. `createOrder` reads the restaurant and the dishes of its
items with two independent queries, computes the total from the stored prices in
one loop over the items, and stores the order with its items at once; the notice
to the owner waits for the commit. `editOrderStatus` reads the order without a
lock, checks the caller, changes the order in memory and saves the columns that
differ from the row it has read; its notices are sent at once.

The checks and the in-memory change of `editOrderStatus` (`applyEdit`) and its
write (`saveOrder`) are functions of their own, since a concurrent execution
takes them at different moments.
-/

namespace CoupangEats

open CoupangEats.Base

/-! ### Requests, entities and notices -/

/-- `CreateOrderItemDto`: `options` is validated as an array only, so its
elements are arbitrary JSON values. -/
structure CreateOrderItemDto where
  dishId : String
  options : Option (List Json)
  deriving DecidableEq, Repr

structure CreateOrderDto where
  restaurantId : String
  items : List CreateOrderItemDto
  deriving DecidableEq, Repr

/-- An order item before it is stored: the dish it refers to, the name
snapshot, and the options as the client sent them. -/
structure NewOrderItem where
  dish : DishRow
  dishName : String
  options : Option (List Json)
  deriving DecidableEq, Repr

/-- An order before it is stored. -/
structure NewOrder where
  customer : UserRow
  restaurant : RestaurantRow
  total : ℚ
  items : List NewOrderItem
  status : OrderStatus
  deriving DecidableEq, Repr

/-- The entity that `createOrder` returns. -/
structure CreatedOrder where
  id : String
  createdAt : Time
  order : NewOrder
  deriving DecidableEq, Repr

/-- An order as the `find` methods load it with its relations. -/
structure LoadedOrder where
  row : OrderRow
  restaurant : Option RestaurantRow
  driver : Option UserRow
  items : List OrderItemRow
  deriving DecidableEq, Repr

/-- What the gateway sends; `room` is the socket room it goes to, and
`newCookedOrder` goes to everyone. -/
inductive Notice where
  | newPendingOrder (room orderId restaurantId : String) (total : ℚ)
  | orderUpdate (room orderId : String) (status : OrderStatus) (driverId : Option String)
  | newCookedOrder (orderId restaurantName pickupAddress : String)
  deriving DecidableEq, Repr

/-- What a call of `createOrder` takes from outside: the generated ids of the
order and of its items, the time, and the faults. -/
structure CreateOrderEnv where
  orderId : String
  itemId : Nat → String
  now : Time
  faults : Faults

/-- The outcome of a call of the order service. -/
abbrev OrderOutcome (α : Type) := Outcome Db ApiError Notice α

/-! ### `createOrder` -/

/-- `userOption.name` for an element of the client's option array. -/
def optionName : Json → Except ApiError (Option Json)
  | .null => .error (.internal "Cannot read properties of null (reading 'name')")
  | .obj fields => .ok (Fields.read fields "name")
  | _ => .ok none

/-- `dish.options?.find((o) => o.name === userOption.name)`: the property of the
client's option is read for every stored option that is compared. -/
def findOption : List DishOption → Json → Except ApiError (Option DishOption)
  | [], _ => .ok none
  | o :: rest, userOption =>
      match optionName userOption with
      | .error e => .error e
      | .ok name => if name = some (.str o.name) then .ok (some o) else findOption rest userOption

/-- The loop over an item's options: the price plus the stored extras. -/
def addOptions (dish : DishRow) : ℚ → List Json → Except ApiError ℚ
  | itemPrice, [] => .ok itemPrice
  | itemPrice, userOption :: rest =>
      match findOption (dish.options.getD []) userOption with
      | .error e => .error e
      | .ok none => addOptions dish itemPrice rest
      | .ok (some validOption) => addOptions dish (itemPrice + validOption.extra) rest

def processOrderItem (itemDto : CreateOrderItemDto) (dish : DishRow) :
    Except ApiError (NewOrderItem × ℚ) :=
  match addOptions dish dish.price.val (itemDto.options.getD []) with
  | .error e => .error e
  | .ok itemPrice => .ok (⟨dish, dish.name, itemDto.options⟩, itemPrice)

/-- The loop over the items, with the entities built so far and the total. -/
def processItems (dishes : List DishRow) :
    List NewOrderItem → ℚ → List CreateOrderItemDto → Except ApiError (List NewOrderItem × ℚ)
  | orderItems, finalTotal, [] => .ok (orderItems, finalTotal)
  | orderItems, finalTotal, itemDto :: rest =>
      match dishes.find? fun d => d.id = itemDto.dishId with
      | none => .error (.notFound ("Dish not found: " ++ itemDto.dishId))
      | some dish =>
          match processOrderItem itemDto dish with
          | .error e => .error e
          | .ok (orderItem, itemPrice) =>
              processItems dishes (orderItems ++ [orderItem]) (finalTotal + itemPrice) rest

/-- The dishes that the second query of `createOrder` finds: the ones that are
not deleted and whose id some item names. Their restaurant is not asked for. -/
def dishesOf (db : Db) (dto : CreateOrderDto) : List DishRow :=
  let dishIds := dto.items.map CreateOrderItemDto.dishId
  db.dishes.rows.filter fun d => d.deletedAt.isNone && dishIds.contains d.id

/-- `createOrder` up to the save: both queries, the item loop and the entity. -/
def assembleOrder (db : Db) (customer : UserRow) (dto : CreateOrderDto) :
    Except ApiError NewOrder :=
  match db.restaurant? dto.restaurantId with
  | none => .error (.notFound ("don't exist " ++ dto.restaurantId))
  | some restaurant =>
      match processItems (dishesOf db dto) [] 0 dto.items with
      | .error e => .error e
      | .ok (items, finalTotal) =>
          .ok ⟨customer, restaurant, finalTotal + restaurant.deliveryFee.val, items, .pending⟩

/-- Store the items of an order, numbered from `n`. -/
def insertItems (orderId : String) (itemId : Nat → String) :
    Nat → List NewOrderItem → Table String OrderItemRow OrderItemRow.id →
      Option (Table String OrderItemRow OrderItemRow.id)
  | _, [], t => some t
  | n, item :: rest, t =>
      match
        t.insert ⟨itemId n, some item.dishName, item.options, some orderId, some item.dish.id⟩ with
      | none => none
      | some t' => insertItems orderId itemId (n + 1) rest t'

/-- The row of a new order. -/
def NewOrder.row (order : NewOrder) (id : String) (total : IntColumn) (now : Time) : OrderRow :=
  ⟨id, some total, order.status, some order.customer.id, none, some order.restaurant.id, now⟩

/-- `orderRepository.save` of a new order: the row and, by cascade, its items.
The restaurant and the dishes have just been read; the customer's row is
referenced by a foreign key. -/
def saveNewOrder (db : Db) (env : CreateOrderEnv) (order : NewOrder) : Option Db :=
  match IntColumn.ofNumber order.total, db.users.find? order.customer.id with
  | some total, some _ =>
      match db.orders.insert (order.row env.orderId total env.now) with
      | none => none
      | some orders =>
          match insertItems env.orderId env.itemId 0 order.items db.orderItems with
          | none => none
          | some orderItems => some { db with orders, orderItems }
  | _, _ => none

/-- The socket room of a restaurant's owner. -/
def ownerRoom (restaurant : RestaurantRow) : String := "Owner:" ++ restaurant.ownerId

/-- The body of `createOrder`. -/
def createOrderBody (db : Db) (customer : UserRow) (dto : CreateOrderDto) (env : CreateOrderEnv) :
    Body Db ApiError Notice CreatedOrder :=
  match assembleOrder db customer dto with
  | .error e => ⟨.error e, db, [], []⟩
  | .ok order =>
      match (if env.faults.save then none else saveNewOrder db env order) with
      | none => ⟨.error queryFailed, db, [], []⟩
      | some db' =>
          ⟨.ok ⟨env.orderId, env.now, order⟩, db', [],
            [.newPendingOrder (ownerRoom order.restaurant) env.orderId order.restaurant.id
              order.total]⟩

def createOrder (db : Db) (customer : UserRow) (dto : CreateOrderDto) (env : CreateOrderEnv) :
    OrderOutcome CreatedOrder :=
  transactional env.faults.commit queryFailed db (createOrderBody db customer dto env)

/-! ### `editOrderStatus` -/

/-- The order of an id with the relations of its row; a related row that is
soft-deleted loads as absent. -/
def loadOrder (db : Db) (orderId : String) : Option LoadedOrder :=
  match db.orders.find? orderId with
  | none => none
  | some row =>
      some
        { row
          restaurant := row.restaurantId.bind db.restaurant?
          driver := row.driverId.bind db.user?
          items := db.orderItems.rows.filter fun item => item.orderId = some orderId }

/-- The checks of `editOrderStatus` and the change it makes in memory. -/
def applyEdit (user : UserRow) (order : LoadedOrder) (status : OrderStatus) :
    Except ApiError LoadedOrder :=
  match user.role with
  | .client => .error (.forbidden "Client cannot change order status")
  | .owner =>
      match order.restaurant with
      | none => .error (.internal "Cannot read properties of null (reading 'ownerId')")
      | some restaurant =>
          if restaurant.ownerId ≠ user.id then .error (.forbidden "Not your restaurant")
          else if status ≠ .cooking ∧ status ≠ .cooked then
            .error (.forbidden "Owner can only update to Cooking or Cooked")
          else .ok { order with row := { order.row with status } }
  | .delivery =>
      match status with
      | .pickedUp => .ok { order with row := { order.row with status }, driver := some user }
      | .delivered =>
          if order.driver.map UserRow.id ≠ some user.id then .error (.forbidden "Not your delivery")
          else .ok { order with row := { order.row with status } }
      | _ => .error (.forbidden "Driver can only update to PickedUp or Delivered")

/-- The columns of an order in memory. A loaded relation decides its foreign
key column. -/
def LoadedOrder.columns (order : LoadedOrder) : OrderRow :=
  { order.row with
    driverId := order.driver.map UserRow.id
    restaurantId := order.restaurant.map RestaurantRow.id }

/-- The UPDATE of one column: `memory` is written over the `current` value when
it differs from the one that was `read`. -/
def saveColumn {α : Type} [DecidableEq α] (read memory current : α) : α :=
  if memory = read then current else memory

section Column

variable {α : Type} [DecidableEq α] {read memory current : α}

@[simp] theorem saveColumn_unchanged : saveColumn read read current = current := if_pos rfl

/-- The column ends up as it is in memory when it is so already where it is left
out. -/
theorem saveColumn_eq (kept : memory = read → current = memory) :
    saveColumn read memory current = memory := by
  unfold saveColumn
  split
  · rename_i same
    exact kept same
  · rfl

theorem saveColumn_cases :
    saveColumn read memory current = current ∨ saveColumn read memory current = memory := by
  unfold saveColumn
  split
  · exact .inl rfl
  · exact .inr rfl

end Column

/-- The UPDATE of a save: the columns in which `memory` differs from the row
that was read, written over the row that is there now. -/
def OrderRow.overwrite (read memory current : OrderRow) : OrderRow :=
  { current with
    status := saveColumn read.status memory.status current.status
    driverId := saveColumn read.driverId memory.driverId current.driverId
    restaurantId := saveColumn read.restaurantId memory.restaurantId current.restaurantId }

@[simp] theorem OrderRow.overwrite_id (read memory current : OrderRow) :
    (OrderRow.overwrite read memory current).id = current.id := rfl

/-- Written over the row it was read from, an order in memory is stored as it
is. -/
theorem OrderRow.overwrite_read {read memory : OrderRow} (id : memory.id = read.id)
    (total : memory.total = read.total) (customer : memory.customerId = read.customerId)
    (created : memory.createdAt = read.createdAt) :
    OrderRow.overwrite read memory read = memory := by
  obtain ⟨_, _, _, _, _, _, _⟩ := memory
  obtain ⟨_, _, _, _, _, _, _⟩ := read
  simp only at id total customer created
  subst id total customer created
  simp only [OrderRow.overwrite, saveColumn_eq (Eq.symm ·)]

/-- `orderRepository.save` of a loaded order. A row that has gone is not
reported: the UPDATE then changes nothing. -/
def saveOrder (db : Db) (read memory : OrderRow) : Db :=
  { db with
    orders := db.orders.modify read.id (OrderRow.overwrite read memory) fun current same =>
      (OrderRow.overwrite_id read memory current).trans same }

/-- The socket room of an order. -/
def orderRoom (orderId : String) : String := "order:" ++ orderId

/-- The notices of a status change. -/
def editNotices (order : LoadedOrder) (status : OrderStatus) : List Notice :=
  .orderUpdate (orderRoom order.row.id) order.row.id status (order.driver.map UserRow.id) ::
    match status, order.restaurant with
    | .cooked, some restaurant =>
        [.newCookedOrder order.row.id restaurant.name restaurant.address]
    | _, _ => []

/-- The body of `editOrderStatus`. Only an owner can ask for `Cooked`, and only
of an order whose restaurant is loaded, so the notices never meet a missing
restaurant. -/
def editOrderStatusBody (db : Db) (user : UserRow) (orderId : String) (status : OrderStatus)
    (faults : Faults) : Body Db ApiError Notice LoadedOrder :=
  match loadOrder db orderId with
  | none => ⟨.error (.notFound "Not found"), db, [], []⟩
  | some order =>
      match applyEdit user order status with
      | .error e => ⟨.error e, db, [], []⟩
      | .ok edited =>
          if faults.save then ⟨.error queryFailed, db, [], []⟩
          else ⟨.ok edited, saveOrder db order.row edited.columns, editNotices edited status, []⟩

def editOrderStatus (db : Db) (user : UserRow) (orderId : String) (status : OrderStatus)
    (faults : Faults) : OrderOutcome LoadedOrder :=
  transactional faults.commit queryFailed db (editOrderStatusBody db user orderId status faults)

end CoupangEats
