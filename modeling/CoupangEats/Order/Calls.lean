import CoupangEats.Base.Machine
import CoupangEats.Order.Service

/-!
Runs of the order service.

`orderService` is the machine that answers calls of `createOrder` and
`editOrderStatus`; the caller is the stored user of the token, as the access
token strategy loads it. `OrderEffect` says once what a call can do to the
store, and `orderService_effect` that every call does one of these things; the
invariants of runs are case analyses over it.

`Linked` is the first of them: the driver and the restaurant of every stored
order are rows that load. On linked stores an accepted status change does to the
order's row exactly what `OrderRow.edited` says (`edit_columns`).
-/

namespace CoupangEats

open CoupangEats.Base

/-! ### Calls -/

/-- A call of the order service by the user of an access token. -/
inductive OrderCall where
  | createOrder (userId : String) (dto : CreateOrderDto) (env : CreateOrderEnv)
  | editOrderStatus (userId orderId : String) (status : OrderStatus) (faults : Faults)

/-- What a call is answered with, and the notices it has sent. -/
structure OrderReply where
  result : Except ApiError (CreatedOrder ⊕ LoadedOrder)
  sent : List Notice

/-- The call did what it was asked to do. -/
def OrderReply.Accepted (reply : OrderReply) : Prop := ∃ value, reply.result = .ok value

/-- `AccessTokenStrategy.validate` when the user of the token does not load. -/
def userNotFound : ApiError := .unauthorized "User not found"

/-- One call, from the store it finds to the store it leaves. -/
def orderStep (db : Db) : OrderCall → Db × OrderReply
  | .createOrder userId dto env =>
      match db.user? userId with
      | none => (db, ⟨.error userNotFound, []⟩)
      | some user =>
          let out := createOrder db user dto env
          (out.store, ⟨out.result.map .inl, out.sent⟩)
  | .editOrderStatus userId orderId status faults =>
      match db.user? userId with
      | none => (db, ⟨.error userNotFound, []⟩)
      | some user =>
          let out := editOrderStatus db user orderId status faults
          (out.store, ⟨out.result.map .inr, out.sent⟩)

/-- The order service as a machine on the store. -/
def orderService : Machine Db OrderCall OrderReply where
  step := orderStep

/-! ### What a call can do -/

/-- The status changes that `applyEdit` lets through, and what they make of the
order in memory. -/
inductive Edit (user : UserRow) (order : LoadedOrder) : OrderStatus → LoadedOrder → Prop where
  | owner {restaurant : RestaurantRow} {status : OrderStatus} : user.role = .owner →
      order.restaurant = some restaurant → restaurant.ownerId = user.id →
      status = .cooking ∨ status = .cooked →
      Edit user order status { order with row := { order.row with status } }
  | pickedUp : user.role = .delivery →
      Edit user order .pickedUp
        { order with row := { order.row with status := .pickedUp }, driver := some user }
  | delivered : user.role = .delivery → order.driver.map UserRow.id = some user.id →
      Edit user order .delivered { order with row := { order.row with status := .delivered } }

theorem Edit.role_of_pickedUp {user : UserRow} {order edited : LoadedOrder}
    (edit : Edit user order .pickedUp edited) : user.role = .delivery := by
  cases edit with
  | owner _ _ _ asked => simp at asked
  | pickedUp role => exact role

theorem applyEdit_eq_ok {user : UserRow} {order edited : LoadedOrder} {status : OrderStatus} :
    applyEdit user order status = .ok edited ↔ Edit user order status edited := by
  constructor
  · intro ok
    unfold applyEdit at ok
    split at ok
    · cases ok
    · rename_i role
      split at ok
      · cases ok
      · rename_i restaurant loaded
        split_ifs at ok with foreign status
        cases ok
        exact .owner role loaded (by simpa using foreign) (by tauto)
    · rename_i role
      split at ok
      · cases ok
        exact .pickedUp role
      · split_ifs at ok with driver
        cases ok
        exact .delivered role (by simpa using driver)
      · cases ok
  · rintro (⟨role, loaded, own, status⟩ | role | ⟨role, driver⟩)
    · rcases status with rfl | rfl <;> simp [applyEdit, role, loaded, own]
    · simp [applyEdit, role]
    · simp [applyEdit, role, driver]

/-- What a call can do: refuse and leave the store alone, store a new order, or
save a status change (when nothing fails from outside). -/
inductive OrderEffect (db : Db) :
    OrderCall → Except ApiError (CreatedOrder ⊕ LoadedOrder) → Db → Prop where
  | refused {call e} : OrderEffect db call (.error e) db
  | created {userId dto env user order db'} : db.user? userId = some user →
      assembleOrder db user dto = .ok order → saveNewOrder db env order = some db' →
      OrderEffect db (.createOrder userId dto env)
        (.ok (.inl ⟨env.orderId, env.now, order⟩)) db'
  | edited {userId orderId status user order edited} : db.user? userId = some user →
      loadOrder db orderId = some order → Edit user order status edited →
      OrderEffect db (.editOrderStatus userId orderId status .none) (.ok (.inr edited))
        (saveOrder db order.row edited.columns)

theorem createOrder_effect {db : Db} {user : UserRow} {userId : String} {dto : CreateOrderDto}
    {env : CreateOrderEnv} (found : db.user? userId = some user) :
    OrderEffect db (.createOrder userId dto env) ((createOrder db user dto env).result.map .inl)
      (createOrder db user dto env).store := by
  cases result : (createOrder db user dto env).result with
  | error e =>
      rw [show (createOrder db user dto env).store = db from
        transactional_rollback fun ⟨a, ok⟩ => by
          rw [createOrder] at result
          rw [result] at ok
          cases ok]
      exact .refused
  | ok created =>
      rw [show (createOrder db user dto env).store = _ from transactional_store result]
      obtain ⟨body, -⟩ := transactional_eq_ok.mp result
      unfold createOrderBody at body ⊢
      split at body
      · cases body
      · rename_i order assembled
        split at body
        · cases body
        · rename_i db' saved
          simp only [Except.ok.injEq] at body
          subst body
          split_ifs at saved with fault
          exact .created found assembled saved

theorem editOrderStatus_effect {db : Db} {user : UserRow} {userId orderId : String}
    {status : OrderStatus} {faults : Faults} (found : db.user? userId = some user) :
    OrderEffect db (.editOrderStatus userId orderId status faults)
      ((editOrderStatus db user orderId status faults).result.map .inr)
      (editOrderStatus db user orderId status faults).store := by
  cases result : (editOrderStatus db user orderId status faults).result with
  | error e =>
      rw [show (editOrderStatus db user orderId status faults).store = db from
        transactional_rollback fun ⟨a, ok⟩ => by
          rw [editOrderStatus] at result
          rw [result] at ok
          cases ok]
      exact .refused
  | ok loaded =>
      rw [show (editOrderStatus db user orderId status faults).store = _ from
        transactional_store result]
      obtain ⟨body, committed⟩ := transactional_eq_ok.mp result
      unfold editOrderStatusBody at body ⊢
      split at body
      · cases body
      · rename_i order found'
        split at body
        · cases body
        · rename_i edited applied
          split_ifs at body with fault
          simp only [Except.ok.injEq] at body
          subst body
          have unhindered : faults = .none := by
            cases faults
            simp_all [Faults.none]
          subst unhindered
          exact .edited found found' (applyEdit_eq_ok.mp applied)

/-- Every call has one of the effects. -/
theorem orderStep_effect (db : Db) (call : OrderCall) :
    OrderEffect db call (orderStep db call).2.result (orderStep db call).1 := by
  cases call with
  | createOrder userId dto env =>
      cases found : db.user? userId with
      | none => simpa [orderStep, found] using OrderEffect.refused
      | some user => simpa [orderStep, found] using createOrder_effect found
  | editOrderStatus userId orderId status faults =>
      cases found : db.user? userId with
      | none => simpa [orderStep, found] using OrderEffect.refused
      | some user => simpa [orderStep, found] using editOrderStatus_effect found

theorem orderService_effect {e : Event Db OrderCall OrderReply}
    (step : orderService.step e.before e.input = (e.after, e.output)) :
    OrderEffect e.before e.input e.output.result e.after := by
  have effect := orderStep_effect e.before e.input
  rwa [show orderStep e.before e.input = _ from step] at effect

/-! ### Linked stores -/

/-- The driver and the restaurant of every stored order load. -/
structure Linked (db : Db) : Prop where
  driver : ∀ row ∈ db.orders.rows, ∀ d, row.driverId = some d → ∃ user, db.user? d = some user
  restaurant : ∀ row ∈ db.orders.rows, ∀ r, row.restaurantId = some r →
    ∃ restaurant, db.restaurant? r = some restaurant

/-- What an accepted status change makes of a row. -/
def OrderRow.edited (row : OrderRow) (userId : String) (status : OrderStatus) : OrderRow :=
  { row with
    status
    driverId := if status = .pickedUp then some userId else row.driverId }

theorem OrderRow.overwrite_edited_self (row : OrderRow) (userId : String) (status : OrderStatus) :
    OrderRow.overwrite row (row.edited userId status) row = row.edited userId status :=
  OrderRow.overwrite_read rfl rfl rfl rfl

section Load

variable {db : Db} {orderId : String} {order : LoadedOrder}

theorem loadOrder_row (loaded : loadOrder db orderId = some order) :
    db.orders.find? orderId = some order.row := by
  unfold loadOrder at loaded
  split at loaded
  · cases loaded
  · rename_i row found
    cases loaded
    exact found

theorem loadOrder_driver (loaded : loadOrder db orderId = some order) :
    order.driver = order.row.driverId.bind db.user? := by
  unfold loadOrder at loaded
  split at loaded <;> cases loaded
  rfl

theorem loadOrder_restaurant (loaded : loadOrder db orderId = some order) :
    order.restaurant = order.row.restaurantId.bind db.restaurant? := by
  unfold loadOrder at loaded
  split at loaded <;> cases loaded
  rfl

theorem loadOrder_of_find {row : OrderRow} (found : db.orders.find? orderId = some row) :
    ∃ order, loadOrder db orderId = some order ∧ order.row = row := by
  simp [loadOrder, found]

theorem Linked.driver_id (linked : Linked db) (loaded : loadOrder db orderId = some order) :
    order.driver.map UserRow.id = order.row.driverId := by
  rw [loadOrder_driver loaded]
  cases hd : order.row.driverId with
  | none => rfl
  | some d =>
      obtain ⟨user, found⟩ :=
        linked.driver _ (Table.mem_of_find? (loadOrder_row loaded)) d hd
      simp [found, Db.user?_id found]

theorem Linked.restaurant_id (linked : Linked db) (loaded : loadOrder db orderId = some order) :
    order.restaurant.map RestaurantRow.id = order.row.restaurantId := by
  rw [loadOrder_restaurant loaded]
  cases hr : order.row.restaurantId with
  | none => rfl
  | some r =>
      obtain ⟨restaurant, found⟩ :=
        linked.restaurant _ (Table.mem_of_find? (loadOrder_row loaded)) r hr
      simp [found, Db.restaurant?_id found]

/-- When driver and restaurant have loaded, an accepted status change has the
columns of the edited row. -/
theorem edit_columns (driver : order.driver.map UserRow.id = order.row.driverId)
    (restaurant : order.restaurant.map RestaurantRow.id = order.row.restaurantId)
    {user : UserRow} {status : OrderStatus} {edited : LoadedOrder}
    (edit : Edit user order status edited) :
    edited.columns = order.row.edited user.id status := by
  cases edit with
  | owner _ _ _ status =>
      rcases status with rfl | rfl <;>
        simp [LoadedOrder.columns, OrderRow.edited, driver, restaurant]
  | pickedUp => simp [LoadedOrder.columns, OrderRow.edited, restaurant]
  | delivered => simp [LoadedOrder.columns, OrderRow.edited, driver, restaurant]

end Load

/-! ### Reading the store behind an effect -/

section After

variable {db db' : Db}

/-- A stored new order: nothing but the order tables changes, and the new row is
`Pending`, has no driver and carries the restaurant that was read. -/
theorem saveNewOrder_spec {env : CreateOrderEnv} {order : NewOrder}
    (saved : saveNewOrder db env order = some db') :
    db'.users = db.users ∧ db'.restaurants = db.restaurants ∧
      ∃ total, db.orders.insert (order.row env.orderId total env.now) = some db'.orders := by
  unfold saveNewOrder at saved
  split at saved
  · rename_i total _ _ _
    split at saved
    · cases saved
    · rename_i orders inserted
      split at saved
      · cases saved
      · cases saved
        exact ⟨rfl, rfl, total, inserted⟩
  · cases saved

theorem assembleOrder_spec {customer : UserRow} {dto : CreateOrderDto} {order : NewOrder}
    (assembled : assembleOrder db customer dto = .ok order) :
    db.restaurant? dto.restaurantId = some order.restaurant ∧ order.status = .pending ∧
      order.customer = customer := by
  unfold assembleOrder at assembled
  split at assembled
  · cases assembled
  · rename_i restaurant found
    split at assembled
    · cases assembled
    · cases assembled
      exact ⟨found, rfl, rfl⟩

theorem saveOrder_find? (read memory : OrderRow) (orderId : String) :
    (saveOrder db read memory).orders.find? orderId =
      if orderId = read.id then (db.orders.find? read.id).map (OrderRow.overwrite read memory)
      else db.orders.find? orderId := by
  rw [saveOrder, Table.find?_modify]

/-- Saved at once over the row it was read from, an edited order is stored as
the edited row; the other orders stay. -/
theorem edited_find? (linked : Linked db) {orderId : String} {order edited : LoadedOrder}
    {user : UserRow} {status : OrderStatus} (loaded : loadOrder db orderId = some order)
    (edit : Edit user order status edited) (k : String) :
    (saveOrder db order.row edited.columns).orders.find? k =
      if k = orderId then some (order.row.edited user.id status) else db.orders.find? k := by
  have found := loadOrder_row loaded
  have hid : order.row.id = orderId := Table.key_of_find? found
  rw [saveOrder_find?, hid, found,
    edit_columns (linked.driver_id loaded) (linked.restaurant_id loaded) edit, Option.map_some,
    OrderRow.overwrite_edited_self]

end After

/-- What a call does to the row of one order: nothing, a new `Pending` order, or
the edited row in the place of the one it has read. -/
inductive RowEffect (db : Db) (call : OrderCall) (orderId : String) :
    Option OrderRow → Option OrderRow → Prop where
  | same {row} : RowEffect db call orderId row row
  | new {row : OrderRow} : row.status = .pending → row.driverId = none →
      RowEffect db call orderId none (some row)
  | edited {userId status user order edited} :
      call = .editOrderStatus userId orderId status .none → db.user? userId = some user →
      loadOrder db orderId = some order → Edit user order status edited →
      RowEffect db call orderId (some order.row) (some (order.row.edited user.id status))

theorem OrderEffect.row {db db' : Db} {call : OrderCall}
    {result : Except ApiError (CreatedOrder ⊕ LoadedOrder)} (linked : Linked db)
    (effect : OrderEffect db call result db') (orderId : String) :
    RowEffect db call orderId (db.orders.find? orderId) (db'.orders.find? orderId) := by
  cases effect with
  | refused => exact .same
  | created _ assembled saved =>
      obtain ⟨-, -, total, inserted⟩ := saveNewOrder_spec saved
      rw [Table.find?_insert inserted]
      split
      · rename_i same
        rw [same, (Table.insert_eq_some inserted).1]
        exact .new (by simp [NewOrder.row, (assembleOrder_spec assembled).2.1]) rfl
      · exact .same
  | edited found loaded edit =>
      rw [edited_find? linked loaded edit]
      split
      · rename_i same
        subst same
        rw [loadOrder_row loaded]
        exact .edited rfl found loaded edit
      · exact .same

/-- The event accepts a change of the order to `status` by `userId`. -/
def AcceptedEdit (e : Event Db OrderCall OrderReply) (userId orderId : String)
    (status : OrderStatus) : Prop :=
  ∃ faults, e.input = .editOrderStatus userId orderId status faults ∧ e.output.Accepted

section Accepted

variable {e : Event Db OrderCall OrderReply} {userId orderId : String} {status : OrderStatus}

/-- An accepted status change meets no fault, loads an order, passes a check and
stores the edited row. -/
theorem AcceptedEdit.effect (step : orderService.step e.before e.input = (e.after, e.output))
    (linked : Linked e.before) (accepted : AcceptedEdit e userId orderId status) :
    e.input = .editOrderStatus userId orderId status .none ∧
      ∃ user order edited, e.before.user? userId = some user ∧
        loadOrder e.before orderId = some order ∧ Edit user order status edited ∧
        e.after.orders.find? orderId = some (order.row.edited user.id status) := by
  obtain ⟨faults, asked, value, ok⟩ := accepted
  have effect := orderService_effect step
  rw [asked, ok] at effect
  rw [asked]
  generalize e.after = after at effect
  cases effect with
  | @edited _ _ _ user order edited known loaded edit =>
      refine ⟨rfl, user, order, edited, known, loaded, edit, ?_⟩
      rw [edited_find? linked loaded edit, if_pos rfl]

/-- A status change that passes the checks is accepted unless something fails
from outside. -/
theorem acceptedEdit_of_edit (step : orderService.step e.before e.input = (e.after, e.output))
    (asked : e.input = .editOrderStatus userId orderId status .none) {user : UserRow}
    {order edited : LoadedOrder} (known : e.before.user? userId = some user)
    (loaded : loadOrder e.before orderId = some order) (edit : Edit user order status edited) :
    AcceptedEdit e userId orderId status := by
  refine ⟨.none, asked, .inr edited, ?_⟩
  have output := congrArg (fun out => out.2.result) step
  simp only [orderService, asked] at output
  rw [← output]
  simp [orderStep, known, editOrderStatus, transactional, editOrderStatusBody, loaded,
    applyEdit_eq_ok.mpr edit, Faults.none, Except.map]

end Accepted

/-- Every call keeps the users and the restaurants as they are. -/
theorem OrderEffect.static {db db' : Db} {call : OrderCall}
    {result : Except ApiError (CreatedOrder ⊕ LoadedOrder)}
    (effect : OrderEffect db call result db') :
    db'.users = db.users ∧ db'.restaurants = db.restaurants := by
  cases effect with
  | refused => exact ⟨rfl, rfl⟩
  | created _ _ saved =>
      obtain ⟨users, restaurants, -⟩ := saveNewOrder_spec saved
      exact ⟨users, restaurants⟩
  | edited => exact ⟨rfl, rfl⟩

/-- Every call keeps a linked store linked. -/
theorem OrderEffect.linked {db db' : Db} {call : OrderCall}
    {result : Except ApiError (CreatedOrder ⊕ LoadedOrder)}
    (effect : OrderEffect db call result db') (linked : Linked db) : Linked db' := by
  have husers : db'.user? = db.user? := by
    funext id
    rw [Db.user?, Db.user?, effect.static.1]
  have hrestaurants : db'.restaurant? = db.restaurant? := by
    funext id
    rw [Db.restaurant?, Db.restaurant?, effect.static.2]
  -- It suffices that every row of the new store is an old one or links to rows that load.
  suffices rows : ∀ row ∈ db'.orders.rows, row ∈ db.orders.rows ∨
      (∀ d, row.driverId = some d → ∃ user, db.user? d = some user) ∧
        ∀ r, row.restaurantId = some r → ∃ restaurant, db.restaurant? r = some restaurant by
    refine ⟨fun row mem d hd => ?_, fun row mem r hr => ?_⟩
    · rw [husers]
      rcases rows row mem with old | new
      · exact linked.driver row old d hd
      · exact new.1 d hd
    · rw [hrestaurants]
      rcases rows row mem with old | new
      · exact linked.restaurant row old r hr
      · exact new.2 r hr
  intro row mem
  cases effect with
  | refused => exact .inl mem
  | created found assembled saved =>
      obtain ⟨-, -, total, inserted⟩ := saveNewOrder_spec saved
      rw [(Table.insert_eq_some inserted).2, List.mem_append, List.mem_singleton] at mem
      rcases mem with old | rfl
      · exact .inl old
      · refine .inr ⟨by simp [NewOrder.row], fun r hr => ?_⟩
        have hrest := (assembleOrder_spec assembled).1
        rw [NewOrder.row, Option.some.injEq] at hr
        exact ⟨_, by rw [← hr, Db.restaurant?_id hrest]; exact hrest⟩
  | @edited _ orderId status user order edited found loaded edit =>
      have hrow := edited_find? linked loaded edit row.id
      rw [Table.find?_of_mem mem] at hrow
      split_ifs at hrow with same
      · cases hrow
        have old := Table.mem_of_find? (loadOrder_row loaded)
        refine .inr ⟨fun d hd => ?_, fun r hr => linked.restaurant _ old r hr⟩
        simp only [OrderRow.edited] at hd
        split_ifs at hd with picked
        · cases hd
          exact ⟨user, by rw [Db.user?_id found]; exact found⟩
        · exact linked.driver _ old d hd
      · exact .inl (Table.mem_of_find? hrow.symm)

/-- A store without orders is linked. -/
theorem linked_of_no_orders {db : Db} (none : db.orders = .empty) : Linked db := by
  refine ⟨fun row mem => ?_, fun row mem => ?_⟩ <;>
    · rw [none] at mem
      cases mem

/-- Every state of a run from a linked store is linked. -/
theorem history_linked {db : Db} (calls : List OrderCall) (linked : Linked db) :
    ∀ e ∈ orderService.history db calls, Linked e.before ∧ Linked e.after :=
  (Machine.history_invariant Linked (fun _ => True)
    (fun _ step _ inv => (orderService_effect step).linked inv) linked fun _ _ => trivial).2

/-! ### A sample store -/

def sampleUser (id : String) (role : Role) : UserRow :=
  ⟨id, id ++ "@x.kr", "", id, role, false, none⟩

def sampleDish (id restaurantId : String) : DishRow :=
  ⟨id, id, ⟨5000, by decide⟩, none, id, none, restaurantId, none⟩

/-- A store with a customer, two delivery users and an owner of two restaurants,
one of which has a dish; there are no orders. -/
def sampleStore : Db :=
  { Db.empty with
    users :=
      ⟨[sampleUser "customer" .client, sampleUser "owner" .owner, sampleUser "driver1" .delivery,
        sampleUser "driver2" .delivery], by decide⟩
    restaurants :=
      ⟨[sampleRestaurant "kimbap" "owner", sampleRestaurant "pizza" "owner"], by decide⟩
    dishes := ⟨[sampleDish "tuna" "kimbap"], by decide⟩ }

/-- The customer's order of one dish. -/
def sampleOrder : OrderCall :=
  .createOrder "customer" ⟨"kimbap", [⟨"tuna", none⟩]⟩
    ⟨"order", fun n => "item" ++ toString n, 0, .none⟩

/-- The store in which the sample order is `Pending`. -/
def orderedStore : Db := (orderService.step sampleStore sampleOrder).1

/-- The row of the sample order. -/
def sampleRow : OrderRow :=
  ⟨"order", some ⟨7000, by decide⟩, .pending, some "customer", none, some "kimbap", 0⟩

theorem orderedStore_order : orderedStore.orders.find? "order" = some sampleRow := by
  decide +kernel

end CoupangEats
