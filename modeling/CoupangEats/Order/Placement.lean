import CoupangEats.Order.Basket

/-!
What an accepted `createOrder` leaves, and what a refused one.

Whatever fails, and wherever, the transaction takes everything back and the
notice is never sent (`placed_or_untouched`). An accepted call adds one row to
the orders and one to the order items for every item of the request, and sends
one notice, to the room of the restaurant's owner.
-/

namespace CoupangEats

open CoupangEats.Base

/-- The row that is stored for an item of a request. -/
structure StoresItem (orderId : String) (item : CreateOrderItemDto) (row : OrderItemRow) :
    Prop where
  order : row.orderId = some orderId
  dish : row.dishId = some item.dishId
  options : row.options = item.options

/-- The call adds one `Pending` order of the user and one order item for every
item of the request; the column of the total takes an integer. -/
structure Places (userId : String) (dto : CreateOrderDto) (before : Db) (created : CreatedOrder)
    (after : Db) : Prop where
  order : ∃ row, after.orders.rows = before.orders.rows ++ [row] ∧ row.id = created.id ∧
    row.status = .pending ∧ row.customerId = some userId ∧ row.driverId = none ∧
    row.restaurantId = some dto.restaurantId ∧
    ∃ total, row.total = some total ∧ IntColumn.ofNumber created.order.total = some total
  items : ∃ rows, after.orderItems.rows = before.orderItems.rows ++ rows ∧
    List.Forall₂ (StoresItem created.id) dto.items rows

/-! ### The rows of a new order -/

section Save

variable {db db' : Db} {env : CreateOrderEnv} {order : NewOrder}

/-- The items of an order are stored one by one, in their order. -/
theorem insertItems_rows {orderId : String} {itemId : Nat → String} {items : List NewOrderItem}
    {n : Nat} {t t' : Table String OrderItemRow OrderItemRow.id}
    (inserted : insertItems orderId itemId n items t = some t') :
    ∃ rows, t'.rows = t.rows ++ rows ∧ List.Forall₂ (fun item row =>
      row.orderId = some orderId ∧ row.dishId = some item.dish.id ∧ row.options = item.options)
        items rows := by
  induction items generalizing n t with
  | nil =>
      cases inserted
      exact ⟨[], by simp, .nil⟩
  | cons item rest ih =>
      unfold insertItems at inserted
      split at inserted
      · cases inserted
      · rename_i next stored
        obtain ⟨-, first⟩ := Table.insert_eq_some stored
        obtain ⟨rows, later, all⟩ := ih inserted
        let row : OrderItemRow :=
          ⟨itemId n, some item.dishName, item.options, some orderId, some item.dish.id⟩
        exact ⟨row :: rows, by simp [later, first, row], .cons ⟨rfl, rfl, rfl⟩ all⟩

/-- A stored order: its row comes behind the orders, its items behind the order
items. -/
theorem saveNewOrder_rows (saved : saveNewOrder db env order = some db') :
    (∃ total, IntColumn.ofNumber order.total = some total ∧
        db'.orders.rows = db.orders.rows ++ [order.row env.orderId total env.now]) ∧
      ∃ rows, db'.orderItems.rows = db.orderItems.rows ++ rows ∧
        List.Forall₂ (fun item row => row.orderId = some env.orderId ∧
          row.dishId = some item.dish.id ∧ row.options = item.options) order.items rows := by
  unfold saveNewOrder at saved
  split at saved
  · rename_i total _ fits _
    split at saved
    · cases saved
    · rename_i orders inserted
      split at saved
      · cases saved
      · rename_i orderItems stored
        cases saved
        exact ⟨⟨total, fits, (Table.insert_eq_some inserted).2⟩, insertItems_rows stored⟩
  · cases saved

/-- The row of what was made of an item is the row of the item. -/
theorem storesItem_of_made {orderId : String} {items : List CreateOrderItemDto}
    {mades : List NewOrderItem} {rows : List OrderItemRow}
    (all : List.Forall₂ (Makes db) items mades)
    (stored : List.Forall₂ (fun item row => row.orderId = some orderId ∧
      row.dishId = some item.dish.id ∧ row.options = item.options) mades rows) :
    List.Forall₂ (StoresItem orderId) items rows := by
  induction all generalizing rows with
  | nil =>
      cases stored
      exact .nil
  | cons makes _ ih =>
      cases stored with
      | cons row rest =>
          obtain ⟨dish, found, -, rfl⟩ := makes
          obtain ⟨order, dishId, options⟩ := row
          have same : dish.id = _ := Table.key_of_find? (Db.dish?_eq_some.mp found).1
          exact .cons ⟨order, by rw [dishId, same], options⟩ (ih rest)

end Save

/-! ### The call -/

section Create

variable {db : Db} {user : UserRow} {dto : CreateOrderDto} {env : CreateOrderEnv}

/-- The notice of a new order. -/
def CreatedOrder.notice (created : CreatedOrder) : Notice :=
  .newPendingOrder (ownerRoom created.order.restaurant) created.id created.order.restaurant.id
    created.order.total

/-- A call of `createOrder` is refused and leaves nothing, or it stores what it
has assembled and sends its notice. -/
theorem createOrder_cases (db : Db) (user : UserRow) (dto : CreateOrderDto)
    (env : CreateOrderEnv) :
    (∃ e, createOrder db user dto env = ⟨.error e, db, []⟩) ∨
      ∃ order db', assembleOrder db user dto = .ok order ∧
        saveNewOrder db env order = some db' ∧
        createOrder db user dto env = ⟨.ok ⟨env.orderId, env.now, order⟩, db',
          [CreatedOrder.notice ⟨env.orderId, env.now, order⟩]⟩ := by
  unfold createOrder createOrderBody
  cases assembled : assembleOrder db user dto with
  | error e => exact .inl ⟨e, rfl⟩
  | ok order =>
      cases failed : env.faults.save with
      | true => exact .inl ⟨queryFailed, by simp [transactional]⟩
      | false =>
          cases saved : saveNewOrder db env order with
          | none => exact .inl ⟨queryFailed, by simp [transactional, saved]⟩
          | some db' =>
              cases commit : env.faults.commit with
              | true => exact .inl ⟨queryFailed, by simp [transactional, saved]⟩
              | false =>
                  refine .inr ⟨order, db', rfl, saved, ?_⟩
                  simp [transactional, saved, CreatedOrder.notice]

/-- What is assembled and saved is placed. -/
theorem places_of_saved {userId : String} {order : NewOrder} {db' : Db}
    (known : db.user? userId = some user) (assembled : assembleOrder db user dto = .ok order)
    (saved : saveNewOrder db env order = some db') :
    Places userId dto db ⟨env.orderId, env.now, order⟩ db' := by
  obtain ⟨restaurant, made, found, all, rfl⟩ := assembleOrder_eq_ok.mp assembled
  obtain ⟨⟨total, fits, orders⟩, rows, items, stored⟩ := saveNewOrder_rows saved
  constructor
  · refine ⟨_, orders, rfl, rfl, ?_, rfl, ?_, total, rfl, fits⟩
    · rw [NewOrder.row, Db.user?_id known]
    · rw [NewOrder.row, Db.restaurant?_id found]
  · exact ⟨rows, items, storesItem_of_made all stored⟩

/-- A call that is accepted places its order. -/
theorem places_of_accepted {userId : String} {created : CreatedOrder}
    (accepted : (orderStep db (.createOrder userId dto env)).2.result = .ok (.inl created)) :
    Places userId dto db created (orderStep db (.createOrder userId dto env)).1 := by
  have effect := orderStep_effect db (.createOrder userId dto env)
  rw [accepted] at effect
  generalize (orderStep db (.createOrder userId dto env)).1 = db' at effect ⊢
  cases effect with
  | created known assembled saved => exact places_of_saved known assembled saved

/-- A call sends the notice of the order that it has created, if any. -/
theorem createOrder_sent (db : Db) (userId : String) (dto : CreateOrderDto)
    (env : CreateOrderEnv) :
    (orderStep db (.createOrder userId dto env)).2.sent = [] ∨
      ∃ created, (orderStep db (.createOrder userId dto env)).2.sent =
        [CreatedOrder.notice created] := by
  cases known : db.user? userId with
  | none =>
      left
      simp [orderStep, known]
  | some user =>
      rcases createOrder_cases db user dto env with ⟨e, refused⟩ | ⟨order, _, -, -, accepted⟩
      · left
        simp [orderStep, known, refused]
      · right
        exact ⟨⟨env.orderId, env.now, order⟩, by simp [orderStep, known, accepted]⟩

/-- A call that has created an order has sent its notice. -/
theorem sent_of_created {call : OrderCall} {created : CreatedOrder}
    (accepted : (orderStep db call).2.result = .ok (.inl created)) :
    (orderStep db call).2.sent = [created.notice] := by
  cases call with
  | createOrder userId dto env =>
      cases known : db.user? userId with
      | none => simp [orderStep, known] at accepted
      | some user =>
          rcases createOrder_cases db user dto env with ⟨e, refused⟩ | ⟨order, _, -, -, placed⟩
          · simp [orderStep, known, refused, Except.map] at accepted
          · have same : CreatedOrder.mk env.orderId env.now order = created := by
              simpa [orderStep, known, placed, Except.map] using accepted
            simp [orderStep, known, placed, same]
  | editOrderStatus userId orderId status faults =>
      have effect := orderStep_effect db (.editOrderStatus userId orderId status faults)
      rw [accepted] at effect
      generalize (orderStep db (.editOrderStatus userId orderId status faults)).1 = db' at effect
      cases effect

end Create

/-- `createOrder` is all or nothing, wherever it fails: a call that is refused
leaves the store as it was and sends nothing, and one that is accepted places
one order and sends one notice of it, to the room of the restaurant's owner. -/
theorem placed_or_untouched (db : Db) (userId : String) (dto : CreateOrderDto)
    (env : CreateOrderEnv) :
    let out := orderStep db (.createOrder userId dto env)
    (∃ e, out.2.result = .error e ∧ out.2.sent = [] ∧ out.1 = db) ∨
      ∃ created restaurant, out.2.result = .ok (.inl created) ∧
        Places userId dto db created out.1 ∧ db.restaurant? dto.restaurantId = some restaurant ∧
        out.2.sent = [.newPendingOrder ("Owner:" ++ restaurant.ownerId) created.id restaurant.id
          created.order.total] := by
  cases known : db.user? userId with
  | none => exact .inl ⟨userNotFound, by simp [orderStep, known]⟩
  | some user =>
      rcases createOrder_cases db user dto env with
        ⟨e, refused⟩ | ⟨order, _, assembled, -, accepted⟩
      · refine .inl ⟨e, ?_⟩
        simp [orderStep, known, refused, Except.map]
      · have answer : (orderStep db (.createOrder userId dto env)).2.result =
            .ok (.inl ⟨env.orderId, env.now, order⟩) := by
          simp [orderStep, known, accepted, Except.map]
        refine .inr ⟨_, order.restaurant, answer, places_of_accepted answer,
          (assembleOrder_spec assembled).1, ?_⟩
        simp [orderStep, known, accepted, CreatedOrder.notice, ownerRoom]

end CoupangEats
