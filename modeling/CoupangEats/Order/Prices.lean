import CoupangEats.Order.Placement
import Mathlib.Tactic.Linarith
import Mathlib.Tactic.Ring

/-!
Who decides what an order costs.

The total is computed from the stored prices alone: of a client's options only
the names are read. Two requests that name the same dishes and options are
answered alike (`charged_alike`), whatever amounts they bring. The snapshot of an
order, on the other hand, is the client's own option list. The two agree exactly
when the amounts that the client has sent add up to the stored ones
(`snapshot_agrees_iff`).
-/

namespace CoupangEats

open CoupangEats.Base

/-! ### A menu -/

/-- A pizza that comes with cheese. -/
def margherita : DishRow :=
  { sampleDish "margherita" "pizza" with options := some [⟨"cheese", 500, []⟩] }

/-- The store in which the second restaurant has the pizza. -/
def menuStore : Db := { sampleStore with dishes := ⟨[margherita], by decide⟩ }

/-- A pizza with cheese, for which the client writes down an extra of its own. -/
def cheesePizza (extra : ℚ) : CreateOrderDto :=
  ⟨"pizza", [⟨"margherita", some [.obj [("name", .str "cheese"), ("extra", .num extra)]]⟩]⟩

/-- The outside of a call that nothing hinders. -/
def sampleEnv : CreateOrderEnv := ⟨"order", fun n => "item" ++ toString n, 0, .none⟩

/-- What the customer's order of such a pizza answers. -/
def cheeseOrder (extra : ℚ) : CreatedOrder :=
  ⟨"order", 0, ⟨sampleUser "customer" .client, sampleRestaurant "pizza" "owner", 7500,
    [⟨margherita, "margherita", some [.obj [("name", .str "cheese"), ("extra", .num extra)]]⟩],
    .pending⟩⟩

/-! ### Requests that name the same -/

/-- The names that the item loop reads from a client's options. -/
def CreateOrderItemDto.optionNames (item : CreateOrderItemDto) :
    List (Except ApiError (Option Json)) :=
  (item.options.getD []).map optionName

/-- The items are of one dish, with options of the same names. -/
structure SameChoice (item item' : CreateOrderItemDto) : Prop where
  dish : item.dishId = item'.dishId
  names : item.optionNames = item'.optionNames

/-- The requests agree on everything but the rest of their options: on the
amounts and choices, that is, that the client sends with a name. -/
structure SameOrder (dto dto' : CreateOrderDto) : Prop where
  restaurant : dto.restaurantId = dto'.restaurantId
  items : List.Forall₂ SameChoice dto.items dto'.items

/-- The total of a call that is accepted. -/
def OrderOutcome.charged (out : OrderOutcome CreatedOrder) : Except ApiError ℚ :=
  out.result.map fun created => created.order.total

/-- What an order's acceptance and its total depend on. -/
def NewOrder.bill (order : NewOrder) : UserRow × RestaurantRow × ℚ × Nat :=
  (order.customer, order.restaurant, order.total, order.items.length)

section TwoRequests

theorem findOption_congr {stored : List DishOption} {a b : Json}
    (same : optionName a = optionName b) : findOption stored a = findOption stored b := by
  induction stored with
  | nil => rfl
  | cons o rest ih => simp only [findOption, same, ih]

/-- The loop over the options reads their names only. -/
theorem addOptions_congr {dish : DishRow} {options options' : List Json} {p : ℚ}
    (same : options.map optionName = options'.map optionName) :
    addOptions dish p options = addOptions dish p options' := by
  induction options generalizing options' p with
  | nil =>
      cases options' with
      | nil => rfl
      | cons _ _ => cases same
  | cons a rest ih =>
      cases options' with
      | nil => cases same
      | cons b rest' =>
          rw [List.map_cons, List.map_cons, List.cons.injEq] at same
          rw [addOptions, addOptions, findOption_congr same.1]
          cases findOption (dish.options.getD []) b with
          | error e => rfl
          | ok found =>
              cases found with
              | none => exact ih same.2
              | some validOption => exact ih same.2

/-- The item loop gives both requests the same total, of equally many items. -/
theorem processItems_congr {dishes : List DishRow} {items items' : List CreateOrderItemDto}
    (same : List.Forall₂ SameChoice items items') {acc acc' : List NewOrderItem} {p : ℚ}
    (lengths : acc.length = acc'.length) :
    (processItems dishes acc p items).map (fun made => (made.1.length, made.2)) =
      (processItems dishes acc' p items').map fun made => (made.1.length, made.2) := by
  induction same generalizing acc acc' p with
  | nil => simp [processItems, Except.map, lengths]
  | @cons item item' rest rest' head _ ih =>
      rw [processItems, processItems, head.dish]
      cases dishes.find? fun d => d.id = item'.dishId with
      | none => rfl
      | some dish =>
          have price : addOptions dish dish.price.val (item.options.getD []) =
              addOptions dish dish.price.val (item'.options.getD []) :=
            addOptions_congr head.names
          simp only [processOrderItem, price]
          cases addOptions dish dish.price.val (item'.options.getD []) with
          | error e => rfl
          | ok itemPrice => exact ih (by simp [lengths])

theorem dishesOf_congr {db : Db} {dto dto' : CreateOrderDto} (same : SameOrder dto dto') :
    dishesOf db dto = dishesOf db dto' := by
  have dishIds : dto.items.map CreateOrderItemDto.dishId =
      dto'.items.map CreateOrderItemDto.dishId := by
    have items := same.items
    generalize dto.items = l at items ⊢
    generalize dto'.items = l' at items ⊢
    induction items with
    | nil => rfl
    | cons head _ ih => rw [List.map_cons, List.map_cons, head.dish, ih]
  simp only [dishesOf, dishIds]

/-- Both requests are assembled to orders with one bill, or fail alike. -/
theorem assembleOrder_congr {db : Db} {customer : UserRow} {dto dto' : CreateOrderDto}
    (same : SameOrder dto dto') :
    (assembleOrder db customer dto).map NewOrder.bill =
      (assembleOrder db customer dto').map NewOrder.bill := by
  unfold assembleOrder
  rw [same.restaurant, dishesOf_congr same]
  cases db.restaurant? dto'.restaurantId with
  | none => rfl
  | some restaurant =>
      have loop : (processItems (dishesOf db dto') [] 0 dto.items).map
          (fun made => (made.1.length, made.2)) =
          (processItems (dishesOf db dto') [] 0 dto'.items).map
            fun made => (made.1.length, made.2) :=
        processItems_congr same.items rfl
      generalize processItems (dishesOf db dto') [] 0 dto.items = made at loop ⊢
      generalize processItems (dishesOf db dto') [] 0 dto'.items = made' at loop ⊢
      cases made <;> cases made' <;>
        simp_all [Except.map, NewOrder.bill]

/-- Two computations in turn succeed alike when each of them does. -/
theorem isSome_bind_congr {α β γ δ : Type} {a : Option α} {b : Option β} {f : α → Option γ}
    {g : β → Option δ} (first : a.isSome = b.isSome)
    (rest : ∀ x y, a = some x → b = some y → (f x).isSome = (g y).isSome) :
    (a.bind f).isSome = (b.bind g).isSome := by
  cases a with
  | none =>
      cases b with
      | none => rfl
      | some y => cases first
  | some x =>
      cases b with
      | none => cases first
      | some y => exact rest x y rfl rfl

/-- Whether items can be stored depends on the ids that are taken. -/
theorem insertItems_congr {orderId : String} {itemId : Nat → String}
    {items items' : List NewOrderItem} {n : Nat} {t t' : Table String OrderItemRow OrderItemRow.id}
    (lengths : items.length = items'.length)
    (taken : ∀ id, (t.find? id).isNone = (t'.find? id).isNone) :
    (insertItems orderId itemId n items t).isSome =
      (insertItems orderId itemId n items' t').isSome := by
  have cons (item : NewOrderItem) (rest : List NewOrderItem) (n : Nat)
      (t : Table String OrderItemRow OrderItemRow.id) :
      insertItems orderId itemId n (item :: rest) t =
        (t.insert ⟨itemId n, some item.dishName, item.options, some orderId,
          some item.dish.id⟩).bind (insertItems orderId itemId (n + 1) rest) := by
    rw [insertItems]
    cases Table.insert t _ <;> rfl
  induction items generalizing items' n t t' with
  | nil =>
      cases items' with
      | nil => rfl
      | cons _ _ => cases lengths
  | cons item rest ih =>
      cases items' with
      | nil => cases lengths
      | cons item' rest' =>
          rw [cons, cons]
          apply isSome_bind_congr
          · rw [Table.insert_isSome, Table.insert_isSome]
            exact taken (itemId n)
          · intro u u' inserted inserted'
            apply ih (by simpa using lengths)
            intro id
            rw [Table.find?_insert inserted, Table.find?_insert inserted']
            by_cases here : id = itemId n
            · simp only [here, if_true, Option.isNone_some]
            · simpa only [here, if_false] using taken id

/-- Whether an order can be stored depends on its bill. -/
theorem saveNewOrder_congr {db : Db} {env : CreateOrderEnv} {order order' : NewOrder}
    (same : order.bill = order'.bill) :
    (saveNewOrder db env order).isSome = (saveNewOrder db env order').isSome := by
  have steps (order : NewOrder) : (saveNewOrder db env order).isSome =
      ((IntColumn.ofNumber order.total).bind fun total =>
        (db.users.find? order.customer.id).bind fun _ =>
          (db.orders.insert (order.row env.orderId total env.now)).bind fun _ =>
            insertItems env.orderId env.itemId 0 order.items db.orderItems).isSome := by
    unfold saveNewOrder
    cases IntColumn.ofNumber order.total with
    | none => rfl
    | some total =>
        cases db.users.find? order.customer.id with
        | none => rfl
        | some user =>
            simp only [Option.bind_some]
            cases db.orders.insert (order.row env.orderId total env.now) with
            | none => rfl
            | some orders =>
                simp only [Option.bind_some]
                cases insertItems env.orderId env.itemId 0 order.items db.orderItems <;> rfl
  simp only [NewOrder.bill, Prod.mk.injEq] at same
  obtain ⟨customer, -, total, lengths⟩ := same
  rw [steps, steps, customer, total]
  apply isSome_bind_congr rfl
  intro _ _ _ _
  apply isSome_bind_congr rfl
  intro _ _ _ _
  apply isSome_bind_congr
  · rw [Table.insert_isSome, Table.insert_isSome]
    rfl
  · intro _ _ _ _
    exact insertItems_congr lengths fun _ => rfl

/-- How a call ends, in terms of what it has assembled. -/
theorem createOrder_charged (db : Db) (user : UserRow) (dto : CreateOrderDto)
    (env : CreateOrderEnv) :
    (createOrder db user dto env).charged =
      match assembleOrder db user dto with
      | .error e => .error e
      | .ok order =>
          if env.faults = .none ∧ (saveNewOrder db env order).isSome then .ok order.total
          else .error queryFailed := by
  unfold createOrder createOrderBody OrderOutcome.charged
  obtain ⟨orderId, itemId, now, save, commit⟩ := env
  cases assembleOrder db user dto with
  | error e => rfl
  | ok order =>
      cases save with
      | true => simp [transactional, Faults.none, Except.map]
      | false =>
          cases saved : saveNewOrder db ⟨orderId, itemId, now, ⟨false, commit⟩⟩ order <;>
            cases commit <;> simp_all [transactional, Faults.none, Except.map]

end TwoRequests

section Charged

variable {db : Db} {user : UserRow} {dto dto' : CreateOrderDto} {env : CreateOrderEnv}

/-- Requests of the same order end alike. -/
theorem charged_congr (same : SameOrder dto dto') :
    (createOrder db user dto env).charged = (createOrder db user dto' env).charged := by
  rw [createOrder_charged, createOrder_charged]
  have bills : (assembleOrder db user dto).map NewOrder.bill =
      (assembleOrder db user dto').map NewOrder.bill :=
    assembleOrder_congr same
  cases assembled : assembleOrder db user dto with
  | error e =>
      cases assembled' : assembleOrder db user dto' with
      | error e' =>
          rw [assembled, assembled'] at bills
          cases bills
          rfl
      | ok order' =>
          rw [assembled, assembled'] at bills
          cases bills
  | ok order =>
      cases assembled' : assembleOrder db user dto' with
      | error e' =>
          rw [assembled, assembled'] at bills
          cases bills
      | ok order' =>
          rw [assembled, assembled'] at bills
          have bill : order.bill = order'.bill := Except.ok.inj bills
          have total : order.total = order'.total := congrArg (fun b => b.2.2.1) bill
          simp only [saveNewOrder_congr bill, total]

/-- What is charged is the delivery fee and the stored prices. -/
theorem charged_total {total : ℚ} (charged : (createOrder db user dto env).charged = .ok total) :
    ∃ restaurant, db.restaurant? dto.restaurantId = some restaurant ∧
      (∀ item ∈ dto.items, ∃ dish, db.dish? item.dishId = some dish) ∧
      total = restaurant.deliveryFee.val + basketPrice db dto.items := by
  rw [createOrder_charged] at charged
  cases assembled : assembleOrder db user dto with
  | error e =>
      rw [assembled] at charged
      cases charged
  | ok order =>
      simp only [assembled] at charged
      split_ifs at charged
      cases charged
      obtain ⟨restaurant, made, found, all, rfl⟩ := assembleOrder_eq_ok.mp assembled
      refine ⟨restaurant, found, ?_, add_comm _ _⟩
      intro item mem
      obtain ⟨_, _, dish, stored, -, -⟩ := made_of_item all mem
      exact ⟨dish, stored⟩

end Charged

/-- The amount that an option or a choice carries; a missing one counts as
nothing. -/
def recordedAmount : Json → ℚ
  | .obj fields =>
      match Fields.read fields "extra" with
      | some (.num amount) => amount
      | _ => 0
  | _ => 0

/-- The amounts that a recorded option carries, its own and those of its
choices. -/
def recordedExtra : Json → ℚ
  | .obj fields =>
      recordedAmount (.obj fields) +
        match Fields.read fields "choices" with
        | some (.arr choices) => (choices.map recordedAmount).sum
        | _ => 0
  | _ => 0

/-- The amounts in a list of recorded options. -/
def recordedExtras (options : Option (List Json)) : ℚ := ((options.getD []).map recordedExtra).sum

/-- The stored price of an item's dish and the extras that the item records. -/
def OrderItemRow.amount (db : Db) (item : OrderItemRow) : ℚ :=
  (((item.dishId.bind db.dishes.find?).map fun dish => (dish.price.val : ℚ)).getD 0) +
    recordedExtras item.options

/-- The stored items of an order. -/
def Db.itemsOf (db : Db) (orderId : String) : List OrderItemRow :=
  db.orderItems.rows.filter fun item => item.orderId = some orderId

/-- The order's total is its delivery fee and what its stored items amount to. -/
def SnapshotAgrees (db : Db) (created : CreatedOrder) : Prop :=
  created.order.total = created.order.restaurant.deliveryFee.val +
    ((db.itemsOf created.id).map (OrderItemRow.amount db)).sum

/-- The extras that the client sends. -/
def sentExtras (items : List CreateOrderItemDto) : ℚ :=
  (items.map fun item => recordedExtras item.options).sum

/-- The stored extras of the options that the client names. -/
def namedExtras (db : Db) (items : List CreateOrderItemDto) : ℚ :=
  (items.map fun item => ((db.dish? item.dishId).map fun dish =>
    ((item.options.getD []).map dish.extra).sum).getD 0).sum

/-- The order of every stored item is stored: the foreign key of the order
items. -/
def ItemsHaveOrders (db : Db) : Prop :=
  ∀ item ∈ db.orderItems.rows, ∀ orderId, item.orderId = some orderId →
    ∃ order, db.orders.find? orderId = some order

section Snapshot

variable {db : Db}

/-- The prices of the dishes of a request. -/
def dishPrices (db : Db) (items : List CreateOrderItemDto) : ℚ :=
  (items.map fun item =>
    ((db.dish? item.dishId).map fun dish => (dish.price.val : ℚ)).getD 0).sum

theorem basketPrice_eq (items : List CreateOrderItemDto) :
    basketPrice db items = dishPrices db items + namedExtras db items := by
  induction items with
  | nil => simp [basketPrice, dishPrices, namedExtras]
  | cons item rest ih =>
      have split : basketPrice db (item :: rest) =
          ((db.dish? item.dishId).map fun dish =>
            dish.itemPrice (item.options.getD [])).getD 0 + basketPrice db rest := by
        simp [basketPrice]
      rw [split, ih]
      cases found : db.dish? item.dishId with
      | none => simp [dishPrices, namedExtras, found]
      | some dish =>
          simp only [dishPrices, namedExtras, List.map_cons, List.sum_cons, found,
            Option.map_some, Option.getD_some, DishRow.itemPrice]
          ring

/-- The rows that are stored for a request amount to the prices of its dishes
and the extras that the client has sent. -/
theorem amounts_of_stored {after : Db} {orderId : String} {items : List CreateOrderItemDto}
    {rows : List OrderItemRow} (dishes : after.dishes = db.dishes)
    (found : ∀ item ∈ items, ∃ dish, db.dish? item.dishId = some dish)
    (stored : List.Forall₂ (StoresItem orderId) items rows) :
    (rows.map (OrderItemRow.amount after)).sum = dishPrices db items + sentExtras items := by
  induction stored with
  | nil => simp [dishPrices, sentExtras]
  | @cons item row items rows head _ ih =>
      obtain ⟨dish, here⟩ := found item List.mem_cons_self
      have price :
          OrderItemRow.amount after row = dish.price.val + recordedExtras item.options := by
        simp [OrderItemRow.amount, head.dish, head.options, dishes, (Db.dish?_eq_some.mp here).1]
      rw [List.map_cons, List.sum_cons, price,
        ih fun other mem => found other (List.mem_cons_of_mem _ mem)]
      simp [dishPrices, sentExtras, here]
      ring

theorem saveNewOrder_dishes {after : Db} {env : CreateOrderEnv} {order : NewOrder}
    (saved : saveNewOrder db env order = some after) : after.dishes = db.dishes := by
  unfold saveNewOrder at saved
  split at saved
  · split at saved
    · cases saved
    · split at saved
      · cases saved
      · cases saved
        rfl
  · cases saved

/-- An accepted call has stored an order under a free id. -/
theorem createOrder_accepted {userId : String} {dto : CreateOrderDto} {env : CreateOrderEnv}
    {created : CreatedOrder}
    (accepted : (orderStep db (.createOrder userId dto env)).2.result = .ok (.inl created)) :
    created.order.total = basketPrice db dto.items + created.order.restaurant.deliveryFee.val ∧
      db.orders.find? created.id = none ∧
      (orderStep db (.createOrder userId dto env)).1.dishes = db.dishes := by
  have effect := orderStep_effect db (.createOrder userId dto env)
  rw [accepted] at effect
  generalize (orderStep db (.createOrder userId dto env)).1 = db' at effect ⊢
  cases effect with
  | created _ assembled saved =>
      obtain ⟨restaurant, made, -, -, rfl⟩ := assembleOrder_eq_ok.mp assembled
      obtain ⟨-, -, total, inserted⟩ := saveNewOrder_spec saved
      exact ⟨rfl, (Table.insert_eq_some inserted).1, saveNewOrder_dishes saved⟩

/-- The items of a new order are the rows that were stored with it. -/
theorem itemsOf_new {after : Db} {orderId : String} {items : List CreateOrderItemDto}
    {rows : List OrderItemRow} (linked : ItemsHaveOrders db)
    (free : db.orders.find? orderId = none)
    (added : after.orderItems.rows = db.orderItems.rows ++ rows)
    (stored : List.Forall₂ (StoresItem orderId) items rows) : after.itemsOf orderId = rows := by
  have others : (db.orderItems.rows.filter fun item => item.orderId = some orderId) = [] := by
    rw [List.filter_eq_nil_iff]
    intro item mem same
    obtain ⟨order, found⟩ := linked item mem orderId (by simpa using same)
    rw [free] at found
    cases found
  have all : (rows.filter fun item => item.orderId = some orderId) = rows := by
    clear added
    induction stored with
    | nil => rfl
    | cons head _ ih => simp [head.order, ih]
  rw [Db.itemsOf, added, List.filter_append, others, all, List.nil_append]

/-- The snapshot of an accepted order agrees with its total exactly when the
client has sent the extras that are stored. -/
theorem snapshot_of_accepted (linked : ItemsHaveOrders db) {userId : String}
    {dto : CreateOrderDto} {env : CreateOrderEnv} {created : CreatedOrder}
    (accepted : (orderStep db (.createOrder userId dto env)).2.result = .ok (.inl created)) :
    SnapshotAgrees (orderStep db (.createOrder userId dto env)).1 created ↔
      sentExtras dto.items = namedExtras db dto.items := by
  obtain ⟨total, free, dishes⟩ := createOrder_accepted accepted
  obtain ⟨orderable, -, -⟩ := accepted_orderable accepted
  have found : ∀ item ∈ dto.items, ∃ dish, db.dish? item.dishId = some dish := by
    intro item mem
    obtain ⟨dish, found, -⟩ := orderable.dishes item mem
    exact ⟨dish, found⟩
  obtain ⟨rows, added, stored⟩ := (places_of_accepted accepted).items
  unfold SnapshotAgrees
  rw [itemsOf_new linked free added stored, amounts_of_stored dishes found stored, total,
    basketPrice_eq]
  constructor
  · intro agree
    linarith
  · intro same
    rw [same]
    ring

end Snapshot

end CoupangEats
