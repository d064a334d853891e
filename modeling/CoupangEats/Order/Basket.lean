import CoupangEats.Order.Calls
import Mathlib.Algebra.BigOperators.Group.List.Basic
import Mathlib.Algebra.Order.Ring.Rat
import Mathlib.Data.Fintype.EquivFin

/-!
What `createOrder` accepts, and of which restaurant.

`basketPrice` is what the items of an order cost: every dish at its
stored price with the stored extras of the options that the client names.
`Orderable` is the exact set of requests that `createOrder` accepts, when nothing
fails from outside (`accepted_orderable`, `orderable_accepted`): the restaurant
and every dish are found, the options can be read, and the total fits its
column. Nothing in it relates the dishes to the restaurant, so an accepted order
is of one restaurant exactly when the client has named dishes of that
restaurant only (`one_restaurant_iff`).
-/

namespace CoupangEats

open CoupangEats.Base

/-! ### The price of a basket -/

/-- A client's option names a stored one. -/
def Names (userOption : Json) (o : DishOption) : Prop :=
  optionName userOption = .ok (some (.str o.name))

instance (userOption : Json) (o : DishOption) : Decidable (Names userOption o) :=
  inferInstanceAs (Decidable (optionName userOption = _))

/-- The extra of the first stored option that a client's option names. -/
def DishRow.extra (dish : DishRow) (userOption : Json) : ℚ :=
  (((dish.options.getD []).find? fun o => Names userOption o).map DishOption.extra).getD 0

/-- The price of a dish with a client's options. -/
def DishRow.itemPrice (dish : DishRow) (options : List Json) : ℚ :=
  dish.price.val + (options.map dish.extra).sum

/-- Reading a client's options does not fail: a `null` among them is read as
soon as the dish has an option to compare it with. -/
def Readable (dish : DishRow) (options : List Json) : Prop :=
  dish.options.getD [] = [] ∨ .null ∉ options

/-- What the items of an order cost. -/
def basketPrice (db : Db) (items : List CreateOrderItemDto) : ℚ :=
  (items.map fun item =>
    ((db.dish? item.dishId).map fun dish => dish.itemPrice (item.options.getD [])).getD 0).sum

theorem findOption_eq_ok {stored : List DishOption} {userOption : Json}
    {found : Option DishOption} :
    findOption stored userOption = .ok found ↔
      (stored = [] ∨ userOption ≠ .null) ∧ found = stored.find? fun o => Names userOption o := by
  induction stored with
  | nil => simp [findOption, eq_comm]
  | cons o rest ih =>
      cases name : optionName userOption with
      | error e =>
          have null : userOption = .null := by
            cases userOption <;> simp [optionName] at name ⊢
          subst null
          simp [findOption, optionName]
      | ok value =>
          have readable : userOption ≠ .null := by
            rintro rfl
            simp [optionName] at name
          by_cases named : value = some (.str o.name)
          · simp [findOption, name, named, Names, readable, eq_comm]
          · simp [findOption, name, named, Names, readable, ih]

theorem addOptions_eq_ok {dish : DishRow} {options : List Json} {p q : ℚ} :
    addOptions dish p options = .ok q ↔
      Readable dish options ∧ q = p + (options.map dish.extra).sum := by
  induction options generalizing p with
  | nil =>
      simp only [addOptions, Readable, List.not_mem_nil, not_false_eq_true, or_true, true_and,
        List.map_nil, List.sum_nil, add_zero, Except.ok.injEq]
      exact eq_comm
  | cons userOption rest ih =>
      have head : Readable dish (userOption :: rest) ↔
          (dish.options.getD [] = [] ∨ userOption ≠ .null) ∧ Readable dish rest := by
        simp only [Readable, List.mem_cons, not_or, ne_eq, eq_comm (a := Json.null)]
        tauto
      cases found : findOption (dish.options.getD []) userOption with
      | error e =>
          have unread : ¬ (dish.options.getD [] = [] ∨ userOption ≠ .null) := by
            intro readable
            rw [findOption_eq_ok.mpr ⟨readable, rfl⟩] at found
            cases found
          simp only [addOptions, found, head, unread, false_and, reduceCtorEq]
      | ok option =>
          obtain ⟨readable, rfl⟩ := findOption_eq_ok.mp found
          have step : addOptions dish p (userOption :: rest) =
              addOptions dish (p + dish.extra userOption) rest := by
            rw [addOptions, found]
            cases named : (dish.options.getD []).find? fun o => decide (Names userOption o) <;>
              simp [DishRow.extra, named]
          rw [step, ih, head, List.map_cons, List.sum_cons, ← add_assoc]
          simp only [readable, true_and]

/-! ### The items of an order -/

/-- The entity that `processOrderItem` makes of an item. -/
def Makes (db : Db) (item : CreateOrderItemDto) (made : NewOrderItem) : Prop :=
  ∃ dish, db.dish? item.dishId = some dish ∧ Readable dish (item.options.getD []) ∧
    made = ⟨dish, dish.name, item.options⟩

/-- Items whose dishes are found and whose options can be read are made. -/
theorem makes_all {db : Db} {items : List CreateOrderItemDto}
    (dishes : ∀ item ∈ items, ∃ dish, db.dish? item.dishId = some dish ∧
      Readable dish (item.options.getD [])) :
    ∃ made, List.Forall₂ (Makes db) items made := by
  induction items with
  | nil => exact ⟨[], .nil⟩
  | cons item rest ih =>
      obtain ⟨dish, found, readable⟩ := dishes item List.mem_cons_self
      obtain ⟨made, all⟩ := ih fun i mem => dishes i (List.mem_cons_of_mem _ mem)
      exact ⟨_, .cons ⟨dish, found, readable, rfl⟩ all⟩

/-- What is in one of two matching lists has a match in the other. -/
theorem exists_of_forall₂ {α β : Type} {R : α → β → Prop} {l : List α} {m : List β}
    (all : List.Forall₂ R l m) {a : α} (mem : a ∈ l) : ∃ b ∈ m, R a b := by
  induction all with
  | nil => cases mem
  | cons head _ ih =>
      rcases List.mem_cons.mp mem with rfl | mem
      · exact ⟨_, List.mem_cons_self, head⟩
      · obtain ⟨b, mem, related⟩ := ih mem
        exact ⟨b, List.mem_cons_of_mem _ mem, related⟩

/-- Every item is made. -/
theorem made_of_item {db : Db} {items : List CreateOrderItemDto} {mades : List NewOrderItem}
    (all : List.Forall₂ (Makes db) items mades) {item : CreateOrderItemDto} (mem : item ∈ items) :
    ∃ made ∈ mades, Makes db item made :=
  exists_of_forall₂ all mem

/-- Whatever is made is made of an item. -/
theorem item_of_made {db : Db} {items : List CreateOrderItemDto} {mades : List NewOrderItem}
    (all : List.Forall₂ (Makes db) items mades) {made : NewOrderItem} (mem : made ∈ mades) :
    ∃ item ∈ items, Makes db item made := by
  have flipped : List.Forall₂ (flip (Makes db)) mades items := List.Forall₂.flip all
  exact exists_of_forall₂ flipped mem

theorem processOrderItem_eq_ok {item : CreateOrderItemDto} {dish : DishRow} {made : NewOrderItem}
    {price : ℚ} :
    processOrderItem item dish = .ok (made, price) ↔
      Readable dish (item.options.getD []) ∧ made = ⟨dish, dish.name, item.options⟩ ∧
        price = dish.itemPrice (item.options.getD []) := by
  unfold processOrderItem
  split
  · rename_i e failed
    simp only [reduceCtorEq, false_iff, not_and]
    intro readable
    rw [addOptions_eq_ok.mpr ⟨readable, rfl⟩] at failed
    cases failed
  · rename_i itemPrice added
    obtain ⟨readable, rfl⟩ := addOptions_eq_ok.mp added
    simp only [Except.ok.injEq, Prod.mk.injEq, readable, true_and, DishRow.itemPrice, eq_comm]

/-- The item loop makes every item and adds up the prices. -/
theorem processItems_eq_ok {db : Db} {dishes : List DishRow} {items : List CreateOrderItemDto}
    (finds : ∀ item ∈ items, (dishes.find? fun d => d.id = item.dishId) = db.dish? item.dishId)
    {acc result : List NewOrderItem} {p q : ℚ} :
    processItems dishes acc p items = .ok (result, q) ↔
      ∃ made, List.Forall₂ (Makes db) items made ∧ result = acc ++ made ∧
        q = p + basketPrice db items := by
  induction items generalizing acc p with
  | nil =>
      simp only [processItems, Except.ok.injEq, Prod.mk.injEq, List.forall₂_nil_left_iff,
        exists_eq_left, List.append_nil, basketPrice, List.map_nil, List.sum_nil, add_zero,
        eq_comm]
  | cons item rest ih =>
      have rest' : ∀ i ∈ rest, (dishes.find? fun d => d.id = i.dishId) = db.dish? i.dishId :=
        fun i mem => finds i (List.mem_cons_of_mem _ mem)
      rw [processItems, finds item List.mem_cons_self]
      cases found : db.dish? item.dishId with
      | none =>
          simp only [reduceCtorEq, false_iff, not_exists, not_and]
          rintro made (_ | ⟨⟨dish, found', -⟩, -⟩)
          rw [found] at found'
          cases found'
      | some dish =>
          cases processed : processOrderItem item dish with
          | error e =>
              simp only [processed, reduceCtorEq, false_iff, not_exists, not_and]
              rintro made (_ | ⟨⟨dish', found', readable, -⟩, -⟩)
              rw [found, Option.some.injEq] at found'
              subst found'
              rw [processOrderItem_eq_ok.mpr ⟨readable, rfl, rfl⟩] at processed
              cases processed
          | ok pair =>
              obtain ⟨made, price⟩ := pair
              obtain ⟨readable, rfl, rfl⟩ := processOrderItem_eq_ok.mp processed
              have total : basketPrice db (item :: rest) =
                  dish.itemPrice (item.options.getD []) + basketPrice db rest := by
                simp [basketPrice, found]
              simp only [processed]
              rw [total, ih rest']
              constructor
              · rintro ⟨made, all, rfl, rfl⟩
                exact ⟨_, .cons ⟨dish, found, readable, rfl⟩ all, by simp, by rw [add_assoc]⟩
              · rintro ⟨_, _ | ⟨⟨dish', found', -, rfl⟩, all⟩, rfl, rfl⟩
                rw [found, Option.some.injEq] at found'
                subst found'
                exact ⟨_, all, by simp, by rw [add_assoc]⟩

/-- The second query of `createOrder` finds what the items name. -/
theorem dishesOf_find? {db : Db} {dto : CreateOrderDto} {item : CreateOrderItemDto}
    (mem : item ∈ dto.items) :
    ((dishesOf db dto).find? fun d => d.id = item.dishId) = db.dish? item.dishId := by
  have filtered := Table.find?_filter (t := db.dishes) (p := fun d =>
    d.deletedAt.isNone && (dto.items.map CreateOrderItemDto.dishId).contains d.id) item.dishId
  rw [show ((dishesOf db dto).find? fun d => d.id = item.dishId) = _ from filtered, Db.dish?]
  cases found : db.dishes.find? item.dishId with
  | none => rfl
  | some d =>
      have named : ∃ item ∈ dto.items, item.dishId = d.id :=
        ⟨item, mem, (Table.key_of_find? found).symm⟩
      simp [Option.filter_some, named]

/-! ### Acceptance -/

/-- The requests that `createOrder` accepts when nothing fails from outside. -/
structure Orderable (db : Db) (userId : String) (dto : CreateOrderDto) : Prop where
  customer : ∃ user, db.user? userId = some user
  dishes : ∀ item ∈ dto.items, ∃ dish, db.dish? item.dishId = some dish ∧
    Readable dish (item.options.getD [])
  restaurant : ∃ restaurant, db.restaurant? dto.restaurantId = some restaurant ∧
    ∃ total, IntColumn.ofNumber (basketPrice db dto.items + restaurant.deliveryFee.val) = some total

theorem assembleOrder_eq_ok {db : Db} {customer : UserRow} {dto : CreateOrderDto}
    {order : NewOrder} :
    assembleOrder db customer dto = .ok order ↔
      ∃ restaurant made, db.restaurant? dto.restaurantId = some restaurant ∧
        List.Forall₂ (Makes db) dto.items made ∧
        order = ⟨customer, restaurant,
          basketPrice db dto.items + restaurant.deliveryFee.val, made, .pending⟩ := by
  have loop {made total} : processItems (dishesOf db dto) [] 0 dto.items = .ok (made, total) ↔ _ :=
    processItems_eq_ok fun _ => dishesOf_find?
  constructor
  · intro assembled
    unfold assembleOrder at assembled
    split at assembled
    · cases assembled
    · rename_i restaurant found
      split at assembled
      · cases assembled
      · rename_i items total processed
        obtain ⟨made, all, rfl, rfl⟩ := loop.mp processed
        cases assembled
        exact ⟨restaurant, _, found, all, by simp⟩
  · rintro ⟨restaurant, made, found, all, rfl⟩
    have processed := loop.mpr ⟨made, all, rfl, rfl⟩
    simp [assembleOrder, found, processed]

/-- The ids of the stored items are new and different, and so is the order's. -/
structure CreateOrderEnv.Fresh (env : CreateOrderEnv) (db : Db) : Prop where
  order : db.orders.find? env.orderId = none
  items : ∀ n, db.orderItems.find? (env.itemId n) = none
  distinct : ∀ n m, env.itemId n = env.itemId m → n = m

theorem insertItems_of_fresh {orderId : String} {itemId : Nat → String}
    (distinct : ∀ n m, itemId n = itemId m → n = m) {items : List NewOrderItem} {n : Nat}
    {t : Table String OrderItemRow OrderItemRow.id}
    (fresh : ∀ m, n ≤ m → t.find? (itemId m) = none) :
    ∃ t', insertItems orderId itemId n items t = some t' := by
  induction items generalizing n t with
  | nil => exact ⟨t, rfl⟩
  | cons item rest ih =>
      obtain ⟨t', inserted⟩ := Table.insert_of_fresh (t := t)
        (r := ⟨itemId n, some item.dishName, item.options, some orderId, some item.dish.id⟩)
        (fresh n (Nat.le_refl n))
      have fresh' : ∀ m, n + 1 ≤ m → t'.find? (itemId m) = none := by
        intro m le
        rw [Table.find?_insert inserted, if_neg, fresh m (by omega)]
        intro same
        have := distinct m n same
        omega
      rw [insertItems, inserted]
      exact ih fresh'

/-- Every store has fresh ids. -/
theorem exists_env (db : Db) : ∃ env : CreateOrderEnv, env.Fresh db ∧ env.faults = .none := by
  obtain ⟨orderId, -, order⟩ := db.orders.exists_fresh
  obtain ⟨itemId, injective, items⟩ := db.orderItems.exists_fresh
  exact ⟨⟨orderId 0, itemId, 0, .none⟩, ⟨order 0, items, fun _ _ same => injective same⟩, rfl⟩

/-- An accepted order was orderable, and is made of what its items name. -/
theorem accepted_orderable {db : Db} {userId : String} {dto : CreateOrderDto} {env : CreateOrderEnv}
    {created : CreatedOrder}
    (accepted : (orderStep db (.createOrder userId dto env)).2.result = .ok (.inl created)) :
    Orderable db userId dto ∧ db.restaurant? dto.restaurantId = some created.order.restaurant ∧
      List.Forall₂ (Makes db) dto.items created.order.items := by
  have effect := orderStep_effect db (.createOrder userId dto env)
  rw [accepted] at effect
  generalize (orderStep db (.createOrder userId dto env)).1 = db' at effect
  cases effect with
  | @created _ _ _ user order _ known assembled saved =>
      obtain ⟨restaurant, made, found, all, rfl⟩ := assembleOrder_eq_ok.mp assembled
      refine ⟨⟨⟨user, known⟩, fun item mem => ?_, restaurant, found, ?_⟩, found, all⟩
      · obtain ⟨_, _, dish, found, readable, -⟩ := made_of_item all mem
        exact ⟨dish, found, readable⟩
      · unfold saveNewOrder at saved
        split at saved
        · rename_i total _ fits _
          exact ⟨total, fits⟩
        · cases saved

/-- An order of a stored customer is stored under fresh ids when its total fits
the column. -/
theorem saveNewOrder_of_fresh {db : Db} {env : CreateOrderEnv} (order : NewOrder)
    {total : IntColumn} (customer : db.users.find? order.customer.id = some order.customer)
    (fits : IntColumn.ofNumber order.total = some total) (fresh : env.Fresh db) :
    ∃ db', saveNewOrder db env order = some db' := by
  obtain ⟨orders, insertedOrder⟩ := Table.insert_of_fresh (t := db.orders)
    (r := order.row env.orderId total env.now) fresh.order
  obtain ⟨orderItems, insertedItems⟩ :
      ∃ t, insertItems env.orderId env.itemId 0 order.items db.orderItems = some t :=
    insertItems_of_fresh fresh.distinct fun m _ => fresh.items m
  exact ⟨{ db with orders, orderItems }, by
    simp [saveNewOrder, fits, customer, insertedOrder, insertedItems]⟩

/-- What is orderable is accepted under fresh ids when nothing fails from
outside. -/
theorem orderable_accepted {db : Db} {userId : String} {dto : CreateOrderDto}
    {env : CreateOrderEnv} (orderable : Orderable db userId dto) (fresh : env.Fresh db)
    (unhindered : env.faults = .none) :
    ∃ created, (orderStep db (.createOrder userId dto env)).2.result = .ok (.inl created) := by
  obtain ⟨⟨user, known⟩, dishes, restaurant, found, total, fits⟩ := orderable
  obtain ⟨made, all⟩ := makes_all dishes
  have assembled : assembleOrder db user dto = .ok _ :=
    assembleOrder_eq_ok.mpr ⟨restaurant, made, found, all, rfl⟩
  obtain ⟨db', saved⟩ := saveNewOrder_of_fresh
    ⟨user, restaurant, basketPrice db dto.items + restaurant.deliveryFee.val, made, .pending⟩
    (Db.user?_stored known) fits fresh
  exact ⟨_, by simp [orderStep, known, createOrder, transactional, createOrderBody, assembled,
    saved, unhindered, Faults.none, Except.map]; rfl⟩

/-! ### One restaurant -/

/-- The dishes of a created order belong to the restaurant the client has asked
for, which is the one whose fee is charged and whose owner is notified. -/
def OneRestaurant (dto : CreateOrderDto) (created : CreatedOrder) : Prop :=
  created.order.restaurant.id = dto.restaurantId ∧
    ∀ item ∈ created.order.items, item.dish.restaurantId = dto.restaurantId

/-- A request leads to orders of one restaurant only, exactly when it is not
orderable or every dish it names belongs to its restaurant. -/
theorem one_restaurant_iff (db : Db) (userId : String) (dto : CreateOrderDto) :
    (∀ env created,
        (orderStep db (.createOrder userId dto env)).2.result = .ok (.inl created) →
        OneRestaurant dto created) ↔
      (Orderable db userId dto → ∀ item ∈ dto.items, ∀ dish,
        db.dish? item.dishId = some dish → dish.restaurantId = dto.restaurantId) := by
  constructor
  · intro one orderable item mem dish found
    obtain ⟨env, fresh, unhindered⟩ := exists_env db
    obtain ⟨created, accepted⟩ := orderable_accepted orderable fresh unhindered
    obtain ⟨-, -, all⟩ := accepted_orderable accepted
    obtain ⟨made, mem', dish', found', -, rfl⟩ := made_of_item all mem
    rw [found, Option.some.injEq] at found'
    subst found'
    exact (one env created accepted).2 _ mem'
  · intro named env created accepted
    obtain ⟨orderable, found, all⟩ := accepted_orderable accepted
    refine ⟨Db.restaurant?_id found, fun made mem => ?_⟩
    obtain ⟨item, mem', dish, found', -, rfl⟩ := item_of_made all mem
    exact named orderable item mem' dish found'

/-- An accepted order at one restaurant of a dish of another. -/
theorem ordered_elsewhere :
    ¬ ∀ (db : Db) (userId : String) (dto : CreateOrderDto) (env : CreateOrderEnv)
      (created : CreatedOrder),
      (orderStep db (.createOrder userId dto env)).2.result = .ok (.inl created) →
      OneRestaurant dto created := by
  intro all
  let item : NewOrderItem := ⟨sampleDish "tuna" "kimbap", "tuna", none⟩
  let created : CreatedOrder :=
    ⟨"order", 0, ⟨sampleUser "customer" .client, sampleRestaurant "pizza" "owner", 7000, [item],
      .pending⟩⟩
  have accepted : (orderStep sampleStore (.createOrder "customer" ⟨"pizza", [⟨"tuna", none⟩]⟩
      ⟨"order", fun n => "item" ++ toString n, 0, .none⟩)).2.result = .ok (.inl created) := by
    decide +kernel
  exact absurd ((all _ _ _ _ _ accepted).2 item List.mem_cons_self) (by decide)

end CoupangEats
