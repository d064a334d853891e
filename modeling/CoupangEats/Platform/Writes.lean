import CoupangEats.Base.References
import CoupangEats.Order.Frozen
import CoupangEats.Review.Authors

/-!
What a request with declared fields writes.

Every controller leaves the store as it was or puts one row of one table at its key
(a new order comes with its items). `Write` lists the rows that a user can have put,
with what the checks of the services make sure of; the catalogue, the orders, the
payments and the reviews are read off it and not off the services again.
-/

namespace CoupangEats

open CoupangEats.Base

/-- Who may change the status of an order to what. -/
inductive MayEdit (db : Db) (user : UserRow) (order : OrderRow) : OrderStatus → Prop
  | owner {restaurantId : String} {restaurant : RestaurantRow} {status : OrderStatus} :
      user.role = .owner → order.restaurantId = some restaurantId →
      db.restaurant? restaurantId = some restaurant → restaurant.ownerId = user.id →
      status = .cooking ∨ status = .cooked → MayEdit db user order status
  | pickedUp : user.role = .delivery → MayEdit db user order .pickedUp
  | delivered : user.role = .delivery → order.driverId = some user.id →
      MayEdit db user order .delivered

theorem MayEdit.ne_pending {db : Db} {user : UserRow} {order : OrderRow} {status : OrderStatus}
    (may : MayEdit db user order status) : status ≠ .pending := by
  cases may with
  | owner _ _ _ _ asked => rcases asked with rfl | rfl <;> decide
  | pickedUp => decide
  | delivered => decide

/-- What a request of the user makes of the store. -/
inductive Write (db : Db) (user : UserRow) : Db → Prop
  | none : Write db user db
  | restaurant {row restaurants} (role : user.role = .owner) (owner : row.ownerId = user.id)
      (live : row.deletedAt = .none)
      (category : ∀ id, row.categoryId = some id → ∃ category,
        db.categories.find? id = some category)
      (own : ∀ old, db.restaurants.find? row.id = some old → old.ownerId = user.id)
      (puts : db.restaurants.Puts row restaurants) : Write db user { db with restaurants }
  | dish {row dishes restaurant} (role : user.role = .owner)
      (found : db.restaurants.find? row.restaurantId = some restaurant)
      (owner : restaurant.ownerId = user.id)
      (own : ∀ old, db.dishes.find? row.id = some old → old.restaurantId = row.restaurantId)
      (puts : db.dishes.Puts row dishes) : Write db user { db with dishes }
  | order {row orders orderItems restaurant} (role : user.role = .client)
      (customer : row.customerId = some user.id) (status : row.status = .pending)
      (driver : row.driverId = .none) (place : row.restaurantId = some restaurant.id)
      (found : db.restaurants.find? restaurant.id = some restaurant)
      (new : db.orders.find? row.id = .none) (puts : db.orders.Puts row orders)
      (items : ∀ item ∈ orderItems.rows, item ∈ db.orderItems.rows ∨
        item.orderId = some row.id ∧ ∃ dish, item.dishId = some dish.id ∧
          db.dishes.find? dish.id = some dish) :
      Write db user { db with orders, orderItems }
  | status {old orders status} (stored : db.orders.find? old.id = some old)
      (may : MayEdit db user old status)
      (puts : db.orders.Puts (old.edited user.id status) orders) :
      Write db user { db with orders }
  | payment {row payments order} (role : user.role = .client) (payer : row.userId = user.id)
      (found : db.orders.find? row.orderId = some order)
      (customer : order.customerId = some user.id)
      (place : order.restaurantId = some row.restaurantId)
      (new : db.payments.find? row.id = .none)
      (unpaid : ∀ other ∈ db.payments.rows, other.orderId ≠ row.orderId)
      (puts : db.payments.Puts row payments) : Write db user { db with payments }
  | review {row reviews order} (role : user.role = .client)
      (found : db.orders.find? order.id = some order) (of : row.orderId = some order.id)
      (author : row.clientId = some user.id) (customer : order.customerId = some user.id)
      (place : row.restaurantId = order.restaurantId) (delivered : order.status = .delivered)
      (new : db.reviews.find? row.id = .none)
      (unreviewed : ∀ other ∈ db.reviews.rows, other.orderId ≠ row.orderId)
      (puts : db.reviews.Puts row reviews) : Write db user { db with reviews }
  | changedReview {old row reviews} (role : user.role = .client) (stored : old ∈ db.reviews.rows)
      (author : old.clientId = some user.id) (same : SameSubject old row)
      (puts : db.reviews.Puts row reviews) : Write db user { db with reviews }

/-! ### The catalogue -/

section Catalogue

variable {db db' : Db} {user : UserRow}

theorem restaurant_owner {id : String} {base : Option RestaurantRow} {e : Fields}
    {row : RestaurantRow} (written : RestaurantRow.write id base e = some row) :
    reference e "owner" "ownerId" textColumn (base.map RestaurantRow.ownerId) =
      some row.ownerId := by
  simp only [RestaurantRow.write, Option.bind_eq_bind, Option.bind_eq_some_iff, Option.pure_def,
    Option.some.injEq] at written
  obtain ⟨_, -, _, -, _, -, _, -, _, -, _, -, _, -, _, owner, _, -, _, -, rfl⟩ := written
  exact owner

theorem dish_restaurant {id : String} {base : Option DishRow} {e : Fields} {row : DishRow}
    (written : DishRow.write id base e = some row) :
    reference e "restaurant" "restaurantId" textColumn (base.map DishRow.restaurantId) =
      some row.restaurantId := by
  simp only [DishRow.write, Option.bind_eq_bind, Option.bind_eq_some_iff, Option.pure_def,
    Option.some.injEq] at written
  obtain ⟨_, -, _, -, _, -, _, -, _, -, _, restaurant, _, -, rfl⟩ := written
  exact restaurant

/-- A declared body has no other property. -/
theorem read_undeclared {body : Fields} {declared : List String}
    (only : ∀ entry ∈ body, entry.1 ∈ declared) {name : String} (other : name ∉ declared) :
    body.read name = none :=
  Fields.read_eq_none fun entry mem same => other (same ▸ only entry mem)

/-- What is saved as a restaurant: the user's, and a new one or one that the user has. -/
structure SavesOwn (db : Db) (user : UserRow) (e : Fields) : Prop where
  unrelated : e.read "owner" = none
  owner : e.read "ownerId" = some (.str user.id)
  unlisted : e.read "dishes" = none
  place : e.read "id" = none ∧ e.read "deletedAt" = none ∨
    ∃ restaurant ∈ db.restaurants.rows, restaurant.ownerId = user.id ∧
      e.read "id" = some (.str restaurant.id) ∧ e.read "deletedAt" = some .null

theorem savesOwn {request : CatalogueRequest} {e : Fields} (declared : request.Declared)
    (saves : request.restaurantToSave db user = .ok e) : SavesOwn db user e := by
  cases restaurantToSave_cases saves with
  | @create body category =>
      have absent {name : String} (other : name ∉ restaurantRules.map Prod.fst) :=
        read_undeclared declared other
      constructor
      · simp [Fields.read_append, absent (show "owner" ∉ _ by decide)]
      · simp [Fields.read_append]
      · simp [Fields.read_append, absent (show "dishes" ∉ _ by decide)]
      · simp [Fields.read_append, absent (show "id" ∉ _ by decide),
          absent (show "deletedAt" ∉ _ by decide)]
  | @update restaurantId body restaurant found own =>
      have absent {name : String} (other : name ∉ restaurantRules.map Prod.fst) :=
        read_undeclared declared other
      have read {name : String} (undeclared : name ∉ restaurantRules.map Prod.fst)
          (other : name ≠ "dishes") :
          (restaurantOf (restaurant.toFields ++ body)).read name =
            restaurant.toFields.read name := by
        rw [read_restaurantOf _ other, Fields.read_append, absent undeclared, Option.none_or]
      refine ⟨?_, ?_, ?_, .inr ⟨restaurant, Db.restaurant?_mem found, own, ?_, ?_⟩⟩
      · rw [read (by decide) (by decide)]
        simp [RestaurantRow.toFields]
      · rw [read (by decide) (by decide)]
        simp [RestaurantRow.toFields, own]
      · rcases read_restaurantOf_dishes (restaurant.toFields ++ body) with same | none
        · rw [same, Fields.read_append, restaurant.read_toFields_dishes,
            absent (by decide), Option.none_or]
        · exact none
      · rw [read (by decide) (by decide), restaurant.read_toFields_id]
      · rw [read (by decide) (by decide)]
        simp [RestaurantRow.toFields, (Db.restaurant?_eq_some.mp found).2]

/-- A restaurant that is saved is the user's, and a new one or an update of the user's
own. -/
theorem write_restaurant (request : CatalogueRequest) {generated : String} {e : Fields}
    {row : RestaurantRow} (role : user.role = .owner) (declared : request.Declared)
    (saves : request.restaurantToSave db user = .ok e)
    (saved : saveRestaurant db generated e = some (row, db')) : Write db user db' := by
  obtain ⟨unrelated, owner, unlisted, place⟩ := savesOwn declared saves
  obtain ⟨restaurants, dishes, rfl, stored, bound⟩ := saveRestaurant_eq_some saved
  have same : dishes = db.dishes := by
    rcases bound with same | ⟨items, ids, lists, -⟩
    · exact same
    · rw [unlisted] at lists
      cases lists
  subst same
  have owned {id : String} {base : Option RestaurantRow}
      (written : RestaurantRow.write id base e = some row) : row.ownerId = user.id := by
    have read := restaurant_owner written
    rw [reference_eq, unrelated] at read
    simpa [column, owner, textColumn, eq_comm] using read
  have category (accepted : db.acceptsRestaurant row = true) (id : String)
      (here : row.categoryId = some id) : ∃ category, db.categories.find? id = some category := by
    simp only [Db.acceptsRestaurant, Bool.and_eq_true, here, Option.all_some] at accepted
    exact Option.isSome_iff_exists.mp accepted.2
  have puts := Mapping.puts_save stored
  rcases Mapping.save_cases stored with
    ⟨old, -, found, named, -, updated, accepted, -⟩ | ⟨⟨id, made⟩, accepted, inserted⟩
  · -- an update, which is of the restaurant that the request has loaded
    rcases place with ⟨unnamed, -⟩ | ⟨restaurant, mem, own, here, cleared⟩
    · rw [unnamed] at named
      cases named
    · rw [here, Option.some.injEq, Json.str.injEq] at named
      cases db.restaurants.eq_of_key_eq mem (Table.mem_of_find? found) named
      refine .restaurant role (owned updated) ?_ (category accepted) ?_ puts
      · simpa [column, cleared, timestampColumn, eq_comm] using restaurant_deletedAt updated
      · intro other stored'
        rw [restaurantMapping.key_updateRow updated, found, Option.some.injEq] at stored'
        rw [← stored']
        exact own
  · refine .restaurant role (owned made) ?_ (category accepted) ?_ puts
    · have read := restaurant_deletedAt made
      rcases place with ⟨-, absent⟩ | ⟨-, -, -, -, cleared⟩
      · simpa [column, absent, eq_comm] using read
      · simpa [column, cleared, timestampColumn, eq_comm] using read
    · intro other stored'
      rw [(Table.insert_eq_some inserted).1] at stored'
      cases stored'

/-- A dish that is saved is of a restaurant of the user, and stays with it. -/
theorem write_dish (request : CatalogueRequest) {generated : String} {e : Fields} {row : DishRow}
    (role : user.role = .owner) (declared : request.Declared)
    (saves : request.dishToSave db user = .ok e)
    (saved : saveDish db generated e = some (row, db')) : Write db user db' := by
  obtain ⟨⟨row', dishes⟩, stored, same⟩ := Option.map_eq_some_iff.mp saved
  cases same
  have puts := Mapping.puts_save stored
  cases request with
  | createDish restaurantId body =>
      have absent {name : String} (other : name ∉ (dishRules ++ optionalDishRules).map Prod.fst) :=
        read_undeclared declared other
      simp only [CatalogueRequest.dishToSave, dishToCreate] at saves
      split at saves
      · cases saves
      · rename_i restaurant found
        split_ifs at saves with own
        cases saves
        rw [Mapping.save_unnamed (by simp [Fields.read_append,
          absent (show "id" ∉ _ by decide)])] at stored
        obtain ⟨made, -, inserted⟩ := Mapping.saveNew_eq_some stored
        have place := dish_restaurant made
        rw [reference_eq] at place
        simp only [Fields.read_append, absent (show "restaurant" ∉ _ by decide)] at place
        have here : row.restaurantId = restaurantId := by
          simpa [column, Fields.read_append, textColumn, eq_comm] using place
        refine .dish role ?_ (not_not.mp own) ?_ puts
        · rw [here]
          exact (Db.restaurant?_eq_some.mp found).1
        · intro old stored'
          rw [(Table.insert_eq_some inserted).1] at stored'
          cases stored'
  | updateDish restaurantId dishId body =>
      have absent {name : String} (other : name ∉ (dishRules ++ optionalDishRules).map Prod.fst) :=
        read_undeclared declared other
      simp only [CatalogueRequest.dishToSave, dishToUpdate] at saves
      split at saves
      · cases saves
      · rename_i dish restaurant loaded
        cases saves
        obtain ⟨found, mem, same, own⟩ := ownDish_eq_ok loaded
        have place {id : String} {base : Option DishRow}
            (written : DishRow.write id base (dish.toFields ++
              [("restaurant", .obj restaurant.toFields)] ++ body) = some row) :
            row.restaurantId = restaurant.id := by
          have read := dish_restaurant written
          rw [reference_eq, Fields.read_append, absent (by decide), Option.none_or,
            Fields.read_append] at read
          simpa [relationKey, textColumn, eq_comm] using read
        have known : db.restaurants.find? restaurant.id = some restaurant :=
          Table.find?_of_mem mem
        rcases Mapping.save_cases stored with
          ⟨old, -, here, named, -, updated, -, -⟩ | ⟨⟨id, made⟩, -, inserted⟩
        · refine .dish role (by rw [place updated]; exact known) own ?_ puts
          intro other stored'
          rw [dishMapping.key_updateRow updated, here, Option.some.injEq] at stored'
          subst stored'
          rw [Fields.read_append, absent (by decide), Option.none_or, Fields.read_append,
            dish.read_toFields_id] at named
          have named : dish.id = old.id := by simpa using named
          have mem' := (Db.dish?_eq_some.mp (Option.filter_eq_some_iff.mp found).1).1
          cases db.dishes.eq_of_key_eq (Table.mem_of_find? mem') (Table.mem_of_find? here) named
          rw [place updated, same]
        · refine .dish role (by rw [place made]; exact known) own ?_ puts
          intro other stored'
          rw [(Table.insert_eq_some inserted).1] at stored'
          cases stored'
  | createRestaurant | updateRestaurant | deleteDish => cases saves

/-- What a catalogue request of the user writes. -/
theorem write_of_catalogue {request : CatalogueRequest} {env : CatalogueEnv}
    {output : Except ApiError CatalogueAnswer} (known : db.user? user.id = some user)
    (declared : request.Declared)
    (step : catalogue.step db ⟨user.id, request, env⟩ = (db', output)) : Write db user db' := by
  simp only [catalogue] at step
  split at step
  · cases step
    exact .none
  · rename_i owner admitted
    have admission : owner = user ∧ owner.role = .owner := by
      simp only [admitCatalogue, known] at admitted
      split_ifs at admitted with role
      cases admitted
      exact ⟨rfl, not_not.mp role⟩
    obtain ⟨rfl, role⟩ := admission
    split at step
    · cases step
      exact .none
    · rename_i answer after handled
      cases step
      cases request with
      | createRestaurant body =>
          obtain ⟨_, done, same⟩ := map_eq_ok handled
          obtain ⟨e, checked, saved⟩ := operation_eq_ok done
          cases same
          exact write_restaurant (.createRestaurant body) role declared checked saved
      | updateRestaurant restaurantId body =>
          obtain ⟨_, done, same⟩ := map_eq_ok handled
          obtain ⟨e, checked, saved⟩ := operation_eq_ok done
          cases same
          exact write_restaurant (.updateRestaurant restaurantId body) role declared checked saved
      | createDish restaurantId body =>
          obtain ⟨_, done, same⟩ := map_eq_ok handled
          obtain ⟨e, checked, saved⟩ := operation_eq_ok done
          cases same
          exact write_dish (.createDish restaurantId body) role declared checked saved
      | updateDish restaurantId dishId body =>
          obtain ⟨_, done, same⟩ := map_eq_ok handled
          obtain ⟨e, checked, saved⟩ := operation_eq_ok done
          cases same
          exact write_dish (.updateDish restaurantId dishId body) role declared checked saved
      | deleteDish dishId =>
          obtain ⟨_, done, same⟩ := map_eq_ok handled
          obtain ⟨⟨dish, restaurant⟩, checked, deleted⟩ := operation_eq_ok done
          cases same
          cases deleted
          obtain ⟨found, mem, same, own⟩ := ownDish_eq_ok checked
          have stored := (Db.dish?_eq_some.mp found).1
          refine @Write.dish _ _ { dish with deletedAt := some (.num env.now) } _ _ role
            (by rw [← same]; exact Table.find?_of_mem mem) own ?_ (Table.puts_modify stored rfl)
          intro old here
          rw [Table.key_of_find? stored, stored, Option.some.injEq] at here
          rw [← here]

end Catalogue

/-! ### The orders -/

section Orders

variable {db db' : Db} {user : UserRow}

theorem saveNewOrder_eq_some {env : CreateOrderEnv} {order : NewOrder}
    (saved : saveNewOrder db env order = some db') :
    ∃ total orders orderItems, db' = { db with orders, orderItems } ∧
      db.orders.insert (order.row env.orderId total env.now) = some orders ∧
      insertItems env.orderId env.itemId 0 order.items db.orderItems = some orderItems := by
  unfold saveNewOrder at saved
  split at saved
  · rename_i total _ _ _
    split at saved
    · cases saved
    · rename_i orders inserted
      split at saved
      · cases saved
      · rename_i orderItems stored
        cases saved
        exact ⟨total, orders, orderItems, rfl, inserted, stored⟩
  · cases saved

/-- The items of an order are of it and refer to dishes that are there. -/
theorem storedItem_of_made {orderId : String} {items : List CreateOrderItemDto}
    {mades : List NewOrderItem} {rows : List OrderItemRow}
    (made : List.Forall₂ (Makes db) items mades)
    (stored : List.Forall₂ (fun item row => row.orderId = some orderId ∧
      row.dishId = some item.dish.id ∧ row.options = item.options) mades rows) :
    ∀ item ∈ rows, item.orderId = some orderId ∧ ∃ dish, item.dishId = some dish.id ∧
      db.dishes.find? dish.id = some dish := by
  induction made generalizing rows with
  | nil =>
      cases stored
      simp
  | cons makes _ ih =>
      cases stored with
      | cons head rest =>
          obtain ⟨dish, found, -, rfl⟩ := makes
          have known : db.dishes.find? dish.id = some dish := by
            have stored := (Db.dish?_eq_some.mp found).1
            rwa [Table.key_of_find? stored]
          intro item mem
          rcases List.mem_cons.mp mem with rfl | later
          · exact ⟨head.1, dish, head.2.1, known⟩
          · exact ih rest item later

/-- What the save of an assembled order writes. -/
theorem write_of_saveNewOrder {dto : CreateOrderDto} {env : CreateOrderEnv} {order : NewOrder}
    (role : user.role = .client) (assembled : assembleOrder db user dto = .ok order)
    (saved : saveNewOrder db env order = some db') : Write db user db' := by
  obtain ⟨restaurant, made, found, all, rfl⟩ := assembleOrder_eq_ok.mp assembled
  obtain ⟨total, orders, orderItems, rfl, inserted, stored⟩ := saveNewOrder_eq_some saved
  obtain ⟨rows, appended, items⟩ := insertItems_rows stored
  refine @Write.order _ _ _ _ _ restaurant role rfl rfl rfl rfl (Db.restaurant?_stored found)
    (Table.insert_eq_some inserted).1 (Table.puts_insert inserted) fun item mem => ?_
  rw [appended, List.mem_append] at mem
  rcases mem with old | new
  · exact .inl old
  · exact .inr (storedItem_of_made all items item new)

/-- What a new order of a client writes. -/
theorem write_of_createOrder {dto : CreateOrderDto} {env : CreateOrderEnv} {reply : OrderReply}
    (known : db.user? user.id = some user) (role : user.role = .client)
    (step : orderService.step db (.createOrder user.id dto env) = (db', reply)) :
    Write db user db' := by
  have effect := orderStep_effect db (.createOrder user.id dto env)
  rw [show orderStep db (.createOrder user.id dto env) = _ from step] at effect
  generalize reply.result = result at effect
  cases effect with
  | refused => exact .none
  | created known' assembled saved =>
      rw [known, Option.some.injEq] at known'
      subst known'
      exact write_of_saveNewOrder role assembled saved

/-- What a status change writes, when the driver and the restaurant of every order load. -/
theorem write_of_editOrderStatus {orderId : String} {status : OrderStatus} {faults : Faults}
    {reply : OrderReply} (known : db.user? user.id = some user) (linked : Linked db)
    (step : orderService.step db (.editOrderStatus user.id orderId status faults) = (db', reply)) :
    Write db user db' := by
  have effect := orderStep_effect db (.editOrderStatus user.id orderId status faults)
  rw [show orderStep db (.editOrderStatus user.id orderId status faults) = _ from step] at effect
  generalize reply.result = result at effect
  cases effect with
  | refused => exact .none
  | @edited _ _ _ caller order edited known' loaded edit =>
      rw [known, Option.some.injEq] at known'
      subst known'
      have row := loadOrder_row loaded
      have id : order.row.id = orderId := Table.key_of_find? row
      refine @Write.status _ _ order.row _ status (by rw [id, row]) ?_ ?_
      · have restaurant := loadOrder_restaurant loaded
        have driver := linked.driver_id loaded
        cases edit with
        | owner role loads own asked =>
            rw [restaurant] at loads
            obtain ⟨restaurantId, here, found⟩ := Option.bind_eq_some_iff.mp loads
            exact .owner role here found own asked
        | pickedUp role => exact .pickedUp role
        | delivered role mine =>
            rw [driver] at mine
            exact .delivered role mine
      · intro k
        have here : (order.row.edited user.id status).id = orderId := id
        rw [here]
        exact edited_find? linked loaded edit k

end Orders

/-! ### The payments and the reviews -/

section Payments

variable {db db' : Db} {user : UserRow}

/-- What the insert of a payment stores, whatever has been read for it: the first payment of
an order that is there. -/
structure InsertsPayment (db : Db) (user : UserRow) (order : OrderRow) (row : PaymentRow)
    (payments : Table String PaymentRow PaymentRow.id) : Prop where
  payer : row.userId = user.id
  ofOrder : row.orderId = order.id
  place : order.restaurantId = some row.restaurantId
  there : ∃ stored, db.orders.find? order.id = some stored
  unpaid : ∀ other ∈ db.payments.rows, other.orderId ≠ row.orderId
  inserted : db.payments.insert row = some payments

theorem payment_inserted {body : Fields} {generated : String} {order : OrderRow}
    {row : PaymentRow} {payments : Table String PaymentRow PaymentRow.id}
    (declared : Declared body)
    (saved : paymentMapping.save db.acceptsPayment generated db.payments
      (paymentEntity body user order) = some (row, payments)) :
    InsertsPayment db user order row payments := by
  have unnamed : (paymentEntity body user order).read "id" = none := by
    simp [paymentEntity, Fields.read_append,
      declared.read (show "id" ≠ _ by decide) (show "id" ≠ _ by decide)]
  rw [Mapping.save_unnamed unnamed] at saved
  obtain ⟨made, accepted, inserted⟩ := Mapping.saveNew_eq_some saved
  obtain ⟨-, payer, ofOrder, place⟩ := paymentRow_columns made
  rw [declared.read (by decide) (by decide)] at place
  have fresh := (Table.insert_eq_some inserted).1
  simp only [Db.acceptsPayment, Bool.and_eq_true, List.all_eq_true, Bool.or_eq_true,
    decide_eq_true_eq] at accepted
  refine ⟨payer, ofOrder, place, ?_, fun other mem => ?_, inserted⟩
  · rw [← ofOrder]
    exact Option.isSome_iff_exists.mp accepted.1.2
  · exact (accepted.2 other mem).resolve_left (Table.find?_eq_none_iff.mp fresh other mem)

/-- What an accepted payment adds: one of the user's order that its body names, the first
one of it. -/
structure AddsPayment (db : Db) (user : UserRow) (body : Fields) (row : PaymentRow)
    (order : OrderRow) (payments : Table String PaymentRow PaymentRow.id) : Prop
    extends InsertsPayment db user order row payments where
  role : user.role = .client
  found : db.orders.find? ((body.readString "orderId").getD "") = some order
  own : order.customerId = some user.id

theorem payment_added {body : Fields} {generated : String} {row : PaymentRow}
    (known : db.user? user.id = some user) (declared : Declared body)
    (paid : createPayment db ⟨user.id, body, generated⟩ = .ok (row, db')) :
    ∃ order payments, AddsPayment db user body row order payments ∧
      db' = { db with payments } := by
  obtain ⟨payer, order, admitted, payments, saved, rfl⟩ := createPayment_eq_ok.mp paid
  have same := admitted.known
  rw [known, Option.some.injEq] at same
  subst same
  exact ⟨order, payments, ⟨payment_inserted declared saved, admitted.role, admitted.found,
    admitted.own⟩, rfl⟩

/-- What a payment request of the user writes. -/
theorem write_of_payment {body : Fields} {generated : String}
    {output : Except ApiError PaymentRow} (known : db.user? user.id = some user)
    (declared : Declared body)
    (step : paymentService.step db ⟨user.id, body, generated⟩ = (db', output)) :
    Write db user db' := by
  simp only [paymentService] at step
  split at step
  · cases step
    exact .none
  · rename_i row after paid
    cases step
    obtain ⟨order, payments, adds, rfl⟩ := payment_added known declared paid
    refine .payment adds.role adds.payer ?_ adds.own adds.place
      (Table.insert_eq_some adds.inserted).1 adds.unpaid (Table.puts_insert adds.inserted)
    rw [adds.ofOrder, Table.key_of_find? adds.found]
    exact adds.found

end Payments

section Reviews

variable {db db' : Db} {user : UserRow}

/-- What the insert of a review stores, whatever has been read for it: the first review of
an order that is there. -/
structure InsertsReview (db : Db) (user : UserRow) (restaurant : RestaurantRow)
    (order : OrderRow) (row : ReviewRow) (reviews : Table String ReviewRow ReviewRow.id) :
    Prop where
  author : row.clientId = some user.id
  ofOrder : row.orderId = some order.id
  place : row.restaurantId = some restaurant.id
  there : ∃ stored, db.orders.find? order.id = some stored
  unreviewed : ∀ other ∈ db.reviews.rows, other.orderId ≠ row.orderId
  inserted : db.reviews.insert row = some reviews

theorem review_inserted {body : Fields} {generated : String} {restaurant : RestaurantRow}
    {order : OrderRow} {row : ReviewRow}
    (saved : saveReview db generated (reviewEntity body user restaurant order) = some (row, db')) :
    ∃ reviews, InsertsReview db user restaurant order row reviews ∧ db' = { db with reviews } := by
  obtain ⟨⟨_, reviews⟩, stored, same⟩ := Option.map_eq_some_iff.mp saved
  cases same
  rw [Mapping.save_unnamed reviewEntity_unnamed] at stored
  obtain ⟨made, accepted, inserted⟩ := Mapping.saveNew_eq_some stored
  obtain ⟨author, place, ofOrder⟩ := newReview_columns made
  have fresh := (Table.insert_eq_some inserted).1
  simp only [Db.acceptsReview, Bool.and_eq_true, ofOrder, Option.all_some, List.all_eq_true,
    Bool.or_eq_true, decide_eq_true_eq] at accepted
  refine ⟨reviews, ⟨author, ofOrder, place, Option.isSome_iff_exists.mp accepted.2.1,
    fun other mem => ?_, inserted⟩, rfl⟩
  rw [ofOrder]
  exact (accepted.2.2 other mem).resolve_left (Table.find?_eq_none_iff.mp fresh other mem)

/-- What an accepted review adds: one of the user's delivered order that its body names,
the first one of it. -/
structure AddsReview (db : Db) (user : UserRow) (body : Fields) (row : ReviewRow)
    (order : OrderRow) (reviews : Table String ReviewRow ReviewRow.id) : Prop where
  found : db.orders.find? ((body.readString "orderId").getD "") = some order
  own : order.customerId = some user.id
  delivered : order.status = .delivered
  named : order.restaurantId = some ((body.readString "restaurantId").getD "")
  author : row.clientId = some user.id
  ofOrder : row.orderId = some order.id
  place : row.restaurantId = order.restaurantId
  unreviewed : ∀ other ∈ db.reviews.rows, other.orderId ≠ row.orderId
  inserted : db.reviews.insert row = some reviews

theorem review_added {body : Fields} {env : CatalogueEnv} {row : ReviewRow}
    (created : createReview db user body env = .ok (row, db')) :
    ∃ order reviews, AddsReview db user body row order reviews ∧ db' = { db with reviews } := by
  obtain ⟨e, checked, saved⟩ := operation_eq_ok created
  rcases reviewToCreate_cases db user body with
    ⟨_, _, -, -, refused, -⟩ | ⟨_, refused, -⟩ | ⟨order, restaurant, reviewable, passed⟩
  · rw [refused] at checked
    cases checked
  · rw [refused] at checked
    cases checked
  · rw [passed] at checked
    cases checked
    obtain ⟨reviews, inserts, rfl⟩ := review_inserted saved
    obtain ⟨restaurantId, here, loaded⟩ := Option.bind_eq_some_iff.mp reviewable.loaded
    have id := Db.restaurant?_id loaded
    refine ⟨order, reviews, ⟨reviewable.found, reviewable.own, reviewable.delivered, ?_,
      inserts.author, inserts.ofOrder, ?_, inserts.unreviewed, inserts.inserted⟩, rfl⟩
    · rw [here, ← reviewable.named, id]
    · rw [inserts.place, here, id]

/-- A body with nothing but what can be changed of a review. -/
def ReviewRequest.Declared : ReviewRequest → Prop
  | .updateReview _ body => ∀ entry ∈ body, entry.1 ∈ reviewProperties
  | .createReview _ | .deleteReview _ => True

theorem isUuid_ne_empty {id : String} (valid : isUuid id = true) : id ≠ "" := by
  rintro rfl
  revert valid
  decide

/-- What a review request of the user does to the reviews. -/
inductive ReviewEffect (db : Db) (user : UserRow) : ReviewRequest → Db → Prop
  | none {request} : ReviewEffect db user request db
  | added {body row order reviews} (role : user.role = .client)
      (valid : validCreateReview body = true)
      (adds : AddsReview db user body row order reviews) :
      ReviewEffect db user (.createReview body) { db with reviews }
  | changed {request old row reviews} (role : user.role = .client)
      (stored : old ∈ db.reviews.rows) (author : old.clientId = some user.id)
      (same : SameSubject old row) (puts : db.reviews.Puts row reviews) :
      ReviewEffect db user request { db with reviews }

theorem updateReview_effect {reviewId : String} {body : Fields} {env : CatalogueEnv}
    {row : ReviewRow} (role : user.role = .client) (valid : isUuid reviewId = true)
    (declared : ∀ entry ∈ body, entry.1 ∈ reviewProperties)
    (updated : updateReview db user reviewId body env = .ok (row, db')) :
    ReviewEffect db user (.updateReview reviewId body) db' := by
  obtain ⟨e, checked, saved⟩ := operation_eq_ok updated
  unfold reviewToUpdate at checked
  split at checked
  · cases checked
  · rename_i review client found
    cases checked
    obtain ⟨stored, id, author, own⟩ := ownReview_eq_ok found
    obtain ⟨⟨_, reviews⟩, saves, same⟩ := Option.map_eq_some_iff.mp saved
    cases same
    have named : (updatedReview review client body).read "id" = some (.str review.id) := by
      rw [updatedReview, Fields.read_append, read_undeclared declared (by decide), Option.none_or,
        Fields.read_append]
      simp [ReviewRow.toFields]
    rw [Mapping.save_named (Table.find?_of_mem stored) named
      (by rw [id]; exact isUuid_ne_empty valid)] at saves
    obtain ⟨made, -, keeps, rfl⟩ := Mapping.saveOver_eq_some saves
    have columns := updatedReview_columns author (keepsSubject_of_declared declared review) made
    exact .changed role stored (author.trans (congrArg some own))
      ⟨reviewMapping.key_updateRow made, columns.1, columns.2.1, columns.2.2⟩
      (Table.puts_modify (Table.find?_of_mem stored) rfl)

theorem review_effect {request : ReviewRequest} {env : CatalogueEnv}
    {output : Except ApiError ReviewAnswer} (known : db.user? user.id = some user)
    (declared : request.Declared)
    (step : reviewService.step db ⟨user.id, request, env⟩ = (db', output)) :
    ReviewEffect db user request db' := by
  simp only [reviewService] at step
  split at step
  · cases step
    exact .none
  · rename_i author admitted
    obtain ⟨known', role, valid⟩ := admitReview_eq_ok admitted
    rw [known, Option.some.injEq] at known'
    subst known'
    split at step
    · cases step
      exact .none
    · rename_i answer after handled
      cases step
      cases request with
      | createReview body =>
          obtain ⟨⟨row, after⟩, created, same⟩ := map_eq_ok handled
          cases same
          obtain ⟨order, reviews, adds, rfl⟩ := review_added created
          exact .added role valid adds
      | updateReview reviewId body =>
          obtain ⟨_, updated, same⟩ := map_eq_ok handled
          cases same
          simp only [ReviewRequest.valid, Bool.and_eq_true] at valid
          exact updateReview_effect role valid.1 declared updated
      | deleteReview reviewId =>
          obtain ⟨_, deleted, same⟩ := map_eq_ok handled
          cases same
          obtain ⟨⟨review, client⟩, found, written⟩ := operation_eq_ok deleted
          obtain ⟨stored, rfl, own, same⟩ := ownReview_eq_ok found
          cases written
          exact @ReviewEffect.changed _ _ _ _ { review with deletedAt := some (.num env.now) } _
            role stored (own.trans (congrArg some same)) ⟨rfl, rfl, rfl, rfl⟩
            (Table.puts_modify (Table.find?_of_mem stored) rfl)

/-- What a review request of the user writes. -/
theorem write_of_review {request : ReviewRequest} {env : CatalogueEnv}
    {output : Except ApiError ReviewAnswer} (known : db.user? user.id = some user)
    (declared : request.Declared)
    (step : reviewService.step db ⟨user.id, request, env⟩ = (db', output)) : Write db user db' := by
  cases review_effect known declared step with
  | none => exact .none
  | added role valid adds =>
      refine .review role ?_ adds.ofOrder adds.author adds.own adds.place adds.delivered
        (Table.insert_eq_some adds.inserted).1 adds.unreviewed (Table.puts_insert adds.inserted)
      rw [Table.key_of_find? adds.found]
      exact adds.found
  | changed role stored author same puts => exact .changedReview role stored author same puts

end Reviews

end CoupangEats
