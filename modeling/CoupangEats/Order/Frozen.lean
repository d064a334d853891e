import CoupangEats.Catalogue.Isolation
import CoupangEats.Order.Placement
import CoupangEats.Order.Queries
import CoupangEats.Payment.Ledger
import CoupangEats.Review.Service

/-!
What later calls leave of an order.

The detail of an order is read from its own row and its own items; the names and
options of the items were copied when the order was made, so dishes and
restaurants may change behind it. A status change saves the loaded order as a
whole, with the restaurant that was loaded, and so keeps the restaurant's id only
as long as the restaurant loads: `Stands` says that it does. The other
controllers write none of the order tables (`Behind`) and, when their bodies have
declared fields only, leave every restaurant in place.
-/

namespace CoupangEats

open CoupangEats.Base

/-! ### The controllers together -/

abbrev PlatformCall := (OrderCall ⊕ CatalogueCall) ⊕ (PaymentCall ⊕ ReviewCall)

abbrev PlatformAnswer :=
  (OrderReply ⊕ Except ApiError CatalogueAnswer) ⊕
    (Except ApiError PaymentRow ⊕ Except ApiError ReviewAnswer)

/-- The order, catalogue, payment and review controllers on one store. -/
def platform : Machine Db PlatformCall PlatformAnswer :=
  (orderService.both catalogue).both (paymentService.both reviewService)

/-- A body with nothing but the fields that the request declares. -/
def CatalogueRequest.Declared : CatalogueRequest → Prop
  | .createRestaurant body | .updateRestaurant _ body =>
      ∀ entry ∈ body, entry.1 ∈ restaurantRules.map Prod.fst
  | .createDish _ body | .updateDish _ _ body =>
      ∀ entry ∈ body, entry.1 ∈ (dishRules ++ optionalDishRules).map Prod.fst
  | .deleteDish _ => True

/-- What is frozen of an order: its total, customer and restaurant, and its items
with their dish names and options. -/
structure OrderSnapshot where
  total : Option IntColumn
  customerId : Option String
  customer : Option UserRow
  restaurantId : Option String
  items : List OrderItemRow

def OrderView.snapshot (order : OrderView) : OrderSnapshot :=
  ⟨order.row.total, order.row.customerId, order.customer, order.row.restaurantId, order.items⟩

/-- The order is read with the snapshot, and its restaurant loads. -/
def Stands (db : Db) (orderId : String) (snapshot : OrderSnapshot) : Prop :=
  ∃ order, findOrder db orderId = some order ∧ order.snapshot = snapshot ∧
    ∃ restaurant, order.restaurant = some restaurant

/-- What keeps an order standing: its users and items are read as before, its
restaurant still loads, and its row keeps the frozen columns. -/
theorem Stands.transfer {db db' : Db} {orderId : String} {snapshot : OrderSnapshot}
    (stands : Stands db orderId snapshot) (users : db'.users = db.users)
    (loads : ∀ id restaurant, db.restaurant? id = some restaurant →
      ∃ restaurant', db'.restaurant? id = some restaurant')
    (items : (db'.orderItems.rows.filter fun item => item.orderId = some orderId) =
      db.orderItems.rows.filter fun item => item.orderId = some orderId)
    (rows : ∀ row restaurant, db.orders.find? orderId = some row →
      row.restaurantId.bind db.restaurant? = some restaurant →
      ∃ row', db'.orders.find? orderId = some row' ∧ row'.total = row.total ∧
        row'.customerId = row.customerId ∧ row'.restaurantId = row.restaurantId) :
    Stands db' orderId snapshot := by
  obtain ⟨order, found, same, restaurant, loaded⟩ := stands
  obtain ⟨row, stored, rfl⟩ := findOrder_eq_some.mp found
  obtain ⟨row', stored', total, customer, place⟩ := rows row restaurant stored loaded
  have users : db'.user? = db.user? := by
    funext id
    rw [Db.user?, Db.user?, users]
  refine ⟨viewOrder db' ⟨true, true, true⟩ row', findOrder_eq_some.mpr ⟨row', stored', rfl⟩, ?_, ?_⟩
  · have id : row.id = orderId := Table.key_of_find? stored
    have id' : row'.id = orderId := Table.key_of_find? stored'
    rw [← same]
    simp [OrderView.snapshot, viewOrder, id, id', total, customer, place, users, items]
  · obtain ⟨restaurantId, placed, known⟩ := Option.bind_eq_some_iff.mp loaded
    obtain ⟨restaurant', known'⟩ := loads restaurantId restaurant known
    exact ⟨restaurant', by simp [viewOrder, place, placed, known']⟩

/-! ### Calls that write none of the order tables -/

/-- The orders, their items and the users stay, and every restaurant that loads
still loads. -/
structure Behind (db db' : Db) : Prop where
  users : db'.users = db.users
  orders : db'.orders = db.orders
  orderItems : db'.orderItems = db.orderItems
  loads : ∀ id restaurant, db.restaurant? id = some restaurant →
    ∃ restaurant', db'.restaurant? id = some restaurant'

section Behind

variable {db db' : Db}

theorem Behind.refl (db : Db) : Behind db db :=
  ⟨rfl, rfl, rfl, fun _ restaurant loaded => ⟨restaurant, loaded⟩⟩

/-- A call that leaves the restaurants alone as well. -/
theorem behind_of_restaurants (users : db'.users = db.users) (orders : db'.orders = db.orders)
    (orderItems : db'.orderItems = db.orderItems) (restaurants : db'.restaurants = db.restaurants) :
    Behind db db' := by
  refine ⟨users, orders, orderItems, fun id restaurant loaded => ⟨restaurant, ?_⟩⟩
  rw [Db.restaurant?, restaurants]
  exact loaded

theorem Behind.stands (behind : Behind db db') {orderId : String} {snapshot : OrderSnapshot}
    (stands : Stands db orderId snapshot) : Stands db' orderId snapshot := by
  refine stands.transfer behind.users behind.loads (by rw [behind.orderItems]) ?_
  intro row _ stored _
  exact ⟨row, by rw [behind.orders, stored], rfl, rfl, rfl⟩

end Behind

/-- A written restaurant has the time of deletion that the object brings, if any. -/
theorem restaurant_deletedAt {id : String} {base : Option RestaurantRow} {e : Fields}
    {row : RestaurantRow} (written : RestaurantRow.write id base e = some row) :
    column e "deletedAt" timestampColumn (some (base.bind RestaurantRow.deletedAt)) =
      some row.deletedAt := by
  simp only [RestaurantRow.write, Option.bind_eq_bind, Option.bind_eq_some_iff, Option.pure_def,
    Option.some.injEq] at written
  obtain ⟨_, -, _, -, _, -, _, -, _, -, _, -, _, -, _, -, _, -, _, deletedAt, rfl⟩ := written
  exact deletedAt

section Catalogue

variable {db db' : Db} {generated : String} {e : Fields}

/-- Saving a restaurant keeps the restaurants that load, when it updates no row
or brings no time of deletion. -/
theorem save_loads {row : RestaurantRow}
    {restaurants : Table String RestaurantRow RestaurantRow.id}
    (saved : restaurantMapping.save db.acceptsRestaurant generated db.restaurants e =
      some (row, restaurants))
    (live : e.read "id" = none ∨ e.read "deletedAt" = some .null) {id : String}
    {restaurant : RestaurantRow} (loaded : db.restaurant? id = some restaurant) :
    ∃ restaurant', restaurants.find? id = some restaurant' ∧ restaurant'.deletedAt = none := by
  obtain ⟨found, alive⟩ := Db.restaurant?_eq_some.mp loaded
  rcases Mapping.save_cases saved with ⟨old, keeps, here, named, -, updated, -, rfl⟩ |
    ⟨-, -, inserted⟩
  · rcases live with unnamed | live
    · rw [unnamed] at named
      cases named
    · have written := restaurant_deletedAt updated
      simp only [column, live, timestampColumn, Option.some.injEq] at written
      rw [Table.find?_modify]
      split
      · exact ⟨row, by rw [here, Option.map_some], written.symm⟩
      · exact ⟨restaurant, found, alive⟩
  · rw [Table.find?_insert inserted]
    split
    · rename_i same
      rw [same, (Table.insert_eq_some inserted).1] at found
      cases found
    · exact ⟨restaurant, found, alive⟩

theorem saveRestaurant_behind {row : RestaurantRow}
    (saved : saveRestaurant db generated e = some (row, db'))
    (live : e.read "id" = none ∨ e.read "deletedAt" = some .null) : Behind db db' := by
  obtain ⟨restaurants, dishes, rfl, stored, -⟩ := saveRestaurant_eq_some saved
  refine ⟨rfl, rfl, rfl, fun id restaurant loaded => ?_⟩
  obtain ⟨restaurant', found, alive⟩ := save_loads stored live loaded
  exact ⟨restaurant', Db.restaurant?_eq_some.mpr ⟨found, alive⟩⟩

/-- A restaurant that a declared body saves is a new one, or keeps having no time
of deletion. -/
theorem declared_live {owner : UserRow} {request : CatalogueRequest}
    (declared : request.Declared) (saves : request.restaurantToSave db owner = .ok e) :
    e.read "id" = none ∨ e.read "deletedAt" = some .null := by
  have absent {body : Fields} (declared : ∀ entry ∈ body, entry.1 ∈ restaurantRules.map Prod.fst)
      (name : String) (other : name ∉ restaurantRules.map Prod.fst) : body.read name = none :=
    Fields.read_eq_none fun entry mem same => other (same ▸ declared entry mem)
  cases restaurantToSave_cases saves with
  | create =>
      left
      simp [Fields.read_append, absent declared "id" (by decide)]
  | update found _ =>
      right
      rw [read_restaurantOf _ (by decide), Fields.read_append,
        absent declared "deletedAt" (by decide)]
      simp [RestaurantRow.toFields, (Db.restaurant?_eq_some.mp found).2]

/-- A catalogue call with a declared body is behind the orders. -/
theorem catalogue_behind {call : CatalogueCall} {output : Except ApiError CatalogueAnswer}
    (step : catalogue.step db call = (db', output)) (declared : call.request.Declared) :
    Behind db db' := by
  simp only [catalogue] at step
  split at step
  · cases step
    exact .refl _
  · split at step
    · cases step
      exact .refl _
    · rename_i handled
      cases step
      cases handleCatalogue_effect handled with
      | restaurant saves saved => exact saveRestaurant_behind saved (declared_live declared saves)
      | dish saves saved =>
          obtain ⟨_, -, same⟩ := Option.map_eq_some_iff.mp saved
          cases same
          exact behind_of_restaurants rfl rfl rfl rfl
      | softDelete mem own deleted =>
          rw [deleted]
          exact behind_of_restaurants rfl rfl rfl rfl

end Catalogue

/-- A payment is behind the orders, whatever its body. -/
theorem payment_behind {db db' : Db} {call : PaymentCall} {output : Except ApiError PaymentRow}
    (step : paymentService.step db call = (db', output)) : Behind db db' := by
  simp only [paymentService] at step
  split at step
  · cases step
    exact .refl _
  · rename_i paid
    cases step
    obtain ⟨user, order, -, payments, -, rfl⟩ := createPayment_eq_ok.mp paid
    exact behind_of_restaurants rfl rfl rfl rfl

/-- A review is behind the orders, whatever its body. -/
theorem review_behind {db db' : Db} {call : ReviewCall} {output : Except ApiError ReviewAnswer}
    (step : reviewService.step db call = (db', output)) : Behind db db' := by
  have saved {e : Fields} {generated : String} {row : ReviewRow}
      (saved : saveReview db generated e = some (row, db')) : Behind db db' := by
    obtain ⟨_, -, same⟩ := Option.map_eq_some_iff.mp saved
    cases same
    exact behind_of_restaurants rfl rfl rfl rfl
  simp only [reviewService] at step
  split at step
  · cases step
    exact .refl _
  · split at step
    · cases step
      exact .refl _
    · rename_i user _ _ after handled
      cases step
      cases request : call.request with
      | createReview body =>
          rw [request] at handled
          obtain ⟨_, done, same⟩ := map_eq_ok handled
          obtain ⟨_, -, stored⟩ := operation_eq_ok done
          cases same
          exact saved stored
      | updateReview reviewId body =>
          rw [request] at handled
          obtain ⟨_, done, same⟩ := map_eq_ok handled
          obtain ⟨_, -, stored⟩ := operation_eq_ok done
          cases same
          exact saved stored
      | deleteReview reviewId =>
          rw [request] at handled
          obtain ⟨_, done, same⟩ := map_eq_ok handled
          obtain ⟨_, -, deleted⟩ := operation_eq_ok done
          cases same
          cases deleted
          exact behind_of_restaurants rfl rfl rfl rfl

/-! ### Calls of the order service -/

section Order

variable {db db' : Db} {orderId : String} {snapshot : OrderSnapshot}

/-- Another order leaves the order and its items alone. -/
theorem Stands.created {env : CreateOrderEnv} {order : NewOrder}
    (stands : Stands db orderId snapshot) (saved : saveNewOrder db env order = some db') :
    Stands db' orderId snapshot := by
  obtain ⟨users, restaurants, total, inserted⟩ := saveNewOrder_spec saved
  obtain ⟨-, rows, items, added⟩ := saveNewOrder_rows saved
  have other : orderId ≠ env.orderId := by
    rintro rfl
    obtain ⟨view, found, -⟩ := stands
    obtain ⟨row, stored, -⟩ := findOrder_eq_some.mp found
    cases stored.symm.trans (Table.insert_eq_some inserted).1
  refine stands.transfer users ?_ ?_ ?_
  · intro id restaurant loaded
    exact ⟨restaurant, by rw [Db.restaurant?, restaurants]; exact loaded⟩
  · have none : (rows.filter fun item => item.orderId = some orderId) = [] := by
      clear items
      generalize order.items = made at added
      induction added with
      | nil => rfl
      | cons head _ ih => simp [head.1, other.symm, ih]
    rw [items, List.filter_append, none, List.append_nil]
  · intro row _ stored _
    refine ⟨row, ?_, rfl, rfl, rfl⟩
    rw [Table.find?_insert inserted]
    exact (if_neg other).trans stored

/-- A status change saves a loaded order with the restaurant that was loaded, so
it keeps the frozen columns of an order whose restaurant loads. -/
theorem Stands.edited {editedId : String} {user : UserRow} {order edited : LoadedOrder}
    {status : OrderStatus} (stands : Stands db orderId snapshot)
    (loaded : loadOrder db editedId = some order) (edit : Edit user order status edited) :
    Stands (saveOrder db order.row edited.columns) orderId snapshot := by
  refine stands.transfer rfl (fun _ restaurant known => ⟨restaurant, known⟩) rfl ?_
  intro row restaurant stored placed
  have found := loadOrder_row loaded
  have id : order.row.id = editedId := Table.key_of_find? found
  rw [saveOrder_find?, id]
  split
  · rename_i same
    rw [← same, stored, Option.some.injEq] at found
    subst found
    refine ⟨OrderRow.overwrite order.row edited.columns order.row,
      by rw [← same, stored, Option.map_some], rfl, rfl, ?_⟩
    -- The restaurant that was loaded is the row's own.
    have kept : edited.columns.restaurantId = order.row.restaurantId := by
      obtain ⟨restaurantId, here, known⟩ := Option.bind_eq_some_iff.mp placed
      have own : order.restaurant.map RestaurantRow.id = order.row.restaurantId := by
        rw [loadOrder_restaurant loaded, placed, here, Option.map_some, Db.restaurant?_id known]
      cases edit <;> exact own
    simp [OrderRow.overwrite, kept]
  · exact ⟨row, stored, rfl, rfl, rfl⟩

theorem Stands.order {call : OrderCall} {reply : OrderReply}
    (stands : Stands db orderId snapshot) (step : orderService.step db call = (db', reply)) :
    Stands db' orderId snapshot := by
  have effect := orderStep_effect db call
  rw [show orderStep db call = _ from step] at effect
  generalize reply.result = result at effect
  cases effect with
  | refused => exact stands
  | created _ _ saved => exact stands.created saved
  | edited _ loaded edit => exact stands.edited loaded edit

/-- An order stands from its creation on. -/
theorem stands_of_created {userId : String} {dto : CreateOrderDto} {env : CreateOrderEnv}
    {reply : OrderReply} (step : orderService.step db (.createOrder userId dto env) = (db', reply))
    (accepted : reply.Accepted) : ∃ snapshot, Stands db' env.orderId snapshot := by
  obtain ⟨value, ok⟩ := accepted
  have effect := orderStep_effect db (.createOrder userId dto env)
  rw [show orderStep db (.createOrder userId dto env) = _ from step, ok] at effect
  simp only at effect
  cases effect with
  | @created _ _ _ _ order _ known assembled saved =>
      obtain ⟨users, restaurants, total, inserted⟩ := saveNewOrder_spec saved
      have loaded := (assembleOrder_spec assembled).1
      let row := order.row env.orderId total env.now
      have stored : db'.orders.find? env.orderId = some row := by
        rw [Table.find?_insert inserted]
        exact if_pos rfl
      refine ⟨_, viewOrder db' ⟨true, true, true⟩ row, findOrder_eq_some.mpr ⟨row, stored, rfl⟩,
        rfl, order.restaurant, ?_⟩
      rw [← Db.restaurant?_id loaded] at loaded
      simpa [viewOrder, row, NewOrder.row, Db.restaurant?, restaurants] using loaded

end Order

/-! ### Runs -/

/-- The call's body has declared fields only. A body of the other controllers may
have more. -/
def DeclaredCall : PlatformCall → Prop
  | .inl (.inr call) => call.request.Declared
  | _ => True

/-- One call keeps every order standing. -/
theorem Stands.step {orderId : String} {snapshot : OrderSnapshot}
    {e : Event Db PlatformCall PlatformAnswer}
    (step : platform.step e.before e.input = (e.after, e.output)) (declared : DeclaredCall e.input)
    (stands : Stands e.before orderId snapshot) : Stands e.after orderId snapshot := by
  rcases Machine.step_both step with ⟨a, w, input, -, step⟩ | ⟨b, x, input, -, step⟩
  · rcases Machine.step_both (e := ⟨e.before, a, w, e.after⟩) step with
      ⟨call, reply, same, -, step⟩ | ⟨call, answer, same, -, step⟩
    · exact stands.order step
    · simp only at same
      subst same
      rw [input] at declared
      exact (catalogue_behind step declared).stands stands
  · rcases Machine.step_both (e := ⟨e.before, b, x, e.after⟩) step with
      ⟨call, answer, -, -, step⟩ | ⟨call, answer, -, -, step⟩
    · exact (payment_behind step).stands stands
    · exact (review_behind step).stands stands

/-- Order history is frozen: whatever calls follow the creation of an order, it
stays, and whoever reads it by its id reads one and the same total, customer,
restaurant id and items. -/
theorem order_frozen {db : Db} {calls : List PlatformCall}
    (declared : ∀ call ∈ calls, DeclaredCall call)
    {first rest : List (Event Db PlatformCall PlatformAnswer)}
    {e : Event Db PlatformCall PlatformAnswer}
    (split : platform.history db calls = first ++ e :: rest) {userId : String}
    {dto : CreateOrderDto} {env : CreateOrderEnv} {reply : OrderReply}
    (asked : e.input = .inl (.inl (.createOrder userId dto env)))
    (answered : e.output = .inl (.inl reply)) (accepted : reply.Accepted) :
    ∃ snapshot, ∀ f ∈ e :: rest, (∃ order, findOrder f.after env.orderId = some order) ∧
      ∀ user order, getOrderById f.after user env.orderId = .ok order →
        order.snapshot = snapshot := by
  have step := Machine.step_of_mem_history (Machine.mem_of_split split)
  rw [asked, answered] at step
  have created : orderService.step e.before (.createOrder userId dto env) = (e.after, reply) := by
    simp only [platform, Machine.both, Prod.mk.injEq, Sum.inl.injEq] at step
    exact Prod.ext step.1 step.2
  obtain ⟨snapshot, stands⟩ := stands_of_created created accepted
  have reads {f : Event Db PlatformCall PlatformAnswer}
      (stands : Stands f.after env.orderId snapshot) :
      (∃ order, findOrder f.after env.orderId = some order) ∧
        ∀ user order, getOrderById f.after user env.orderId = .ok order →
          order.snapshot = snapshot := by
    obtain ⟨order, found, same, -⟩ := stands
    refine ⟨⟨order, found⟩, fun user order' read => ?_⟩
    rw [(getOrderById_eq_ok.mp read).1, Option.some.injEq] at found
    rw [found, same]
  refine ⟨snapshot, fun f mem => ?_⟩
  rcases List.mem_cons.mp mem with rfl | later
  · exact reads stands
  · obtain ⟨early, late, rfl, -, -, rfl⟩ := Machine.history_split split
    have inv := (Machine.history_invariant (fun db => Stands db env.orderId snapshot)
      (fun e => DeclaredCall e.input) (fun _ step declared stands => stands.step step declared)
      stands fun f mem => declared f.input (by simp [Machine.input_mem mem])).2 f later
    exact reads inv.2

/-- The sample order stays as it is when its owner accepts it. -/
theorem accepted_order_frozen :
    ∃ snapshot, ∀ f ∈ platform.history sampleStore [.inl (.inl sampleOrder),
        .inl (.inl (.editOrderStatus "owner" "order" .cooking .none))],
      (∃ order, findOrder f.after "order" = some order) ∧
        ∀ user order, getOrderById f.after user "order" = .ok order →
          order.snapshot = snapshot := by
  have declared : ∀ call ∈ [(.inl (.inl sampleOrder) : PlatformCall),
      .inl (.inl (.editOrderStatus "owner" "order" .cooking .none))], DeclaredCall call := by
    simp [DeclaredCall]
  have created : (orderService.step sampleStore sampleOrder).2.Accepted :=
    ⟨.inl ⟨"order", 0, ⟨sampleUser "customer" .client, sampleRestaurant "kimbap" "owner", 7000,
      [⟨sampleDish "tuna" "kimbap", "tuna", none⟩], .pending⟩⟩, by decide +kernel⟩
  have split : ∃ rest, platform.history sampleStore [.inl (.inl sampleOrder),
      .inl (.inl (.editOrderStatus "owner" "order" .cooking .none))] =
        [] ++ platform.event sampleStore (.inl (.inl sampleOrder)) :: rest := ⟨_, rfl⟩
  obtain ⟨rest, split⟩ := split
  rw [split]
  exact order_frozen declared split rfl rfl created

end CoupangEats
