import CoupangEats.Catalogue.Isolation
import CoupangEats.Order.Prices
import Mathlib.Algebra.Group.Submonoid.BigOperators
import Mathlib.Algebra.Group.Submonoid.Operations
import Mathlib.Data.Rat.Floor

/-!
The total of an order as a number.

The validators let every number through: a delivery fee and a price may be
negative, and the extra of an option, which is kept in a JSON column, may have a
fraction as well. `SoundAmounts` says that the body of a request has none of
these. In a run of the order and catalogue controllers whose requests are sound,
what is stored stays sound (`Priced`), and the total of every accepted order is a
non-negative integer that the row, the answer and the notice all carry
(`totals_exact`).
-/

namespace CoupangEats

open CoupangEats.Base

/-! ### Amounts -/

/-- The amounts that are non-negative integers. -/
def wholeAmounts : AddSubmonoid ℚ := AddMonoidHom.mrange (Nat.castAddMonoidHom ℚ)

theorem mem_wholeAmounts {q : ℚ} : q ∈ wholeAmounts ↔ ∃ n : ℕ, (n : ℚ) = q := Iff.rfl

/-- A column with a non-negative value holds a whole amount. -/
theorem whole_of_column {column : IntColumn} (nonneg : 0 ≤ column.val) :
    (column.val : ℚ) ∈ wholeAmounts := by
  obtain ⟨n, same⟩ := Int.eq_ofNat_of_zero_le nonneg
  exact mem_wholeAmounts.mpr ⟨n, by rw [same, Int.cast_natCast]⟩

/-- An integer is rounded to itself. -/
theorem roundHalfAway_intCast (n : Int) : roundHalfAway n = n := by
  have half (m : Int) : ((m : ℚ) + 1 / 2).floor = m := by
    change ⌊(m : ℚ) + 1 / 2⌋ = m
    exact Int.floor_eq_iff.mpr ⟨by linarith, by linarith⟩
  unfold roundHalfAway
  split
  · exact half n
  · rw [← Int.cast_neg, half (-n), neg_neg]

/-- What a column stores of a number is the number rounded. -/
theorem IntColumn.ofNumber_val {q : ℚ} {column : IntColumn}
    (stored : IntColumn.ofNumber q = some column) : column.val = roundHalfAway q := by
  unfold IntColumn.ofNumber at stored
  split_ifs at stored
  cases stored
  rfl

/-- A whole amount is stored as it is. -/
theorem ofNumber_of_whole {q : ℚ} {column : IntColumn} (whole : q ∈ wholeAmounts)
    (stored : IntColumn.ofNumber q = some column) : 0 ≤ column.val ∧ q = column.val := by
  obtain ⟨n, rfl⟩ := mem_wholeAmounts.mp whole
  have value : column.val = (n : Int) := by
    rw [IntColumn.ofNumber_val stored, ← Int.cast_natCast, roundHalfAway_intCast]
  rw [value]
  exact ⟨Int.natCast_nonneg n, (Int.cast_natCast n).symm⟩

/-! ### Sound bodies -/

/-- A number that the object has under the name rounds to a non-negative one. -/
def SoundAmount (e : Fields) (name : String) : Prop :=
  ∀ q, e.read name = some (.num q) → 0 ≤ roundHalfAway q

/-- The extras of the options that the object lists are whole amounts. -/
def SoundExtras (e : Fields) : Prop :=
  ∀ items, e.read "options" = some (.arr items) → ∀ item ∈ items, ∀ o,
    DishOption.ofJson item = some o → o.extra ∈ wholeAmounts

/-- The amounts of a request's body that orders are charged by. -/
def CatalogueRequest.SoundAmounts : CatalogueRequest → Prop
  | .createRestaurant body | .updateRestaurant _ body => SoundAmount body "deliveryFee"
  | .createDish _ body | .updateDish _ _ body => SoundAmount body "price" ∧ SoundExtras body
  | .deleteDish _ => True

section Sound

variable {e first second : Fields} {name : String}

theorem read_of_append {value : Json} (read : (first ++ second).read name = some value) :
    second.read name = some value ∨ first.read name = some value := by
  rw [Fields.read_append] at read
  exact (Option.or_eq_some_iff.mp read).imp_right And.right

theorem SoundAmount.append (old : SoundAmount first name) (new : SoundAmount second name) :
    SoundAmount (first ++ second) name := by
  intro q read
  rcases read_of_append read with here | here
  · exact new q here
  · exact old q here

theorem SoundExtras.append (old : SoundExtras first) (new : SoundExtras second) :
    SoundExtras (first ++ second) := by
  intro items read
  rcases read_of_append read with here | here
  · exact new items here
  · exact old items here

theorem soundAmount_of_none (absent : e.read name = none) : SoundAmount e name := by
  intro q read
  rw [absent] at read
  cases read

theorem soundExtras_of_none (absent : e.read "options" = none) : SoundExtras e := by
  intro items read
  rw [absent] at read
  cases read

/-- An `int` column that takes a sound amount, or keeps one, is not negative. -/
theorem SoundAmount.column {present : Option IntColumn} {written : IntColumn}
    (sound : SoundAmount e name) (old : ∀ c, present = some c → 0 ≤ c.val)
    (taken : column e name intColumn present = some written) : 0 ≤ written.val := by
  unfold CoupangEats.column at taken
  split at taken
  · exact old written taken
  · rename_i value read
    cases value with
    | num q =>
        rw [IntColumn.ofNumber_val taken]
        exact sound q read
    | null | bool | str | arr | obj => cases taken

/-- What a list is read as was read of its elements. -/
theorem mem_of_mapM {α β : Type} {f : α → Option β} {items : List α} {results : List β}
    (read : items.mapM f = some results) {b : β} (mem : b ∈ results) :
    ∃ item ∈ items, f item = some b := by
  induction items generalizing results with
  | nil =>
      cases read
      cases mem
  | cons item items ih =>
      simp only [List.mapM_cons, Option.bind_eq_bind, Option.bind_eq_some_iff, Option.pure_def,
        Option.some.injEq] at read
      obtain ⟨head, first, rest, others, rfl⟩ := read
      rcases List.mem_cons.mp mem with rfl | mem
      · exact ⟨item, List.mem_cons_self, first⟩
      · obtain ⟨item', mem', read'⟩ := ih others mem
        exact ⟨item', List.mem_cons_of_mem _ mem', read'⟩

/-- The `options` column, likewise. -/
theorem SoundExtras.column {present : Option (Option (List DishOption))}
    {written : Option (List DishOption)} (sound : SoundExtras e)
    (old : ∀ options, present = some options → ∀ o ∈ options.getD [], o.extra ∈ wholeAmounts)
    (taken : column e "options" optionsColumn present = some written) :
    ∀ o ∈ written.getD [], o.extra ∈ wholeAmounts := by
  unfold CoupangEats.column at taken
  split at taken
  · exact old written taken
  · rename_i value read
    cases value with
    | null =>
        cases taken
        intro o mem
        cases mem
    | arr items =>
        obtain ⟨options, listed, rfl⟩ := Option.map_eq_some_iff.mp taken
        intro o mem
        obtain ⟨item, mem', parsed⟩ := mem_of_mapM listed mem
        exact sound items read item mem' o parsed
    | bool | num | str | obj => cases taken

end Sound

/-! ### Sound rows -/

/-- The amounts of a dish are whole. -/
structure DishRow.Priced (dish : DishRow) : Prop where
  price : 0 ≤ dish.price.val
  extras : ∀ o ∈ dish.options.getD [], o.extra ∈ wholeAmounts

/-- The stored amounts are whole. -/
structure Priced (db : Db) : Prop where
  fees : ∀ restaurant ∈ db.restaurants.rows, 0 ≤ restaurant.deliveryFee.val
  dishes : ∀ dish ∈ db.dishes.rows, dish.Priced

section Rows

variable {id : String} {e : Fields}

theorem RestaurantRow.soundAmount_toFields {restaurant : RestaurantRow}
    (fee : 0 ≤ restaurant.deliveryFee.val) : SoundAmount restaurant.toFields "deliveryFee" := by
  intro q read
  have same : (restaurant.deliveryFee.val : ℚ) = q := by
    simpa [RestaurantRow.toFields] using read
  rw [← same, roundHalfAway_intCast]
  exact fee

/-- A stored option is read back with its extra. -/
theorem DishOption.extra_of_toJson {o o' : DishOption}
    (read : DishOption.ofJson o.toJson = some o') : o'.extra = o.extra := by
  obtain ⟨rest, stored⟩ : ∃ rest, ofJson o.toJson = some ⟨o.name, o.extra, rest⟩ := by
    simp [toJson, ofJson, Fields.read_append]
  rw [stored, Option.some.injEq] at read
  rw [← read]

theorem DishRow.Priced.toFields {dish : DishRow} (priced : dish.Priced) :
    SoundAmount dish.toFields "price" ∧ SoundExtras dish.toFields := by
  constructor
  · intro q read
    have same : (dish.price.val : ℚ) = q := by simpa [DishRow.toFields] using read
    rw [← same, roundHalfAway_intCast]
    exact priced.price
  · intro items read item mem o parsed
    cases stored : dish.options with
    | none => simp [DishRow.toFields, orNull, stored] at read
    | some options =>
        have same : options.map DishOption.toJson = items := by
          simpa [DishRow.toFields, orNull, stored] using read
        rw [← same] at mem
        obtain ⟨o', mem', rfl⟩ := List.mem_map.mp mem
        rw [DishOption.extra_of_toJson parsed]
        exact priced.extras o' (by rwa [stored])

/-- The delivery fee of a written restaurant. -/
theorem restaurant_deliveryFee {base : Option RestaurantRow} {row : RestaurantRow}
    (written : RestaurantRow.write id base e = some row) :
    column e "deliveryFee" intColumn (base.map RestaurantRow.deliveryFee) =
      some row.deliveryFee := by
  simp only [RestaurantRow.write, Option.bind_eq_bind, Option.bind_eq_some_iff, Option.pure_def,
    Option.some.injEq] at written
  obtain ⟨_, -, _, -, _, -, _, deliveryFee, _, -, _, -, _, -, _, -, _, -, _, -, rfl⟩ := written
  exact deliveryFee

/-- The price and the options of a written dish. -/
theorem dish_amounts {base : Option DishRow} {row : DishRow}
    (written : DishRow.write id base e = some row) :
    column e "price" intColumn (base.map DishRow.price) = some row.price ∧
      column e "options" optionsColumn (some (base.bind DishRow.options)) = some row.options := by
  simp only [DishRow.write, Option.bind_eq_bind, Option.bind_eq_some_iff, Option.pure_def,
    Option.some.injEq] at written
  obtain ⟨_, -, _, price, _, -, _, -, _, options, _, -, _, -, rfl⟩ := written
  exact ⟨price, options⟩

end Rows

/-! ### What a request saves -/

section Requests

variable {db db' : Db} {owner : UserRow} {request : CatalogueRequest} {generated : String}
  {e : Fields}

/-- What a sound request saves as a restaurant has a sound delivery fee. -/
theorem restaurantToSave_sound (priced : Priced db) (sound : request.SoundAmounts)
    (saves : request.restaurantToSave db owner = .ok e) : SoundAmount e "deliveryFee" := by
  cases restaurantToSave_cases saves with
  | create => exact SoundAmount.append sound (soundAmount_of_none rfl)
  | @update restaurantId body restaurant found _ =>
      have fee : 0 ≤ restaurant.deliveryFee.val :=
        priced.fees restaurant (Db.restaurant?_mem found)
      intro q read
      rw [read_restaurantOf _ (by decide)] at read
      exact (RestaurantRow.soundAmount_toFields fee).append sound q read

/-- What a sound request saves as a dish has sound amounts. -/
theorem dishToSave_sound (priced : Priced db) (sound : request.SoundAmounts)
    (saves : request.dishToSave db owner = .ok e) : SoundAmount e "price" ∧ SoundExtras e := by
  cases dishToSave_cases saves with
  | create =>
      exact ⟨sound.1.append (soundAmount_of_none rfl), sound.2.append (soundExtras_of_none rfl)⟩
  | @update restaurantId dishId body dish restaurant stored _ =>
      obtain ⟨price, extras⟩ := (priced.dishes dish stored).toFields
      exact ⟨(price.append (soundAmount_of_none rfl)).append sound.1,
        (extras.append (soundExtras_of_none rfl)).append sound.2⟩

/-- Binding dishes to a restaurant keeps their amounts. -/
theorem bindDishes_priced {restaurantId : String} {ids : List String}
    {dishes dishes' : Table String DishRow DishRow.id}
    (bound : bindDishes restaurantId ids dishes = some dishes')
    (priced : ∀ dish ∈ dishes.rows, dish.Priced) : ∀ dish ∈ dishes'.rows, dish.Priced := by
  unfold bindDishes at bound
  split_ifs at bound
  cases bound
  intro dish mem
  obtain ⟨old, stored, rfl⟩ := List.mem_map.mp mem
  have before := priced old stored
  split
  · exact ⟨before.price, before.extras⟩
  · exact before

theorem saveRestaurant_priced {row : RestaurantRow} (priced : Priced db)
    (sound : SoundAmount e "deliveryFee")
    (saved : saveRestaurant db generated e = some (row, db')) : Priced db' := by
  obtain ⟨restaurants, dishes, rfl, stored, bound⟩ := saveRestaurant_eq_some saved
  constructor
  · apply Mapping.save_forall stored priced.fees
    · intro id made
      exact sound.column (fun _ absent => by cases absent) (restaurant_deliveryFee made)
    · intro old before updated
      refine sound.column (fun c same => ?_) (restaurant_deliveryFee updated)
      cases same
      exact before
  · rcases bound with rfl | ⟨items, ids, -, -, bound⟩
    · exact priced.dishes
    · exact bindDishes_priced bound priced.dishes

theorem saveDish_priced {row : DishRow} (priced : Priced db) (price : SoundAmount e "price")
    (extras : SoundExtras e) (saved : saveDish db generated e = some (row, db')) : Priced db' := by
  obtain ⟨⟨row', dishes⟩, stored, same⟩ := Option.map_eq_some_iff.mp saved
  cases same
  refine ⟨priced.fees, Mapping.save_forall stored priced.dishes ?_ ?_⟩
  · intro id made
    obtain ⟨priceTaken, optionsTaken⟩ := dish_amounts made
    refine ⟨price.column (fun _ absent => by cases absent) priceTaken,
      extras.column (fun options same o mem => ?_) optionsTaken⟩
    cases same
    cases mem
  · intro old before updated
    obtain ⟨priceTaken, optionsTaken⟩ := dish_amounts updated
    refine ⟨price.column (fun c same => ?_) priceTaken,
      extras.column (fun options same => ?_) optionsTaken⟩
    · cases same
      exact before.price
    · cases same
      exact before.extras

theorem softDeleteDish_priced {now : Time} {dishId : String} (priced : Priced db) :
    Priced (softDeleteDish db now dishId) := by
  refine ⟨priced.fees, fun dish mem => ?_⟩
  rw [softDeleteDish, Table.mem_modify] at mem
  obtain ⟨old, stored, rfl⟩ := mem
  have before := priced.dishes old stored
  split
  · exact ⟨before.price, before.extras⟩
  · exact before

/-- A sound request leaves sound amounts. -/
theorem CatalogueEffect.priced (effect : CatalogueEffect db owner request db')
    (priced : Priced db) (sound : request.SoundAmounts) : Priced db' := by
  cases effect with
  | restaurant saves saved =>
      exact saveRestaurant_priced priced (restaurantToSave_sound priced sound saves) saved
  | dish saves saved =>
      obtain ⟨price, extras⟩ := dishToSave_sound priced sound saves
      exact saveDish_priced priced price extras saved
  | softDelete _ _ deleted =>
      rw [deleted]
      exact softDeleteDish_priced priced

theorem priced_of_catalogue {call : CatalogueCall} {output : Except ApiError CatalogueAnswer}
    (step : catalogue.step db call = (db', output)) (priced : Priced db)
    (sound : ∀ owner, admitCatalogue db call = .ok owner → call.request.SoundAmounts) :
    Priced db' := by
  simp only [catalogue] at step
  split at step
  · cases step
    exact priced
  · rename_i owner admitted
    split at step
    · cases step
      exact priced
    · rename_i handled
      cases step
      exact (handleCatalogue_effect handled).priced priced (sound owner admitted)

/-- An order leaves the catalogue alone. -/
theorem OrderEffect.priced {call : OrderCall}
    {result : Except ApiError (CreatedOrder ⊕ LoadedOrder)}
    (effect : OrderEffect db call result db') (priced : Priced db) : Priced db' := by
  obtain ⟨-, restaurants⟩ := effect.static
  have dishes : db'.dishes = db.dishes := by
    cases effect with
    | refused | edited => rfl
    | created _ _ saved => exact saveNewOrder_dishes saved
  exact ⟨by rw [restaurants]; exact priced.fees, by rw [dishes]; exact priced.dishes⟩

end Requests

/-! ### The total of an order -/

abbrev ShopCall := OrderCall ⊕ CatalogueCall

abbrev ShopAnswer := OrderReply ⊕ Except ApiError CatalogueAnswer

/-- The total of an accepted order is a non-negative integer that fits its
column, and the row, the answer and the notice have the same. -/
def OneTotal (e : Event Db ShopCall ShopAnswer) : Prop :=
  ∀ reply created, e.output = .inl reply → reply.result = .ok (.inl created) →
    ∃ total : IntColumn, 0 ≤ total.val ∧ created.order.total = total.val ∧
      (∃ row, e.after.orders.find? created.id = some row ∧ row.total = some total) ∧
      ∃ room restaurantId, reply.sent = [.newPendingOrder room created.id restaurantId total.val]

/-- The condition on a call: if the catalogue's guards and pipes let it through,
its amounts are sound. -/
def SoundCall (db : Db) : ShopCall → Prop
  | .inl _ => True
  | .inr call => ∀ owner, admitCatalogue db call = .ok owner → call.request.SoundAmounts

section Total

variable {db db' : Db}

/-- What the items of an order cost is whole. -/
theorem basketPrice_whole (priced : Priced db) (items : List CreateOrderItemDto) :
    basketPrice db items ∈ wholeAmounts := by
  apply list_sum_mem
  intro price mem
  obtain ⟨item, -, rfl⟩ := List.mem_map.mp mem
  cases found : db.dish? item.dishId with
  | none => exact zero_mem _
  | some dish =>
      have amounts := priced.dishes dish (Table.mem_of_find? (Db.dish?_eq_some.mp found).1)
      apply add_mem (whole_of_column amounts.price)
      apply list_sum_mem
      intro extra mem
      obtain ⟨userOption, -, rfl⟩ := List.mem_map.mp mem
      unfold DishRow.extra
      cases named : (dish.options.getD []).find? fun o => Names userOption o with
      | none => exact zero_mem _
      | some o => exact amounts.extras o (List.mem_of_find?_eq_some named)

/-- An order that was created has a whole total, which is stored. -/
theorem OrderEffect.total {call : OrderCall} {created : CreatedOrder} (priced : Priced db)
    (effect : OrderEffect db call (.ok (.inl created)) db') :
    ∃ total : IntColumn, 0 ≤ total.val ∧ created.order.total = total.val ∧
      ∃ row, db'.orders.find? created.id = some row ∧ row.total = some total := by
  cases effect with
  | @created _ _ env _ order _ known assembled saved =>
      obtain ⟨⟨total, fits, orders⟩, -⟩ := saveNewOrder_rows saved
      have stored : order.row env.orderId total env.now ∈ db'.orders.rows := by
        rw [orders]
        exact List.mem_append_right _ List.mem_cons_self
      have whole : order.total ∈ wholeAmounts := by
        obtain ⟨restaurant, made, found, -, rfl⟩ := assembleOrder_eq_ok.mp assembled
        have fee : 0 ≤ restaurant.deliveryFee.val :=
          priced.fees restaurant (Db.restaurant?_mem found)
        exact add_mem (basketPrice_whole priced _) (whole_of_column fee)
      obtain ⟨nonneg, same⟩ := ofNumber_of_whole whole fits
      exact ⟨total, nonneg, same, _, Table.find?_of_mem stored, rfl⟩

/-- One call keeps sound amounts sound, and an order it creates has one total. -/
theorem oneTotal_of_step {e : Event Db ShopCall ShopAnswer} (priced : Priced e.before)
    (step : (orderService.both catalogue).step e.before e.input = (e.after, e.output))
    (sound : SoundCall e.before e.input) : Priced e.after ∧ OneTotal e := by
  rcases Machine.step_both step with ⟨call, reply, -, output, step⟩ |
    ⟨call, answer, input, output, step⟩
  · have effect := orderStep_effect e.before call
    rw [show orderStep e.before call = _ from step] at effect
    refine ⟨effect.priced priced, ?_⟩
    intro reply' created same accepted
    rw [output, Sum.inl.injEq] at same
    subst same
    rw [accepted] at effect
    obtain ⟨total, nonneg, same, stored⟩ := effect.total priced
    have result : (orderStep e.before call).2.result = .ok (.inl created) := by
      rw [show orderStep e.before call = _ from step]
      exact accepted
    have sent := sent_of_created result
    rw [show orderStep e.before call = _ from step] at sent
    exact ⟨total, nonneg, same, stored, _, _, by rw [sent, CreatedOrder.notice, same]⟩
  · rw [input] at sound
    refine ⟨priced_of_catalogue step priced sound, ?_⟩
    intro reply created same
    rw [output] at same
    cases same

end Total

/-- In a catalogue that sound requests have built, every accepted order has one
total. -/
theorem totals_exact {db : Db} {calls : List ShopCall} (restaurants : db.restaurants = .empty)
    (dishes : db.dishes = .empty)
    (sound : ∀ e ∈ (orderService.both catalogue).history db calls, SoundCall e.before e.input) :
    ∀ e ∈ (orderService.both catalogue).history db calls, OneTotal e := by
  have start : Priced db := by
    refine ⟨fun restaurant mem => ?_, fun dish mem => ?_⟩
    · rw [restaurants] at mem
      cases mem
    · rw [dishes] at mem
      cases mem
  have inv := (Machine.history_invariant Priced (fun e => SoundCall e.before e.input)
    (fun _ step sound priced => (oneTotal_of_step priced step sound).1) start sound).2
  intro e mem
  exact (oneTotal_of_step (inv e mem).1 (Machine.step_of_mem_history mem) (sound e mem)).2

/-! ### A shop that opens -/

/-- A customer and an owner, and nothing to order yet. -/
def openingStore : Db :=
  { Db.empty with
    users := ⟨[sampleUser "customer" .client, sampleUser "owner" .owner], by decide⟩
    categories := ⟨[⟨"food", "food", "food"⟩], by decide⟩ }

/-- The owner opens a restaurant with a pizza, and the customer orders the pizza
with cheese. -/
def openingCalls (extra : ℚ) : List ShopCall :=
  [.inr ⟨"owner", .createRestaurant [("name", .str "pizza"), ("coverImg", .str "cover.png"),
      ("address", .str "Seoul"), ("categoryId", .str "food"), ("deliveryFee", .num 2000),
      ("minimumPrice", .num 0)], ⟨pizzaId, 0, false⟩⟩,
    .inr ⟨"owner", .createDish pizzaId [("name", .str "margherita"), ("price", .num 5000),
      ("description", .str ""),
      ("options", .arr [.obj [("name", .str "cheese"), ("extra", .num extra)]])],
      ⟨"margherita", 0, false⟩⟩,
    .inl (.createOrder "customer"
      ⟨pizzaId, [⟨"margherita", some [.obj [("name", .str "cheese")]]⟩]⟩
      ⟨"order", fun n => "item" ++ toString n, 0, .none⟩)]

/-- Cheese for 500 is charged as such. -/
theorem opening_total_exact :
    (∀ e ∈ (orderService.both catalogue).history openingStore (openingCalls 500), OneTotal e) ∧
      (((orderService.both catalogue).run openingStore (openingCalls 500)).orders.find?
        "order").map OrderRow.total = some (some ⟨7500, by decide⟩) := by
  refine ⟨totals_exact rfl rfl fun e mem => ?_, by decide +kernel⟩
  simp only [openingCalls, Machine.history_cons, Machine.history_nil, List.mem_cons,
    List.not_mem_nil, or_false] at mem
  rcases mem with rfl | rfl | rfl
  · intro owner _ q read
    have fee : 2000 = q := by simpa using read
    rw [← fee]
    decide +kernel
  · intro owner _
    constructor
    · intro q read
      have price : 5000 = q := by simpa using read
      rw [← price]
      decide +kernel
    · intro items read item mem o parsed
      have listed : [.obj [("name", .str "cheese"), ("extra", .num 500)]] = items := by
        simpa using read
      rw [← listed, List.mem_singleton] at mem
      rw [mem] at parsed
      have extra : 500 = o.extra := by
        simp only [DishOption.ofJson, Fields.read_cons, Fields.read_nil] at parsed
        cases parsed
        rfl
      exact mem_wholeAmounts.mpr ⟨500, extra⟩
  · trivial

/-- Cheese for half a won passes the validators: the answer says 7000.5 and the
row 7001. -/
theorem half_a_won :
    ¬ ∀ (db : Db) (calls : List ShopCall), db.restaurants = .empty → db.dishes = .empty →
      ∀ e ∈ (orderService.both catalogue).history db calls, OneTotal e := by
  intro all
  let created : CreatedOrder := ⟨"order", 0, ⟨sampleUser "customer" .client,
    { sampleRestaurant pizzaId "owner" with name := "pizza", categoryId := some "food" },
    14001 / 2, [⟨{ sampleDish "margherita" pizzaId with
      description := "", options := some [⟨"cheese", 1 / 2, []⟩] }, "margherita",
      some [.obj [("name", .str "cheese")]]⟩], .pending⟩⟩
  have accepted : ∃ e ∈ (orderService.both catalogue).history openingStore (openingCalls (1 / 2)),
      ∃ reply, e.output = .inl reply ∧ reply.result = .ok (.inl created) := by
    refine ⟨_, List.mem_cons_of_mem _ (List.mem_cons_of_mem _ List.mem_cons_self), _, rfl, ?_⟩
    decide +kernel
  obtain ⟨e, mem, reply, output, result⟩ := accepted
  obtain ⟨total, -, same, -⟩ := all openingStore _ rfl rfl e mem reply created output result
  have twice : (14001 : Int) = 2 * total.val := by
    have halves : (14001 / 2 : ℚ) = total.val := same
    have scaled : (14001 : ℚ) = 2 * total.val := by linarith
    exact_mod_cast scaled
  omega

end CoupangEats
