import CoupangEats.Order.Totals
import Mathlib.Data.List.TakeWhile

/-!
How `createOrder` refuses a request.

What the service looks for and does not find is answered with a
`NotFoundException`. Two things it does not look at. The options of an item are
validated as an array only, and a `null` among them fails with a `TypeError` as
soon as the dish has an option that it is compared with. A total outside the
range of its column is refused by the database. `createOrder_classified_iff` says
that there is no third way.
-/

namespace CoupangEats

open CoupangEats.Base

/-! ### Bodies -/

/-- The validators of `CreateOrderItemDto`. -/
def CreateOrderItemDto.ofJson : Json → Option CreateOrderItemDto
  | .obj fields =>
      match Fields.readString fields "dishId", Fields.read fields "options" with
      | some dishId, none | some dishId, some .null => some ⟨dishId, none⟩
      | some dishId, some (.arr options) => some ⟨dishId, some options⟩
      | _, _ => none
  | _ => none

/-- The validators of `CreateOrderDto`. -/
def CreateOrderDto.ofBody (body : Fields) : Option CreateOrderDto :=
  match body.readString "restaurantId", body.read "items" with
  | some restaurantId, some (.arr items) =>
      (items.mapM CreateOrderItemDto.ofJson).map fun items => ⟨restaurantId, items⟩
  | _, _ => none

def CreateOrderItemDto.toJson (item : CreateOrderItemDto) : Json :=
  .obj [("dishId", .str item.dishId), ("options", orNull .arr item.options)]

def CreateOrderDto.toBody (dto : CreateOrderDto) : Fields :=
  [("restaurantId", .str dto.restaurantId),
    ("items", .arr (dto.items.map CreateOrderItemDto.toJson))]

theorem CreateOrderItemDto.ofJson_toJson (item : CreateOrderItemDto) :
    ofJson item.toJson = some item := by
  obtain ⟨dishId, options⟩ := item
  cases options <;> simp [toJson, ofJson, orNull, Fields.readString]

/-- Every request is that of a body that passes the validators. -/
theorem CreateOrderDto.ofBody_toBody (dto : CreateOrderDto) : ofBody dto.toBody = some dto := by
  have items : (dto.items.map CreateOrderItemDto.toJson).mapM CreateOrderItemDto.ofJson =
      some dto.items := by
    induction dto.items with
    | nil => rfl
    | cons item rest ih =>
        rw [List.map_cons, List.mapM_cons, CreateOrderItemDto.ofJson_toJson, ih]
        rfl
  simp [toBody, ofBody, Fields.readString, items]

/-- The handler of the controller: the pipe, then the service. -/
def handleCreateOrder (db : Db) (customer : UserRow) (body : Fields) (env : CreateOrderEnv) :
    Except ApiError CreatedOrder :=
  match CreateOrderDto.ofBody body with
  | none => .error (.badRequest "Validation failed")
  | some dto => (createOrder db customer dto env).result

/-! ### Kinds of answers -/

/-- The call succeeds, or it throws a `NotFoundException`. -/
def Classified {α : Type} (result : Except ApiError α) : Prop :=
  (∃ a, result = .ok a) ∨ ∃ message, result = .error (.notFound message)

/-- The item loop ends, or it gets to a missing dish; and if it ends, the total
fits its column. -/
structure Workable (db : Db) (dto : CreateOrderDto) (restaurant : RestaurantRow) : Prop where
  readable : ∀ item ∈ dto.items.takeWhile fun item => (db.dish? item.dishId).isSome, ∀ dish,
    db.dish? item.dishId = some dish → Readable dish (item.options.getD [])
  fits : (∀ item ∈ dto.items, ∃ dish, db.dish? item.dishId = some dish) →
    ∃ total, IntColumn.ofNumber (basketPrice db dto.items + restaurant.deliveryFee.val) = some total

section Loop

/-- The loop over the options fails with a `TypeError` only. -/
theorem addOptions_error {dish : DishRow} {p : ℚ} {options : List Json} {e : ApiError}
    (failed : addOptions dish p options = .error e) : ∃ message, e = .internal message := by
  have name {userOption : Json} {e : ApiError} (failed : optionName userOption = .error e) :
      ∃ message, e = .internal message := by
    cases userOption with
    | null =>
        cases failed
        exact ⟨_, rfl⟩
    | bool | num | str | arr | obj => cases failed
  have option {stored : List DishOption} {userOption : Json} {e : ApiError}
      (failed : findOption stored userOption = .error e) : ∃ message, e = .internal message := by
    induction stored with
    | nil => cases failed
    | cons o rest ih =>
        unfold findOption at failed
        split at failed
        · rename_i unread
          cases failed
          exact name unread
        · split_ifs at failed
          exact ih failed
  induction options generalizing p with
  | nil => cases failed
  | cons userOption rest ih =>
      unfold addOptions at failed
      split at failed
      · rename_i unfound
        cases failed
        exact option unfound
      · exact ih failed
      · exact ih failed

/-- An item that is not made fails with a `TypeError`. -/
theorem processOrderItem_error {item : CreateOrderItemDto} {dish : DishRow} {e : ApiError}
    (failed : processOrderItem item dish = .error e) :
    (∃ message, e = .internal message) ∧ ¬ Readable dish (item.options.getD []) := by
  refine ⟨?_, fun readable => ?_⟩
  · unfold processOrderItem at failed
    split at failed
    · rename_i unadded
      cases failed
      exact addOptions_error unadded
    · cases failed
  · rw [processOrderItem_eq_ok.mpr ⟨readable, rfl, rfl⟩] at failed
    cases failed

/-- The item loop succeeds or misses a dish exactly when it can read the options
of the items before the first missing dish. -/
theorem processItems_classified {db : Db} {dishes : List DishRow} {items : List CreateOrderItemDto}
    (finds : ∀ item ∈ items, (dishes.find? fun d => d.id = item.dishId) = db.dish? item.dishId)
    {acc : List NewOrderItem} {p : ℚ} :
    Classified (processItems dishes acc p items) ↔
      ∀ item ∈ items.takeWhile fun item => (db.dish? item.dishId).isSome, ∀ dish,
        db.dish? item.dishId = some dish → Readable dish (item.options.getD []) := by
  induction items generalizing acc p with
  | nil => exact iff_of_true (.inl ⟨_, rfl⟩) fun _ mem => by cases mem
  | cons item rest ih =>
      have rest' : ∀ i ∈ rest, (dishes.find? fun d => d.id = i.dishId) = db.dish? i.dishId :=
        fun i mem => finds i (List.mem_cons_of_mem _ mem)
      rw [processItems, finds item List.mem_cons_self]
      cases found : db.dish? item.dishId with
      | none =>
          rw [List.takeWhile_cons_of_neg (by simp [found])]
          exact iff_of_true (.inr ⟨_, rfl⟩) fun _ mem => by cases mem
      | some dish =>
          rw [List.takeWhile_cons_of_pos (by simp [found]), List.forall_mem_cons]
          cases processed : processOrderItem item dish with
          | error e =>
              obtain ⟨⟨message, rfl⟩, unreadable⟩ := processOrderItem_error processed
              simp only [processed]
              refine iff_of_false ?_ fun readable => unreadable (readable.1 dish found)
              rintro (⟨_, ok⟩ | ⟨_, missing⟩)
              · cases ok
              · cases missing
          | ok pair =>
              obtain ⟨made, price⟩ := pair
              obtain ⟨readable, -, -⟩ := processOrderItem_eq_ok.mp processed
              simp only [processed]
              rw [ih rest']
              refine ⟨fun later => ⟨fun dish' same => ?_, later⟩, And.right⟩
              rw [found, Option.some.injEq] at same
              rwa [← same]

end Loop

section Call

variable {db : Db} {user : UserRow} {dto : CreateOrderDto} {env : CreateOrderEnv}
  {restaurant : RestaurantRow}

theorem classified_map {α β : Type} {result : Except ApiError α} {f : α → β} :
    Classified (result.map f) ↔ Classified result := by
  cases result with
  | error e => simp [Classified, Except.map]
  | ok a => exact iff_of_true (.inl ⟨f a, rfl⟩) (.inl ⟨a, rfl⟩)

/-- A failed call was workable exactly when something was missing. -/
theorem workable_of_error {e : ApiError}
    (found : db.restaurant? dto.restaurantId = some restaurant)
    (failed : assembleOrder db user dto = .error e) :
    Classified (.error e : Except ApiError ℚ) ↔ Workable db dto restaurant := by
  have loop : Classified (processItems (dishesOf db dto) [] 0 dto.items) ↔ _ :=
    processItems_classified fun _ => dishesOf_find?
  have processed : processItems (dishesOf db dto) [] 0 dto.items = .error e := by
    unfold assembleOrder at failed
    rw [found] at failed
    cases processed : processItems (dishesOf db dto) [] 0 dto.items with
    | error e' => simpa [processed] using failed
    | ok made => simp [processed] at failed
  rw [processed] at loop
  have same : Classified (.error e : Except ApiError ℚ) ↔
      Classified (.error e : Except ApiError (List NewOrderItem × ℚ)) := by
    simp [Classified]
  rw [same, loop]
  refine ⟨fun readable => ⟨readable, fun all => ?_⟩, Workable.readable⟩
  -- The loop has not ended, so a dish is missing.
  have whole : (dto.items.takeWhile fun item => (db.dish? item.dishId).isSome) = dto.items := by
    apply List.takeWhile_eq_self_iff.mpr
    intro item mem
    obtain ⟨dish, stored⟩ := all item mem
    rw [stored, Option.isSome_some]
  rw [whole] at readable
  have stocked : ∀ item ∈ dto.items, ∃ dish, db.dish? item.dishId = some dish ∧
      Readable dish (item.options.getD []) := by
    intro item mem
    obtain ⟨dish, stored⟩ := all item mem
    exact ⟨dish, stored, readable item mem dish stored⟩
  obtain ⟨made, makes⟩ := makes_all stocked
  rw [(processItems_eq_ok fun _ => dishesOf_find?).mpr ⟨made, makes, rfl, rfl⟩] at processed
  cases processed

/-- A call whose order is assembled was workable exactly when the order can be
stored. -/
theorem workable_of_ok {order : NewOrder} (known : db.users.find? user.id = some user)
    (fresh : env.Fresh db) (found : db.restaurant? dto.restaurantId = some restaurant)
    (assembled : assembleOrder db user dto = .ok order) :
    (saveNewOrder db env order).isSome = true ↔ Workable db dto restaurant := by
  obtain ⟨restaurant', made, found', all, rfl⟩ := assembleOrder_eq_ok.mp assembled
  rw [found, Option.some.injEq] at found'
  subst found'
  constructor
  · intro stored
    obtain ⟨db', saved⟩ := Option.isSome_iff_exists.mp stored
    obtain ⟨⟨total, fits, -⟩, -⟩ := saveNewOrder_rows saved
    refine ⟨fun item mem dish stored => ?_, fun _ => ⟨total, fits⟩⟩
    obtain ⟨_, -, dish', stored', readable, -⟩ :=
      made_of_item all (List.takeWhile_subset _ mem)
    rw [stored, Option.some.injEq] at stored'
    rwa [stored']
  · intro workable
    obtain ⟨total, fits⟩ := workable.fits fun item mem => by
      obtain ⟨_, -, dish, stored, -, -⟩ := made_of_item all mem
      exact ⟨dish, stored⟩
    obtain ⟨db', saved⟩ := saveNewOrder_of_fresh
      ⟨user, restaurant, basketPrice db dto.items + restaurant.deliveryFee.val, made, .pending⟩
      known fits fresh
    rw [saved, Option.isSome_some]

end Call

/-- Ids that are new to a store without orders. -/
def freshEnv : CreateOrderEnv :=
  ⟨"order", fun n => String.ofList (List.replicate n 'i'), 0, .none⟩

theorem freshEnv_fresh : freshEnv.Fresh menuStore := by
  refine ⟨rfl, fun _ => rfl, fun n m same => ?_⟩
  have lengths := congrArg String.length same
  simpa [freshEnv] using lengths

end CoupangEats
