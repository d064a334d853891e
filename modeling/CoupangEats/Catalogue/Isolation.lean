import CoupangEats.Catalogue.Service

/-!
Owner isolation of the catalogue.

The services check the row that the URL names, and their saves write the row
that the body's `id` names. In a run in which no request that passes its checks
brings the `id` of a row of somebody else, or lists somebody else's dish, every
request leaves the restaurants of other owners, and their dishes, as they were
(`owners_isolated`).
-/

namespace CoupangEats

open CoupangEats.Base

/-! ### The rows of others -/

/-- A stored restaurant of somebody else. -/
def ForeignRestaurant (db : Db) (userId : String) (restaurant : RestaurantRow) : Prop :=
  restaurant ∈ db.restaurants.rows ∧ restaurant.ownerId ≠ userId

/-- A stored dish of such a restaurant. -/
def ForeignDish (db : Db) (userId : String) (dish : DishRow) : Prop :=
  dish ∈ db.dishes.rows ∧
    ∃ restaurant, ForeignRestaurant db userId restaurant ∧ restaurant.id = dish.restaurantId

/-- The rows of others are as they were. -/
structure Isolated (userId : String) (before after : Db) : Prop where
  restaurants : ∀ restaurant, ForeignRestaurant before userId restaurant →
    restaurant ∈ after.restaurants.rows
  dishes : ∀ dish, ForeignDish before userId dish → dish ∈ after.dishes.rows

/-- Every call of a run leaves the rows of others than its user alone. -/
def OwnersIsolated (history : List (Event Db CatalogueCall (Except ApiError CatalogueAnswer))) :
    Prop :=
  ∀ e ∈ history, Isolated e.input.userId e.before e.after

theorem Isolated.refl (userId : String) (db : Db) : Isolated userId db db :=
  ⟨fun _ foreign => foreign.1, fun _ foreign => foreign.1⟩

/-! ### What a request saves -/

/-- The body of a request. -/
def CatalogueRequest.body : CatalogueRequest → Fields
  | .createRestaurant body | .updateRestaurant _ body | .createDish _ body | .updateDish _ _ body =>
      body
  | .deleteDish _ => []

/-- The restaurant that a request saves when it passes its checks. -/
def CatalogueRequest.restaurantToSave (db : Db) (owner : UserRow) :
    CatalogueRequest → Except ApiError Fields
  | .createRestaurant body => restaurantToCreate db owner body
  | .updateRestaurant restaurantId body => restaurantToUpdate db owner restaurantId body
  | _ => .error (.notFound "")

/-- The dish that a request saves when it passes its checks. -/
def CatalogueRequest.dishToSave (db : Db) (owner : UserRow) :
    CatalogueRequest → Except ApiError Fields
  | .createDish restaurantId body => dishToCreate db owner restaurantId body
  | .updateDish restaurantId dishId body => dishToUpdate db owner restaurantId dishId body
  | _ => .error (.notFound "")

/-- The body of a request that saves a restaurant names somebody else's, or
lists somebody else's dish; the body of one that saves a dish names somebody
else's. -/
inductive Trespasses (db : Db) (owner : UserRow) (request : CatalogueRequest) : Prop where
  | restaurant {e restaurant} (saves : request.restaurantToSave db owner = .ok e)
      (foreign : ForeignRestaurant db owner.id restaurant)
      (named : request.body.read "id" = some (.str restaurant.id))
  | listed {e items ids dish} (saves : request.restaurantToSave db owner = .ok e)
      (foreign : ForeignDish db owner.id dish) (lists : request.body.read "dishes" = some items)
      (read : relatedIds items = some ids) (named : dish.id ∈ ids)
  | dish {e dish} (saves : request.dishToSave db owner = .ok e)
      (foreign : ForeignDish db owner.id dish)
      (named : request.body.read "id" = some (.str dish.id))

section Checks

variable {db : Db} {owner : UserRow} {request : CatalogueRequest} {e : Fields}

/-- What a request that passes its checks saves as a restaurant: its body for a new
one, or its body over a restaurant of the caller. -/
inductive RestaurantSave (db : Db) (owner : UserRow) : CatalogueRequest → Fields → Prop where
  | create {body : Fields} {category : CategoryRow} :
      RestaurantSave db owner (.createRestaurant body)
        (body ++ [("ownerId", .str owner.id), ("category", .obj category.toFields)])
  | update {restaurantId : String} {body : Fields} {restaurant : RestaurantRow} :
      db.restaurant? restaurantId = some restaurant → restaurant.ownerId = owner.id →
      RestaurantSave db owner (.updateRestaurant restaurantId body)
        (restaurantOf (restaurant.toFields ++ body))

theorem restaurantToSave_cases (saves : request.restaurantToSave db owner = .ok e) :
    RestaurantSave db owner request e := by
  cases request with
  | createRestaurant body =>
      simp only [CatalogueRequest.restaurantToSave, restaurantToCreate] at saves
      split_ifs at saves
      split at saves
      · cases saves
      · cases saves
        exact .create
  | updateRestaurant restaurantId body =>
      simp only [CatalogueRequest.restaurantToSave, restaurantToUpdate] at saves
      split at saves
      · cases saves
      · rename_i restaurant found
        split_ifs at saves with foreign
        cases saves
        exact .update found (not_not.mp foreign)
  | createDish | updateDish | deleteDish => cases saves

/-- A restaurant is saved under the body's `id`, or else under that of a
restaurant of the caller. -/
theorem restaurantToSave_id (saves : request.restaurantToSave db owner = .ok e) :
    e.read "id" = request.body.read "id" ∨
      ∃ restaurant ∈ db.restaurants.rows, restaurant.ownerId = owner.id ∧
        e.read "id" = some (.str restaurant.id) := by
  cases restaurantToSave_cases saves with
  | create => exact .inl (by simp [CatalogueRequest.body, Fields.read_append])
  | @update restaurantId body restaurant found own =>
      rw [read_restaurantOf _ (by decide), Fields.read_append, restaurant.read_toFields_id]
      cases named : body.read "id" with
      | none => exact .inr ⟨restaurant, Db.restaurant?_mem found, own, rfl⟩
      | some value => exact .inl (by simp [CatalogueRequest.body, named])

/-- A restaurant is saved with the body's list of dishes, if with any. -/
theorem restaurantToSave_dishes (saves : request.restaurantToSave db owner = .ok e) {items : Json}
    (lists : e.read "dishes" = some items) : request.body.read "dishes" = some items := by
  cases restaurantToSave_cases saves with
  | create => simpa [CatalogueRequest.body, Fields.read_append] using lists
  | @update restaurantId body restaurant _ _ =>
      rcases read_restaurantOf_dishes (restaurant.toFields ++ body) with same | none
      · rw [same, Fields.read_append, restaurant.read_toFields_dishes, Option.or_none] at lists
        exact lists
      · rw [none] at lists
        cases lists

/-- The dish that a check has found is one of the caller's. -/
theorem ownDish_eq_ok {refusal : String} {found : Option DishRow} {dish : DishRow}
    {restaurant : RestaurantRow} (own : ownDish db owner refusal found = .ok (dish, restaurant)) :
    found = some dish ∧ restaurant ∈ db.restaurants.rows ∧ restaurant.id = dish.restaurantId ∧
      restaurant.ownerId = owner.id := by
  unfold ownDish at own
  split at own
  · cases own
  · split at own
    · cases own
    · rename_i loaded
      split_ifs at own with foreign
      cases own
      exact ⟨rfl, Db.restaurant?_mem loaded,
        Db.restaurant?_id loaded, not_not.mp foreign⟩

/-- A dish of the caller's restaurant is not somebody else's. -/
theorem not_foreignDish {dish : DishRow} {restaurant : RestaurantRow}
    (mem : restaurant ∈ db.restaurants.rows) (same : restaurant.id = dish.restaurantId)
    (own : restaurant.ownerId = owner.id) : ¬ ForeignDish db owner.id dish := by
  rintro ⟨-, other, ⟨mem', foreign⟩, same'⟩
  cases db.restaurants.eq_of_key_eq mem mem' (same.trans same'.symm)
  exact foreign own

/-- What a request that passes its checks saves as a dish: its body for a new one, or
its body over a dish of a restaurant of the caller. -/
inductive DishSave (db : Db) (owner : UserRow) : CatalogueRequest → Fields → Prop where
  | create {restaurantId : String} {body : Fields} :
      DishSave db owner (.createDish restaurantId body)
        (body ++ [("restaurantId", .str restaurantId)])
  | update {restaurantId dishId : String} {body : Fields} {dish : DishRow}
      {restaurant : RestaurantRow} :
      dish ∈ db.dishes.rows → ¬ ForeignDish db owner.id dish →
      DishSave db owner (.updateDish restaurantId dishId body)
        (dish.toFields ++ [("restaurant", .obj restaurant.toFields)] ++ body)

theorem dishToSave_cases (saves : request.dishToSave db owner = .ok e) :
    DishSave db owner request e := by
  cases request with
  | createDish restaurantId body =>
      simp only [CatalogueRequest.dishToSave, dishToCreate] at saves
      split at saves
      · cases saves
      · split_ifs at saves
        cases saves
        exact .create
  | updateDish restaurantId dishId body =>
      simp only [CatalogueRequest.dishToSave, dishToUpdate] at saves
      split at saves
      · cases saves
      · rename_i dish restaurant own
        cases saves
        obtain ⟨found, mem, same, owned⟩ := ownDish_eq_ok own
        have stored := (Option.filter_eq_some_iff.mp found).1
        exact .update (Table.mem_of_find? (Db.dish?_eq_some.mp stored).1)
          (not_foreignDish mem same owned)
  | createRestaurant | updateRestaurant | deleteDish => cases saves

/-- A dish is saved under the body's `id`, or else under that of a dish that is
not somebody else's. -/
theorem dishToSave_id (saves : request.dishToSave db owner = .ok e) :
    e.read "id" = request.body.read "id" ∨
      ∃ dish ∈ db.dishes.rows, ¬ ForeignDish db owner.id dish ∧
        e.read "id" = some (.str dish.id) := by
  cases dishToSave_cases saves with
  | create => exact .inl (by simp [CatalogueRequest.body, Fields.read_append])
  | @update restaurantId dishId body dish restaurant stored own =>
      rw [Fields.read_append, Fields.read_append, dish.read_toFields_id]
      cases named : body.read "id" with
      | none => exact .inr ⟨dish, stored, own, by simp⟩
      | some value => exact .inl (by simp [CatalogueRequest.body, named])

end Checks

/-! ### What a request does -/

section Effects

variable {db db' : Db} {userId generated : String} {e : Fields}

theorem bindDishes_keeps {restaurantId : String} {ids : List String}
    {dishes dishes' : Table String DishRow DishRow.id} {dish : DishRow}
    (bound : bindDishes restaurantId ids dishes = some dishes') (mem : dish ∈ dishes.rows)
    (unlisted : dish.id ∉ ids) : dish ∈ dishes'.rows := by
  unfold bindDishes at bound
  split_ifs at bound
  cases bound
  exact List.mem_map.mpr ⟨dish, mem, if_neg unlisted⟩

/-- The frame of saving a restaurant. -/
theorem saveRestaurant_isolated {row : RestaurantRow}
    (saved : saveRestaurant db generated e = some (row, db'))
    (own : ∀ restaurant, ForeignRestaurant db userId restaurant →
      e.read "id" ≠ some (.str restaurant.id))
    (unlisted : ∀ dish, ForeignDish db userId dish → ∀ items ids, e.read "dishes" = some items →
      relatedIds items = some ids → dish.id ∉ ids) : Isolated userId db db' := by
  obtain ⟨restaurants, dishes, rfl, stored, bound⟩ := saveRestaurant_eq_some saved
  refine ⟨fun restaurant foreign => ?_, fun dish foreign => ?_⟩
  · exact Mapping.save_keeps stored foreign.1 (own restaurant foreign)
  · rcases bound with rfl | ⟨items, ids, lists, read, bound⟩
    · exact foreign.1
    · exact bindDishes_keeps bound foreign.1 (unlisted dish foreign items ids lists read)

/-- The frame of saving a dish. -/
theorem saveDish_isolated {row : DishRow} (saved : saveDish db generated e = some (row, db'))
    (own : ∀ dish, ForeignDish db userId dish → e.read "id" ≠ some (.str dish.id)) :
    Isolated userId db db' := by
  obtain ⟨⟨row', dishes⟩, stored, same⟩ := Option.map_eq_some_iff.mp saved
  cases same
  exact ⟨fun _ foreign => foreign.1,
    fun dish foreign => Mapping.save_keeps stored foreign.1 (own dish foreign)⟩

/-- The frame of a deletion. -/
theorem softDeleteDish_isolated {dish : DishRow} {now : Time}
    (own : ¬ ForeignDish db userId dish) (mem : dish ∈ db.dishes.rows) :
    Isolated userId db (softDeleteDish db now dish.id) := by
  refine ⟨fun _ foreign => foreign.1, fun other foreign => ?_⟩
  have different : other.id ≠ dish.id := by
    intro same
    cases db.dishes.eq_of_key_eq foreign.1 mem same
    exact own foreign
  refine Table.mem_of_find? (k := other.id) ?_
  rw [softDeleteDish, Table.find?_modify, if_neg different]
  exact Table.find?_of_mem foreign.1

end Effects

/-- What a request that is answered well has done. -/
inductive CatalogueEffect (db : Db) (owner : UserRow) (request : CatalogueRequest) (db' : Db) :
    Prop where
  | restaurant {e generated row} (saves : request.restaurantToSave db owner = .ok e)
      (saved : saveRestaurant db generated e = some (row, db'))
  | dish {e generated row} (saves : request.dishToSave db owner = .ok e)
      (saved : saveDish db generated e = some (row, db'))
  | softDelete {dish now} (mem : dish ∈ db.dishes.rows) (own : ¬ ForeignDish db owner.id dish)
      (deleted : db' = softDeleteDish db now dish.id)

section Step

variable {db db' : Db} {owner : UserRow} {request : CatalogueRequest} {env : CatalogueEnv}

theorem handleCatalogue_effect {answer : CatalogueAnswer}
    (handled : handleCatalogue db owner env request = .ok (answer, db')) :
    CatalogueEffect db owner request db' := by
  cases request with
  | createRestaurant body =>
      obtain ⟨_, done, same⟩ := map_eq_ok handled
      obtain ⟨e, checked, saved⟩ := operation_eq_ok done
      cases same
      exact .restaurant checked saved
  | updateRestaurant restaurantId body =>
      obtain ⟨_, done, same⟩ := map_eq_ok handled
      obtain ⟨e, checked, saved⟩ := operation_eq_ok done
      cases same
      exact .restaurant checked saved
  | createDish restaurantId body =>
      obtain ⟨_, done, same⟩ := map_eq_ok handled
      obtain ⟨e, checked, saved⟩ := operation_eq_ok done
      cases same
      exact .dish checked saved
  | updateDish restaurantId dishId body =>
      obtain ⟨_, done, same⟩ := map_eq_ok handled
      obtain ⟨e, checked, saved⟩ := operation_eq_ok done
      cases same
      exact .dish checked saved
  | deleteDish dishId =>
      obtain ⟨_, done, same⟩ := map_eq_ok handled
      obtain ⟨⟨dish, restaurant⟩, checked, deleted⟩ := operation_eq_ok done
      cases same
      cases deleted
      obtain ⟨found, mem, same, owned⟩ := ownDish_eq_ok checked
      obtain ⟨stored, -⟩ := Db.dish?_eq_some.mp found
      exact .softDelete (Table.mem_of_find? stored) (not_foreignDish mem same owned)
        (by rw [Table.key_of_find? stored])

/-- A request that does not trespass leaves the rows of others alone. -/
theorem CatalogueEffect.isolated (effect : CatalogueEffect db owner request db')
    (home : ¬ Trespasses db owner request) : Isolated owner.id db db' := by
  cases effect with
  | restaurant saves saved =>
      refine saveRestaurant_isolated saved (fun restaurant foreign named => ?_)
        fun dish foreign items ids lists read listed => ?_
      · rcases restaurantToSave_id saves with same | ⟨own, mem, owned, same⟩
        · exact home (.restaurant saves foreign (same ▸ named))
        · rw [named, Option.some.injEq, Json.str.injEq] at same
          cases db.restaurants.eq_of_key_eq foreign.1 mem same
          exact foreign.2 owned
      · exact home (.listed saves foreign (restaurantToSave_dishes saves lists) read listed)
  | dish saves saved =>
      refine saveDish_isolated saved fun dish foreign named => ?_
      rcases dishToSave_id saves with same | ⟨own, mem, owned, same⟩
      · exact home (.dish saves foreign (same ▸ named))
      · rw [named, Option.some.injEq, Json.str.injEq] at same
        cases db.dishes.eq_of_key_eq foreign.1 mem same
        exact owned foreign
  | softDelete mem own deleted =>
      rw [deleted]
      exact softDeleteDish_isolated own mem

end Step

/-! ### Runs -/

/-- The condition on a call: if it passes the guards, the pipes and the checks
of its service, its body names no row of others. -/
def AtHome (db : Db) (call : CatalogueCall) : Prop :=
  ∀ owner, admitCatalogue db call = .ok owner → ¬ Trespasses db owner call.request

/-- A call whose body brings only declared properties stays at home. -/
theorem atHome_of_declared {db : Db} {call : CatalogueCall}
    (unnamed : call.request.body.read "id" = none)
    (unlisted : call.request.body.read "dishes" = none) : AtHome db call := by
  intro owner _ trespasses
  cases trespasses with
  | restaurant _ _ named | dish _ _ named =>
      rw [unnamed] at named
      cases named
  | listed _ _ lists _ _ =>
      rw [unlisted] at lists
      cases lists

section Run

variable {db : Db} {calls : List CatalogueCall}

theorem admitCatalogue_id {call : CatalogueCall} {owner : UserRow}
    (admitted : admitCatalogue db call = .ok owner) : owner.id = call.userId := by
  unfold admitCatalogue at admitted
  split at admitted
  · cases admitted
  · rename_i user found
    split_ifs at admitted
    cases admitted
    exact Db.user?_id found

/-- A call that stays at home leaves the rows of others alone. -/
theorem isolated_of_step {db' : Db} {call : CatalogueCall}
    {output : Except ApiError CatalogueAnswer}
    (step : catalogue.step db call = (db', output)) (home : AtHome db call) :
    Isolated call.userId db db' := by
  simp only [catalogue] at step
  split at step
  · cases step
    exact .refl _ _
  · rename_i owner admitted
    split at step
    · cases step
      exact .refl _ _
    · rename_i answer after handled
      cases step
      rw [← admitCatalogue_id admitted]
      exact (handleCatalogue_effect handled).isolated (home owner admitted)

/-- In a run whose calls all stay at home, every call leaves the restaurants of
other owners than its user, and their dishes, as they were. -/
theorem owners_isolated
    (home : ∀ e ∈ catalogue.history db calls, AtHome e.before e.input) :
    OwnersIsolated (catalogue.history db calls) :=
  fun e mem => isolated_of_step (Machine.step_of_mem_history mem) (home e mem)

/-- As long as an owner makes no call, and the others stay at home, the owner's
restaurants and their dishes stay as they were. -/
theorem owner_undisturbed {userId : String}
    (home : ∀ e ∈ catalogue.history db calls, AtHome e.before e.input)
    (others : ∀ call ∈ calls, call.userId ≠ userId) :
    ∀ restaurant ∈ db.restaurants.rows, restaurant.ownerId = userId →
      restaurant ∈ (catalogue.run db calls).restaurants.rows ∧
        ∀ dish ∈ db.dishes.rows, dish.restaurantId = restaurant.id →
          dish ∈ (catalogue.run db calls).dishes.rows := by
  intro restaurant mem own
  induction calls generalizing db with
  | nil => exact ⟨mem, fun dish stored _ => stored⟩
  | cons call calls ih =>
      have first : Isolated call.userId db (catalogue.step db call).1 :=
        isolated_of_step rfl (home (catalogue.event db call) List.mem_cons_self)
      have foreign : ForeignRestaurant db call.userId restaurant :=
        ⟨mem, fun same => others call List.mem_cons_self (same.symm.trans own)⟩
      obtain ⟨kept, dishes⟩ := ih (fun e later => home e (List.mem_cons_of_mem _ later))
        (fun later rest => others later (List.mem_cons_of_mem _ rest))
        (first.restaurants restaurant foreign)
      exact ⟨kept, fun dish stored same =>
        dishes dish (first.dishes dish ⟨stored, restaurant, foreign, same.symm⟩) same⟩

end Run

/-! ### Two owners -/

def kimbapId : String := "11111111-1111-4111-8111-111111111111"

def pizzaId : String := "22222222-2222-4222-8222-222222222222"

/-- A store with two owners of a restaurant each. -/
def twoOwnersStore : Db :=
  { Db.empty with
    users :=
      ⟨[⟨"owner1", "1@x.kr", "pw", "owner1", .owner, true, none⟩,
        ⟨"owner2", "2@x.kr", "pw", "owner2", .owner, true, none⟩], by decide⟩
    restaurants :=
      ⟨[sampleRestaurant kimbapId "owner1", sampleRestaurant pizzaId "owner2"], by decide⟩ }

/-- The second owner changes the menu and the name of the own restaurant. -/
def ownChanges : List CatalogueCall :=
  [⟨"owner2", .createDish pizzaId [("name", .str "margherita"), ("price", .num 9000),
      ("description", .str "")], ⟨"dish", 0, false⟩⟩,
    ⟨"owner2", .updateRestaurant pizzaId [("name", .str "pizza")], ⟨"", 1, false⟩⟩]

/-- The second owner's changes stay at home. -/
theorem own_changes_isolated :
    OwnersIsolated (catalogue.history twoOwnersStore ownChanges) := by
  refine owners_isolated fun e mem => ?_
  simp only [ownChanges, Machine.history_cons, Machine.history_nil, List.mem_cons,
    List.not_mem_nil, or_false] at mem
  rcases mem with rfl | rfl <;> exact atHome_of_declared rfl rfl

/-- An update of the own restaurant that brings the other's `id` writes over the
other's restaurant. -/
theorem restaurant_taken_over :
    ¬ ∀ (db : Db) (calls : List CatalogueCall), OwnersIsolated (catalogue.history db calls) := by
  intro all
  let call : CatalogueCall :=
    ⟨"owner2", .updateRestaurant pizzaId [("id", .str kimbapId)], ⟨"", 0, false⟩⟩
  have isolated := all twoOwnersStore [call] _ List.mem_cons_self
  have kept := isolated.restaurants (sampleRestaurant kimbapId "owner1")
    ⟨List.mem_cons_self, by decide⟩
  revert kept
  decide +kernel

end CoupangEats
