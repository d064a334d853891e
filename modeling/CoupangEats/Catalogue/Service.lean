import CoupangEats.Base.Machine
import CoupangEats.Columns

/-!
The restaurant and dish services.

Every operation looks up the restaurant or dish that the URL names, checks that
it is the caller's, and saves an object in which the properties of the body come
last; the save goes by the object's `id`. The validation pipe has no whitelist,
so that `id` may be the client's. A restaurant's `dishes` are a relation that a
save follows too: the listed dishes are given to the restaurant, and one that is
no longer listed would be left without any, which its column refuses.

What an operation is about to save (`restaurantToCreate` and its siblings) is a
function of its own.
-/

namespace CoupangEats

open CoupangEats.Base

/-! ### Validation -/

/-- `ParseUUIDPipe`. -/
def isUuid (value : String) : Bool :=
  let groups := value.toList.splitOn '-'
  groups.map List.length = [8, 4, 4, 4, 12] &&
    groups.all fun group => group.all fun c =>
      c.isDigit || ('a' ≤ c && c ≤ 'f') || ('A' ≤ c && c ≤ 'F')

/-- `IsString`. -/
def isString : Json → Bool
  | .str _ => true
  | _ => false

/-- `IsNumber`. -/
def isNumber : Json → Bool
  | .num _ => true
  | _ => false

/-- `IsArray` with `ValidateNested` of `DishOptionDto`s. -/
def isOptions : Json → Bool
  | .arr items => items.all fun item => (DishOption.ofJson item).isSome
  | _ => false

/-- A declared property. -/
def required (body : Fields) (rule : String × (Json → Bool)) : Bool :=
  (body.read rule.1).any rule.2

/-- A declared property with `IsOptional`. -/
def optional (body : Fields) (rule : String × (Json → Bool)) : Bool :=
  (body.read rule.1).all fun value => value = .null || rule.2 value

def restaurantRules : List (String × (Json → Bool)) :=
  [("name", isString), ("coverImg", isString), ("address", isString), ("categoryId", isString),
    ("deliveryFee", isNumber), ("minimumPrice", isNumber)]

def dishRules : List (String × (Json → Bool)) :=
  [("name", isString), ("price", isNumber), ("description", isString)]

def optionalDishRules : List (String × (Json → Bool)) :=
  [("photo", isString), ("options", isOptions)]

/-- `CreateRestaurantDto`. -/
def validCreateRestaurant (body : Fields) : Bool := restaurantRules.all (required body)

/-- `UpdateRestaurantDto`: all properties of `CreateRestaurantDto`, optional. -/
def validUpdateRestaurant (body : Fields) : Bool := restaurantRules.all (optional body)

/-- `CreateDishDto`. -/
def validCreateDish (body : Fields) : Bool :=
  dishRules.all (required body) && optionalDishRules.all (optional body)

/-- `UpdateDishDto`: all properties of `CreateDishDto`, optional. -/
def validUpdateDish (body : Fields) : Bool := (dishRules ++ optionalDishRules).all (optional body)

/-! ### Saving -/

/-- The ids in a list of related objects. -/
def relatedIds : Json → Option (List String)
  | .null => some []
  | .arr items => some (items.filterMap fun
      | .obj fields => Fields.readString fields "id"
      | _ => none)
  | _ => none

/-- Give the listed dishes to a restaurant. -/
def bindDishes (restaurantId : String) (ids : List String)
    (dishes : Table String DishRow DishRow.id) : Option (Table String DishRow DishRow.id) :=
  if dishes.rows.any fun dish => dish.restaurantId = restaurantId ∧ dish.id ∉ ids then none
  else
    some (dishes.mapRows (fun dish => if dish.id ∈ ids then { dish with restaurantId } else dish)
      fun dish => by split <;> rfl)

/-- `restaurantRepository.save`. -/
def saveRestaurant (db : Db) (generated : String) (e : Fields) : Option (RestaurantRow × Db) :=
  match restaurantMapping.save db.acceptsRestaurant generated db.restaurants e with
  | none => none
  | some (row, restaurants) =>
      match e.read "dishes" with
      | none => some (row, { db with restaurants })
      | some listed =>
          match relatedIds listed with
          | none => none
          | some ids =>
              (bindDishes row.id ids db.dishes).map fun dishes =>
                (row, { db with restaurants, dishes })

/-- A saved restaurant is written, and the dishes that are listed, if any, are given
to it. -/
theorem saveRestaurant_eq_some {db db' : Db} {generated : String} {e : Fields}
    {row : RestaurantRow} (saved : saveRestaurant db generated e = some (row, db')) :
    ∃ restaurants dishes, db' = { db with restaurants, dishes } ∧
      restaurantMapping.save db.acceptsRestaurant generated db.restaurants e =
        some (row, restaurants) ∧
      (dishes = db.dishes ∨ ∃ items ids, e.read "dishes" = some items ∧
        relatedIds items = some ids ∧ bindDishes row.id ids db.dishes = some dishes) := by
  unfold saveRestaurant at saved
  split at saved
  · cases saved
  · rename_i row' restaurants stored
    split at saved
    · cases saved
      exact ⟨restaurants, db.dishes, rfl, stored, .inl rfl⟩
    · rename_i items lists
      split at saved
      · cases saved
      · rename_i ids read
        obtain ⟨dishes, bound, same⟩ := Option.map_eq_some_iff.mp saved
        cases same
        exact ⟨restaurants, dishes, rfl, stored, .inr ⟨items, ids, lists, read, bound⟩⟩

/-- `restaurantRepository.create`, which copies a list relation only from a
list. -/
def restaurantOf (e : Fields) : Fields :=
  match e.read "dishes" with
  | some (.arr _) => e
  | _ => e.filter fun entry => entry.1 ≠ "dishes"

theorem read_restaurantOf (e : Fields) {name : String} (other : name ≠ "dishes") :
    (restaurantOf e).read name = e.read name := by
  unfold restaurantOf
  split
  · rfl
  · rw [Fields.read_without, if_neg other]

/-- A created entity has the list of the object, or none. -/
theorem read_restaurantOf_dishes (e : Fields) :
    (restaurantOf e).read "dishes" = e.read "dishes" ∨ (restaurantOf e).read "dishes" = none := by
  unfold restaurantOf
  split
  · exact .inl rfl
  · exact .inr (by rw [Fields.read_without, if_pos rfl])

/-- `dishRepository.save`. -/
def saveDish (db : Db) (generated : String) (e : Fields) : Option (DishRow × Db) :=
  (dishMapping.save db.acceptsDish generated db.dishes e).map fun (row, dishes) =>
    (row, { db with dishes })

/-! ### The services -/

/-- What a request takes from outside: the id of a row that brings none, the
time, and whether the database fails it. -/
structure CatalogueEnv where
  generated : String
  now : Time
  fails : Bool

/-- An operation: its checks, then its write, unless the database fails it. -/
def operation {α β : Type} (env : CatalogueEnv) (check : Except ApiError β)
    (write : β → Option (α × Db)) : Except ApiError (α × Db) :=
  match check with
  | .error e => .error e
  | .ok b =>
      match (if env.fails then none else write b) with
      | none => .error queryFailed
      | some out => .ok out

theorem operation_eq_ok {α β : Type} {env : CatalogueEnv} {check : Except ApiError β}
    {write : β → Option (α × Db)} {out : α × Db} (ok : operation env check write = .ok out) :
    ∃ b, check = .ok b ∧ write b = some out := by
  unfold operation at ok
  split at ok
  · cases ok
  · rename_i b
    split at ok
    · cases ok
    · rename_i out' ran
      split at ran
      · cases ran
      · cases ok
        exact ⟨b, rfl, ran⟩

def CategoryRow.toFields (category : CategoryRow) : Fields :=
  [("id", .str category.id), ("name", .str category.name), ("slug", .str category.slug)]

/-- `createRestaurant` up to the save. -/
def restaurantToCreate (db : Db) (owner : UserRow) (dto : Fields) : Except ApiError Fields :=
  if owner.role ≠ .owner then .error (.unauthorized "Only owners can create restaurants")
  else
    let categoryId := (dto.readString "categoryId").getD ""
    match db.categories.find? categoryId with
    | none => .error (.notFound ("don't exist " ++ categoryId))
    | some category =>
        .ok (dto ++ [("ownerId", .str owner.id), ("category", .obj category.toFields)])

def createRestaurant (db : Db) (owner : UserRow) (dto : Fields) (env : CatalogueEnv) :
    Except ApiError (RestaurantRow × Db) :=
  operation env (restaurantToCreate db owner dto) (saveRestaurant db env.generated)

/-- `updateRestaurant` up to the save. -/
def restaurantToUpdate (db : Db) (owner : UserRow) (restaurantId : String) (dto : Fields) :
    Except ApiError Fields :=
  match db.restaurant? restaurantId with
  | none => .error (.notFound ("don't exist " ++ restaurantId))
  | some restaurant =>
      if restaurant.ownerId ≠ owner.id then
        .error (.forbidden "You are not the owner of this restaurant")
      else
        let categoryId := (dto.readString "categoryId").getD ""
        if categoryId ≠ "" ∧ db.categories.find? categoryId = none then
          .error (.notFound ("don't exist " ++ categoryId))
        else .ok (restaurantOf (restaurant.toFields ++ dto))

def updateRestaurant (db : Db) (owner : UserRow) (restaurantId : String) (dto : Fields)
    (env : CatalogueEnv) : Except ApiError (RestaurantRow × Db) :=
  operation env (restaurantToUpdate db owner restaurantId dto) (saveRestaurant db env.generated)

/-- `createDish` up to the save. -/
def dishToCreate (db : Db) (owner : UserRow) (restaurantId : String) (dto : Fields) :
    Except ApiError Fields :=
  match db.restaurant? restaurantId with
  | none => .error (.notFound ("don't exist " ++ restaurantId))
  | some restaurant =>
      if restaurant.ownerId ≠ owner.id then
        .error (.forbidden "You are not the owner of this restaurant")
      else .ok (dto ++ [("restaurantId", .str restaurantId)])

def createDish (db : Db) (owner : UserRow) (restaurantId : String) (dto : Fields)
    (env : CatalogueEnv) : Except ApiError (DishRow × Db) :=
  operation env (dishToCreate db owner restaurantId dto) (saveDish db env.generated)

/-- A dish that was found, with its restaurant, which the caller must own; a
soft-deleted restaurant loads as absent. -/
def ownDish (db : Db) (owner : UserRow) (refusal : String) (found : Option DishRow) :
    Except ApiError (DishRow × RestaurantRow) :=
  match found with
  | none => .error (.notFound "Not found")
  | some dish =>
      match db.restaurant? dish.restaurantId with
      | none => .error (.internal "Cannot read properties of null (reading 'ownerId')")
      | some restaurant =>
          if restaurant.ownerId ≠ owner.id then .error (.forbidden refusal)
          else .ok (dish, restaurant)

/-- `updateDish` up to the save. -/
def dishToUpdate (db : Db) (owner : UserRow) (restaurantId dishId : String) (dto : Fields) :
    Except ApiError Fields :=
  let found := (db.dish? dishId).filter fun dish => dish.restaurantId = restaurantId
  match ownDish db owner "You cannot update this dish" found with
  | .error e => .error e
  | .ok (dish, restaurant) =>
      .ok (dish.toFields ++ [("restaurant", .obj restaurant.toFields)] ++ dto)

def updateDish (db : Db) (owner : UserRow) (restaurantId dishId : String) (dto : Fields)
    (env : CatalogueEnv) : Except ApiError (DishRow × Db) :=
  operation env (dishToUpdate db owner restaurantId dishId dto) (saveDish db env.generated)

/-- `dishRepository.softDelete`. -/
def softDeleteDish (db : Db) (now : Time) (dishId : String) : Db :=
  { db with
    dishes := db.dishes.modify dishId (fun dish => { dish with deletedAt := some (.num now) })
      fun _ same => same }

def deleteDish (db : Db) (owner : UserRow) (dishId : String) (env : CatalogueEnv) :
    Except ApiError (Unit × Db) :=
  operation env (ownDish db owner "You cannot delete this dish" (db.dish? dishId)) fun _ =>
    some ((), softDeleteDish db env.now dishId)

/-! ### Requests -/

inductive CatalogueRequest where
  | createRestaurant (body : Fields)
  | updateRestaurant (restaurantId : String) (body : Fields)
  | createDish (restaurantId : String) (body : Fields)
  | updateDish (restaurantId dishId : String) (body : Fields)
  | deleteDish (dishId : String)

/-- What a request is answered with. -/
inductive CatalogueAnswer where
  | restaurant (row : RestaurantRow)
  | dish (row : DishRow)
  | success
  deriving DecidableEq, Repr

/-- What the pipes ask of a request. -/
def CatalogueRequest.valid : CatalogueRequest → Bool
  | .createRestaurant body => validCreateRestaurant body
  | .updateRestaurant restaurantId body => isUuid restaurantId && validUpdateRestaurant body
  | .createDish restaurantId body => isUuid restaurantId && validCreateDish body
  | .updateDish restaurantId dishId body =>
      isUuid restaurantId && isUuid dishId && validUpdateDish body
  | .deleteDish dishId => isUuid dishId

/-- A request to the catalogue controllers by the user of an access token. -/
structure CatalogueCall where
  userId : String
  request : CatalogueRequest
  env : CatalogueEnv

/-- The token's user, the role guard and the pipes. -/
def admitCatalogue (db : Db) (call : CatalogueCall) : Except ApiError UserRow :=
  match db.user? call.userId with
  | none => .error (.unauthorized "User not found")
  | some user =>
      if user.role ≠ .owner then .error (.forbidden "Forbidden resource")
      else if call.request.valid then .ok user
      else .error (.badRequest "Validation failed")

/-- The handlers of the controllers. -/
def handleCatalogue (db : Db) (owner : UserRow) (env : CatalogueEnv) :
    CatalogueRequest → Except ApiError (CatalogueAnswer × Db)
  | .createRestaurant body =>
      (createRestaurant db owner body env).map fun out => (.restaurant out.1, out.2)
  | .updateRestaurant restaurantId body =>
      (updateRestaurant db owner restaurantId body env).map fun out => (.restaurant out.1, out.2)
  | .createDish restaurantId body =>
      (createDish db owner restaurantId body env).map fun out => (.dish out.1, out.2)
  | .updateDish restaurantId dishId body =>
      (updateDish db owner restaurantId dishId body env).map fun out => (.dish out.1, out.2)
  | .deleteDish dishId => (deleteDish db owner dishId env).map fun out => (.success, out.2)

/-- The catalogue controllers as a machine on the store. -/
def catalogue : Machine Db CatalogueCall (Except ApiError CatalogueAnswer) where
  step db call :=
    match admitCatalogue db call with
    | .error e => (db, .error e)
    | .ok owner =>
        match handleCatalogue db owner call.env call.request with
        | .error e => (db, .error e)
        | .ok (answer, db') => (db', .ok answer)

end CoupangEats
