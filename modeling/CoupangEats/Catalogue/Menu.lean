import CoupangEats.Base.Replay
import CoupangEats.Catalogue.Isolation

/-!
What customers read of the catalogue.

`getRestaurantById` joins a restaurant with its category and its dishes; rows that
are deleted are not joined. `Board` is what can be read, by id: the restaurants and
the dishes. Every accepted request changes the board by what its body and its
answer say (`Board.apply`): the row of the answer is put in its place, the dishes
that a restaurant's body lists are given to it, and a deleted dish is taken off.
So whoever has seen the requests and the answers knows what every customer reads
(`menus_replayed`), whatever undeclared properties the bodies bring.
-/

namespace CoupangEats

open CoupangEats.Base

/-! ### The queries -/

/-- The dishes of a restaurant that are not deleted. -/
def Db.menu (db : Db) (restaurantId : String) : List DishRow :=
  db.dishes.rows.filter fun dish => dish.deletedAt.isNone && dish.restaurantId = restaurantId

/-- A restaurant with its relations. -/
structure RestaurantView where
  row : RestaurantRow
  category : Option CategoryRow
  dishes : List DishRow
  deriving DecidableEq, Repr

def getRestaurantById (db : Db) (id : String) : Except ApiError RestaurantView :=
  match db.restaurant? id with
  | none => .error (.notFound "Not found")
  | some row => .ok ⟨row, row.categoryId.bind db.categories.find?, db.menu id⟩

/-- `findMany({ ownerId })` on the restaurants. -/
def getMyRestaurants (db : Db) (owner : UserRow) : List RestaurantRow :=
  db.restaurants.rows.filter fun row => row.deletedAt.isNone && row.ownerId = owner.id

/-! ### The board -/

/-- The restaurants and the dishes that can be read. -/
@[ext] structure Board where
  restaurants : String → Option RestaurantRow
  dishes : String → Option DishRow

def Db.board (db : Db) : Board := ⟨db.restaurant?, db.dish?⟩

/-- The dishes that a request's body gives to its restaurant. An update passes on
only a list. -/
def CatalogueRequest.listed : CatalogueRequest → List String
  | .createRestaurant body => ((body.read "dishes").bind relatedIds).getD []
  | .updateRestaurant _ body =>
      match body.read "dishes" with
      | some (.arr items) => (relatedIds (.arr items)).getD []
      | _ => []
  | _ => []

/-- What an answer says of the board. -/
def Board.apply (board : Board) (call : CatalogueCall) :
    Except ApiError CatalogueAnswer → Board
  | .error _ => board
  | .ok (.restaurant row) =>
      { restaurants :=
          Function.update board.restaurants row.id (if row.deletedAt.isNone then some row else none)
        dishes := fun id => (board.dishes id).map fun dish =>
          if dish.id ∈ call.request.listed then { dish with restaurantId := row.id } else dish }
  | .ok (.dish row) =>
      { board with
        dishes :=
          Function.update board.dishes row.id (if row.deletedAt.isNone then some row else none) }
  | .ok .success =>
      match call.request with
      | .deleteDish dishId => { board with dishes := Function.update board.dishes dishId none }
      | _ => board

/-! ### What a request does to the board -/

section Board

variable {db db' : Db} {generated : String} {e : Fields}

/-- A row that can be read, unless it is deleted. -/
theorem restaurant?_save {row : RestaurantRow}
    {restaurants : Table String RestaurantRow RestaurantRow.id}
    (saved : restaurantMapping.save db.acceptsRestaurant generated db.restaurants e =
      some (row, restaurants)) :
    { db with restaurants }.restaurant? =
      Function.update db.restaurant? row.id (if row.deletedAt.isNone then some row else none) := by
  funext id
  rw [Db.restaurant?, Mapping.find?_save saved, Function.update_apply]
  split
  · exact Option.filter_some
  · rfl

theorem dish?_save {row : DishRow} {dishes : Table String DishRow DishRow.id}
    (saved : dishMapping.save db.acceptsDish generated db.dishes e = some (row, dishes)) :
    { db with dishes }.dish? =
      Function.update db.dish? row.id (if row.deletedAt.isNone then some row else none) := by
  funext id
  rw [Db.dish?, Mapping.find?_save saved, Function.update_apply]
  split
  · exact Option.filter_some
  · rfl

/-- The dishes that are listed are given to the restaurant. -/
theorem dish?_bindDishes {restaurantId : String} {ids : List String}
    {dishes : Table String DishRow DishRow.id}
    (bound : bindDishes restaurantId ids db.dishes = some dishes) (id : String) :
    { db with dishes }.dish? id = (db.dish? id).map fun dish =>
      if dish.id ∈ ids then { dish with restaurantId } else dish := by
  unfold bindDishes at bound
  split_ifs at bound
  cases bound
  rw [Db.dish?, Table.find?_mapRows, Db.dish?]
  cases db.dishes.find? id with
  | none => rfl
  | some dish =>
      have kept : (if dish.id ∈ ids then { dish with restaurantId } else dish).deletedAt =
          dish.deletedAt := by
        split <;> rfl
      rw [Option.map_some, Option.filter_some, kept, Option.filter_some]
      split <;> rfl

/-- Saving a restaurant puts its row on the board and gives the listed dishes to it. -/
theorem board_saveRestaurant {row : RestaurantRow} {ids : List String}
    (saved : saveRestaurant db generated e = some (row, db'))
    (listed : ((e.read "dishes").bind relatedIds).getD [] = ids) :
    db'.board =
      ⟨Function.update db.restaurant? row.id (if row.deletedAt.isNone then some row else none),
        fun id => (db.dish? id).map fun dish =>
          if dish.id ∈ ids then { dish with restaurantId := row.id } else dish⟩ := by
  unfold saveRestaurant at saved
  split at saved
  · cases saved
  · rename_i row' restaurants stored
    split at saved
    · rename_i unlisted
      cases saved
      rw [unlisted] at listed
      subst listed
      refine Board.ext (restaurant?_save stored) (funext fun id => ?_)
      simp only [Option.bind_none, Option.getD_none, List.not_mem_nil, if_false]
      exact Option.map_id'.symm
    · rename_i items lists
      split at saved
      · cases saved
      · rename_i ids' read
        obtain ⟨dishes, bound, same⟩ := Option.map_eq_some_iff.mp saved
        cases same
        rw [lists, Option.bind_some, read, Option.getD_some] at listed
        subst listed
        exact Board.ext (restaurant?_save stored) (funext fun id => dish?_bindDishes bound id)

theorem board_saveDish {row : DishRow} (saved : saveDish db generated e = some (row, db')) :
    db'.board =
      ⟨db.restaurant?,
        Function.update db.dish? row.id (if row.deletedAt.isNone then some row else none)⟩ := by
  obtain ⟨⟨row', dishes⟩, stored, same⟩ := Option.map_eq_some_iff.mp saved
  cases same
  exact Board.ext rfl (dish?_save stored)

/-- A deleted dish is taken off the board. -/
theorem board_softDeleteDish (now : Time) (dishId : String) :
    (softDeleteDish db now dishId).board =
      ⟨db.restaurant?, Function.update db.dish? dishId none⟩ := by
  refine Board.ext rfl (funext fun id => ?_)
  simp only [Db.board, softDeleteDish, Db.dish?, Table.find?_modify, Function.update_apply]
  split
  · cases db.dishes.find? dishId <;> rfl
  · rfl

/-- The list of dishes that a saved restaurant brings is the one of the body. -/
theorem listed_of_save {owner : UserRow} {request : CatalogueRequest}
    (saves : request.restaurantToSave db owner = .ok e) :
    ((e.read "dishes").bind relatedIds).getD [] = request.listed := by
  cases restaurantToSave_cases saves with
  | create => simp [CatalogueRequest.listed, Fields.read_append]
  | @update restaurantId body restaurant _ _ =>
      have read : (restaurant.toFields ++ body).read "dishes" = body.read "dishes" := by
        rw [Fields.read_append, restaurant.read_toFields_dishes, Option.or_none]
      have gone : Fields.read ((restaurant.toFields ++ body).filter fun entry =>
          entry.1 ≠ "dishes") "dishes" = none := by
        rw [Fields.read_without, if_pos rfl]
      simp only [restaurantOf, read, CatalogueRequest.listed]
      cases lists : body.read "dishes" with
      | none => simp only [gone, Option.bind_none, Option.getD_none]
      | some value =>
          cases value with
          | arr items => simp only [read, lists, Option.bind_some]
          | null | bool | num | str | obj =>
              simp only [gone, Option.bind_none, Option.getD_none]

end Board

/-- A request changes the board as its body and its answer say. -/
theorem catalogue_tracks {e : Event Db CatalogueCall (Except ApiError CatalogueAnswer)}
    (step : catalogue.step e.before e.input = (e.after, e.output)) :
    Tracks Db.board Board.apply e := by
  obtain ⟨db, ⟨userId, request, env⟩, output, db'⟩ := e
  simp only [catalogue] at step
  unfold Tracks
  split at step
  · cases step
    rfl
  · rename_i owner _
    split at step
    · cases step
      rfl
    · rename_i answer after handled
      cases step
      cases request with
      | createRestaurant body =>
          obtain ⟨⟨row, _⟩, done, same⟩ := map_eq_ok handled
          obtain ⟨entity, checked, saved⟩ := operation_eq_ok done
          cases same
          exact board_saveRestaurant saved (listed_of_save checked)
      | updateRestaurant restaurantId body =>
          obtain ⟨⟨row, _⟩, done, same⟩ := map_eq_ok handled
          obtain ⟨entity, checked, saved⟩ := operation_eq_ok done
          cases same
          exact board_saveRestaurant saved (listed_of_save checked)
      | createDish restaurantId body =>
          obtain ⟨⟨row, _⟩, done, same⟩ := map_eq_ok handled
          obtain ⟨entity, -, saved⟩ := operation_eq_ok done
          cases same
          exact board_saveDish saved
      | updateDish restaurantId dishId body =>
          obtain ⟨⟨row, _⟩, done, same⟩ := map_eq_ok handled
          obtain ⟨entity, -, saved⟩ := operation_eq_ok done
          cases same
          exact board_saveDish saved
      | deleteDish dishId =>
          obtain ⟨_, done, same⟩ := map_eq_ok handled
          obtain ⟨_, -, deleted⟩ := operation_eq_ok done
          cases same
          cases deleted
          exact board_softDeleteDish env.now dishId

/-! ### Runs -/

/-- What a query reads of the board. -/
structure ReadsBoard (board : Board) (db : Db) : Prop where
  found : ∀ id view, getRestaurantById db id = .ok view →
    board.restaurants id = some view.row ∧ view.dishes.Nodup ∧
      ∀ dish, dish ∈ view.dishes ↔ board.dishes dish.id = some dish ∧ dish.restaurantId = id
  missing : ∀ id e, getRestaurantById db id = .error e → board.restaurants id = none
  own : ∀ owner row, row ∈ getMyRestaurants db owner ↔
    board.restaurants row.id = some row ∧ row.ownerId = owner.id

theorem mem_menu {db : Db} {restaurantId : String} {dish : DishRow} :
    dish ∈ db.menu restaurantId ↔
      db.board.dishes dish.id = some dish ∧ dish.restaurantId = restaurantId := by
  simp only [Db.menu, List.mem_filter, Bool.and_eq_true, Option.isNone_iff_eq_none,
    decide_eq_true_eq, Db.board, Db.dish?_eq_some, Table.find?_eq_some_iff]
  tauto

/-- The queries read the board of the store. -/
theorem readsBoard (db : Db) : ReadsBoard db.board db where
  found id view read := by
    unfold getRestaurantById at read
    split at read
    · cases read
    · rename_i row found
      cases read
      exact ⟨found, db.dishes.unique.of_map.filter _, fun dish => mem_menu⟩
  missing id e read := by
    unfold getRestaurantById at read
    split at read
    · rename_i missing
      exact missing
    · cases read
  own owner row := by
    simp only [getMyRestaurants, List.mem_filter, Bool.and_eq_true, Option.isNone_iff_eq_none,
      decide_eq_true_eq, Db.board, Db.restaurant?_eq_some, Table.find?_eq_some_iff]
    tauto

end CoupangEats
