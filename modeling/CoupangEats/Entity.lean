import CoupangEats.Base.Save

/-!
The entities of the service and its store.

Rows carry the columns of the schema that some operation reads or writes; the
bookkeeping columns `created_at` (except for orders) and `updated_at` are left
out. Soft deletion is kept: a row with a `deleted_at` value is skipped by the
`find` methods and still occupies its primary key and its unique indexes.
`Db` is the store; the lookups at the end are the `find` methods of the
repositories.
-/

namespace CoupangEats

open CoupangEats.Base

/-- Milliseconds on the server's clock. -/
abbrev Time := Int

/-- What a failing request is answered with. Everything that is not an HTTP
exception of the service (a failed query, a `TypeError`) is answered as a 500. -/
inductive ApiError where
  | badRequest (message : String)
  | unauthorized (message : String)
  | forbidden (message : String)
  | notFound (message : String)
  | conflict (message : String)
  | internal (message : String)
  deriving DecidableEq, Repr

/-- The database refused a statement: a constraint, or a value a column cannot
take. -/
def queryFailed : ApiError := .internal "QueryFailedError"

theorem map_eq_ok {ε α β : Type} {x : Except ε α} {f : α → β} {b : β} (ok : x.map f = .ok b) :
    ∃ a, x = .ok a ∧ f a = b := by
  cases x with
  | error e => cases ok
  | ok a => exact ⟨a, rfl, Except.ok.inj ok⟩

/-- Which steps of a transactional call fail for reasons outside the service. -/
structure Faults where
  save : Bool
  commit : Bool
  deriving DecidableEq, Repr

/-- Nothing fails from outside. -/
def Faults.none : Faults := ⟨false, false⟩

inductive Role where
  | client
  | owner
  | delivery
  deriving DecidableEq, Repr

/-- The spellings of the roles. -/
def Role.parse : String → Option Role
  | "Client" => some .client
  | "Owner" => some .owner
  | "Delivery" => some .delivery
  | _ => none

inductive OrderStatus where
  | pending
  | cooking
  | cooked
  | pickedUp
  | delivered
  deriving DecidableEq, Repr

/-! ### Columns -/

/-- A value of a signed 32-bit `int` column. -/
structure IntColumn where
  val : Int
  inRange : -2147483648 ≤ val ∧ val ≤ 2147483647
  deriving DecidableEq, Repr

/-- A number rounded to an integer, halves away from zero. -/
def roundHalfAway (q : ℚ) : Int :=
  if 0 ≤ q then (q + 1 / 2).floor else -(-q + 1 / 2).floor

/-- What an `int` column stores of a number: rounded, or refused out of range. -/
def IntColumn.ofNumber (q : ℚ) : Option IntColumn :=
  if h : -2147483648 ≤ roundHalfAway q ∧ roundHalfAway q ≤ 2147483647 then some ⟨_, h⟩ else none

/-! ### Rows -/

structure UserRow where
  id : String
  email : String
  password : String
  name : String
  role : Role
  verified : Bool
  deletedAt : Option Json
  deriving DecidableEq, Repr

structure CategoryRow where
  id : String
  name : String
  slug : String
  deriving DecidableEq, Repr

structure RestaurantRow where
  id : String
  name : String
  coverImg : String
  address : String
  deliveryFee : IntColumn
  minimumPrice : IntColumn
  isPromoted : Bool
  promotedUntil : Option Json
  ownerId : String
  categoryId : Option String
  deletedAt : Option Json
  deriving DecidableEq, Repr

/-- One entry of a dish's JSON `options`: the validated `name` and `extra`, and
whatever else the owner sent with them (`choices`, for instance). -/
structure DishOption where
  name : String
  extra : ℚ
  rest : Fields
  deriving DecidableEq, Repr

structure DishRow where
  id : String
  name : String
  price : IntColumn
  photo : Option String
  description : String
  options : Option (List DishOption)
  restaurantId : String
  deletedAt : Option Json
  deriving DecidableEq, Repr

structure OrderRow where
  id : String
  total : Option IntColumn
  status : OrderStatus
  customerId : Option String
  driverId : Option String
  restaurantId : Option String
  createdAt : Time
  deriving DecidableEq, Repr

structure OrderItemRow where
  id : String
  dishName : Option String
  options : Option (List Json)
  orderId : Option String
  dishId : Option String
  deriving DecidableEq, Repr

structure PaymentRow where
  id : String
  transactionId : String
  userId : String
  restaurantId : String
  orderId : String
  deletedAt : Option Json
  deriving DecidableEq, Repr

structure ReviewRow where
  id : String
  score : IntColumn
  reviewText : String
  reviewImg : Option (List String)
  clientId : Option String
  restaurantId : Option String
  orderId : Option String
  deletedAt : Option Json
  deriving DecidableEq, Repr

/-! ### The store -/

structure Db where
  users : Table String UserRow UserRow.id
  categories : Table String CategoryRow CategoryRow.id
  restaurants : Table String RestaurantRow RestaurantRow.id
  dishes : Table String DishRow DishRow.id
  orders : Table String OrderRow OrderRow.id
  orderItems : Table String OrderItemRow OrderItemRow.id
  payments : Table String PaymentRow PaymentRow.id
  reviews : Table String ReviewRow ReviewRow.id
  deriving DecidableEq

/-- A restaurant with a delivery fee and nothing special. -/
def sampleRestaurant (id ownerId : String) : RestaurantRow :=
  ⟨id, id, "cover.png", "Seoul", ⟨2000, by decide⟩, ⟨0, by decide⟩, false, none, ownerId, none,
    none⟩

/-- The store after the migration: every table empty. -/
def Db.empty : Db :=
  ⟨.empty, .empty, .empty, .empty, .empty, .empty, .empty, .empty⟩

namespace Db

/-- The user of an id, unless soft-deleted. -/
def user? (db : Db) (id : String) : Option UserRow :=
  (db.users.find? id).filter fun u => u.deletedAt.isNone

/-- The restaurant of an id, unless soft-deleted. -/
def restaurant? (db : Db) (id : String) : Option RestaurantRow :=
  (db.restaurants.find? id).filter fun r => r.deletedAt.isNone

/-- The dish of an id, unless soft-deleted. -/
def dish? (db : Db) (id : String) : Option DishRow :=
  (db.dishes.find? id).filter fun d => d.deletedAt.isNone

theorem user?_eq_some {db : Db} {id : String} {user : UserRow} :
    db.user? id = some user ↔ db.users.find? id = some user ∧ user.deletedAt = none := by
  simp [user?, Option.filter_eq_some_iff]

theorem restaurant?_eq_some {db : Db} {id : String} {restaurant : RestaurantRow} :
    db.restaurant? id = some restaurant ↔
      db.restaurants.find? id = some restaurant ∧ restaurant.deletedAt = none := by
  simp [restaurant?, Option.filter_eq_some_iff]

theorem dish?_eq_some {db : Db} {id : String} {dish : DishRow} :
    db.dish? id = some dish ↔ db.dishes.find? id = some dish ∧ dish.deletedAt = none := by
  simp [dish?, Option.filter_eq_some_iff]

theorem user?_id {db : Db} {id : String} {user : UserRow} (found : db.user? id = some user) :
    user.id = id :=
  Table.key_of_find? (user?_eq_some.mp found).1

theorem restaurant?_id {db : Db} {id : String} {restaurant : RestaurantRow}
    (found : db.restaurant? id = some restaurant) : restaurant.id = id :=
  Table.key_of_find? (restaurant?_eq_some.mp found).1

/-- A user who loads is stored under the own id. -/
theorem user?_stored {db : Db} {id : String} {user : UserRow} (found : db.user? id = some user) :
    db.users.find? user.id = some user := by
  rw [user?_id found]
  exact (user?_eq_some.mp found).1

theorem restaurant?_stored {db : Db} {id : String} {restaurant : RestaurantRow}
    (found : db.restaurant? id = some restaurant) :
    db.restaurants.find? restaurant.id = some restaurant := by
  rw [restaurant?_id found]
  exact (restaurant?_eq_some.mp found).1

theorem user?_mem {db : Db} {id : String} {user : UserRow} (found : db.user? id = some user) :
    user ∈ db.users.rows :=
  Table.mem_of_find? (user?_eq_some.mp found).1

theorem restaurant?_mem {db : Db} {id : String} {restaurant : RestaurantRow}
    (found : db.restaurant? id = some restaurant) : restaurant ∈ db.restaurants.rows :=
  Table.mem_of_find? (restaurant?_eq_some.mp found).1

end Db

end CoupangEats
