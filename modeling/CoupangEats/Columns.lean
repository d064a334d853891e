import CoupangEats.Entity

/-!
How plain objects reach the columns of the entities.

An entity that `plainToInstance` or `create` makes of a request body carries
whatever properties the body has. Saving it reads the property of every column:
a missing one leaves the column as it is (in a new row: at its default), `null`
clears it, and a value is converted to the column's type or refused. A
many-to-one relation and its foreign key column share one column of the table;
the relation's object decides it when there is one.

The `write` functions say this for the entities that requests save as a whole,
and the `accepts` functions say which rows the constraints of the schema let
through.
-/

namespace CoupangEats

open CoupangEats.Base

/-! ### Column types -/

/-- A `varchar` column that is not nullable. -/
def textColumn : Json → Option String
  | .str value => some value
  | _ => none

/-- A `varchar(255)` column that takes free text, so that its length matters. -/
def freeTextColumn : Json → Option String
  | .str value => if value.length ≤ 255 then some value else none
  | _ => none

/-- A nullable `varchar` column. -/
def nullableTextColumn : Json → Option (Option String)
  | .null => some none
  | .str value => some (some value)
  | _ => none

/-- An `int` column that is not nullable. -/
def intColumn : Json → Option IntColumn
  | .num value => IntColumn.ofNumber value
  | _ => none

/-- A boolean column that is not nullable, which is a `tinyint` to the database. -/
def flagColumn : Json → Option Bool
  | .bool value => some value
  | .num value =>
      let stored := roundHalfAway value
      if -128 ≤ stored ∧ stored ≤ 127 then some (stored ≠ 0) else none
  | _ => none

/-- A nullable `timestamp` column; dates are not interpreted. -/
def timestampColumn : Json → Option (Option Json)
  | .null => some none
  | .str value => some (some (.str value))
  | .num value => some (some (.num value))
  | _ => none

/-- The role column. -/
def roleColumn : Json → Option Role
  | .str value => Role.parse value
  | _ => none

/-- The value of one column: of the property `name` if the object has it, else
the one there is. -/
def column {α : Type} (e : Fields) (name : String) (convert : Json → Option α)
    (present : Option α) : Option α :=
  match e.read name with
  | none => present
  | some value => convert value

/-- The value of a foreign key column: of the relation's object if there is one,
else of the property `name`. -/
def reference {α : Type} (e : Fields) (relation name : String) (convert : Json → Option α)
    (present : Option α) : Option α :=
  match e.read relation with
  | none => column e name convert present
  | some (.obj fields) => (Fields.read fields "id").bind convert
  | some value => convert value

/-- The foreign key that the value of a relation stands for. -/
def relationKey {α : Type} (convert : Json → Option α) : Json → Option α
  | .obj fields => (Fields.read fields "id").bind convert
  | value => convert value

theorem reference_eq {α : Type} (e : Fields) (relation name : String) (convert : Json → Option α)
    (present : Option α) :
    reference e relation name convert present =
      match e.read relation with
      | none => column e name convert present
      | some value => relationKey convert value := by
  unfold reference
  cases e.read relation with
  | none => rfl
  | some value => cases value <;> rfl

/-! ### Options of a dish -/

/-- One entry of the JSON column. -/
def DishOption.ofJson : Json → Option DishOption
  | .obj fields =>
      match Fields.read fields "name", Fields.read fields "extra" with
      | some (.str name), some (.num extra) =>
          some ⟨name, extra, fields.filter fun entry => entry.1 ≠ "name" ∧ entry.1 ≠ "extra"⟩
      | _, _ => none
  | _ => none

def DishOption.toJson (o : DishOption) : Json :=
  .obj (o.rest ++ [("name", .str o.name), ("extra", .num o.extra)])

/-- The `options` column. -/
def optionsColumn : Json → Option (Option (List DishOption))
  | .null => some none
  | .arr items => (items.mapM DishOption.ofJson).map some
  | _ => none

/-- An entry of a list of texts. -/
def textOfJson : Json → Option String
  | .str value => some value
  | _ => none

/-- The nullable JSON column of a list of texts. -/
def textsColumn : Json → Option (Option (List String))
  | .null => some none
  | .arr items => (items.mapM textOfJson).map some
  | _ => none

/-! ### Rows as plain objects -/

/-- A nullable value. -/
def orNull {α : Type} (toJson : α → Json) (value : Option α) : Json :=
  (value.map toJson).getD .null

def Role.text : Role → String
  | .client => "Client"
  | .owner => "Owner"
  | .delivery => "Delivery"

/-- An account as a `find` method loads it. -/
def UserRow.toFields (u : UserRow) : Fields :=
  [("id", .str u.id), ("email", .str u.email), ("password", .str u.password),
    ("name", .str u.name), ("role", .str u.role.text), ("verified", .bool u.verified),
    ("deletedAt", u.deletedAt.getD .null)]

/-- A restaurant as `findByIdOrThrow` loads it. -/
def RestaurantRow.toFields (r : RestaurantRow) : Fields :=
  [("id", .str r.id), ("name", .str r.name), ("coverImg", .str r.coverImg),
    ("address", .str r.address), ("deliveryFee", .num r.deliveryFee.val),
    ("minimumPrice", .num r.minimumPrice.val), ("isPromoted", .bool r.isPromoted),
    ("promotedUntil", r.promotedUntil.getD .null), ("ownerId", .str r.ownerId),
    ("categoryId", orNull .str r.categoryId), ("deletedAt", r.deletedAt.getD .null)]

/-- A dish as a `find` method loads it. -/
def DishRow.toFields (d : DishRow) : Fields :=
  [("id", .str d.id), ("name", .str d.name), ("price", .num d.price.val),
    ("photo", orNull .str d.photo), ("description", .str d.description),
    ("options", orNull (fun options => .arr (options.map DishOption.toJson)) d.options),
    ("restaurantId", .str d.restaurantId), ("deletedAt", d.deletedAt.getD .null)]

/-- A review as a `find` method loads it. -/
def ReviewRow.toFields (r : ReviewRow) : Fields :=
  [("id", .str r.id), ("score", .num r.score.val), ("reviewText", .str r.reviewText),
    ("reviewImg", orNull (fun images => .arr (images.map .str)) r.reviewImg),
    ("clientId", orNull .str r.clientId), ("restaurantId", orNull .str r.restaurantId),
    ("orderId", orNull .str r.orderId), ("deletedAt", r.deletedAt.getD .null)]

@[simp] theorem RestaurantRow.read_toFields_id (r : RestaurantRow) :
    r.toFields.read "id" = some (.str r.id) := by
  simp [toFields]

@[simp] theorem RestaurantRow.read_toFields_dishes (r : RestaurantRow) :
    r.toFields.read "dishes" = none := by
  simp [toFields]

@[simp] theorem DishRow.read_toFields_id (d : DishRow) :
    d.toFields.read "id" = some (.str d.id) := by
  simp [toFields]

/-! ### Writing rows -/

def UserRow.write (id : String) (base : Option UserRow) (e : Fields) : Option UserRow := do
  let email ← column e "email" textColumn (base.map UserRow.email)
  let password ← column e "password" textColumn (base.map UserRow.password)
  let name ← column e "name" textColumn (base.map UserRow.name)
  let role ← column e "role" roleColumn (base.map UserRow.role)
  let verified ← column e "verified" flagColumn (some ((base.map UserRow.verified).getD false))
  let deletedAt ← column e "deletedAt" timestampColumn (some (base.bind UserRow.deletedAt))
  return { id, email, password, name, role, verified, deletedAt }

def RestaurantRow.write (id : String) (base : Option RestaurantRow) (e : Fields) :
    Option RestaurantRow := do
  let name ← column e "name" textColumn (base.map RestaurantRow.name)
  let coverImg ← column e "coverImg" textColumn (base.map RestaurantRow.coverImg)
  let address ← column e "address" textColumn (base.map RestaurantRow.address)
  let deliveryFee ← column e "deliveryFee" intColumn (base.map RestaurantRow.deliveryFee)
  let minimumPrice ← column e "minimumPrice" intColumn (base.map RestaurantRow.minimumPrice)
  let isPromoted ← column e "isPromoted" flagColumn
    (some ((base.map RestaurantRow.isPromoted).getD false))
  let promotedUntil ← column e "promotedUntil" timestampColumn
    (some (base.bind RestaurantRow.promotedUntil))
  let ownerId ← reference e "owner" "ownerId" textColumn (base.map RestaurantRow.ownerId)
  let categoryId ← reference e "category" "categoryId" nullableTextColumn
    (some (base.bind RestaurantRow.categoryId))
  let deletedAt ← column e "deletedAt" timestampColumn (some (base.bind RestaurantRow.deletedAt))
  return { id, name, coverImg, address, deliveryFee, minimumPrice, isPromoted, promotedUntil,
           ownerId, categoryId, deletedAt }

def DishRow.write (id : String) (base : Option DishRow) (e : Fields) : Option DishRow := do
  let name ← column e "name" textColumn (base.map DishRow.name)
  let price ← column e "price" intColumn (base.map DishRow.price)
  let photo ← column e "photo" nullableTextColumn (some (base.bind DishRow.photo))
  let description ← column e "description" textColumn (base.map DishRow.description)
  let options ← column e "options" optionsColumn (some (base.bind DishRow.options))
  let restaurantId ← reference e "restaurant" "restaurantId" textColumn
    (base.map DishRow.restaurantId)
  let deletedAt ← column e "deletedAt" timestampColumn (some (base.bind DishRow.deletedAt))
  return { id, name, price, photo, description, options, restaurantId, deletedAt }

def PaymentRow.write (id : String) (base : Option PaymentRow) (e : Fields) : Option PaymentRow := do
  let transactionId ← column e "transactionId" textColumn (base.map PaymentRow.transactionId)
  let userId ← reference e "user" "userId" textColumn (base.map PaymentRow.userId)
  let restaurantId ← reference e "restaurant" "restaurantId" textColumn
    (base.map PaymentRow.restaurantId)
  let orderId ← reference e "order" "orderId" textColumn (base.map PaymentRow.orderId)
  let deletedAt ← column e "deletedAt" timestampColumn (some (base.bind PaymentRow.deletedAt))
  return { id, transactionId, userId, restaurantId, orderId, deletedAt }

def ReviewRow.write (id : String) (base : Option ReviewRow) (e : Fields) : Option ReviewRow := do
  let score ← column e "score" intColumn (base.map ReviewRow.score)
  let reviewText ← column e "reviewText" freeTextColumn (base.map ReviewRow.reviewText)
  let reviewImg ← column e "reviewImg" textsColumn (some (base.bind ReviewRow.reviewImg))
  let clientId ← reference e "client" "clientId" nullableTextColumn
    (some (base.bind ReviewRow.clientId))
  let restaurantId ← reference e "restaurant" "restaurantId" nullableTextColumn
    (some (base.bind ReviewRow.restaurantId))
  let orderId ← reference e "order" "orderId" nullableTextColumn
    (some (base.bind ReviewRow.orderId))
  let deletedAt ← column e "deletedAt" timestampColumn (some (base.bind ReviewRow.deletedAt))
  return { id, score, reviewText, reviewImg, clientId, restaurantId, orderId, deletedAt }

def userMapping : Mapping UserRow UserRow.id :=
  .ofWrite UserRow.write fun written => by
    simp only [UserRow.write, Option.bind_eq_bind, Option.bind_eq_some_iff, Option.pure_def,
      Option.some.injEq] at written
    obtain ⟨_, _, _, _, _, _, _, _, _, _, _, _, rfl⟩ := written
    rfl

def restaurantMapping : Mapping RestaurantRow RestaurantRow.id :=
  .ofWrite RestaurantRow.write fun written => by
    simp only [RestaurantRow.write, Option.bind_eq_bind, Option.bind_eq_some_iff, Option.pure_def,
      Option.some.injEq] at written
    obtain ⟨_, _, _, _, _, _, _, _, _, _, _, _, _, _, _, _, _, _, _, _, rfl⟩ := written
    rfl

def dishMapping : Mapping DishRow DishRow.id :=
  .ofWrite DishRow.write fun written => by
    simp only [DishRow.write, Option.bind_eq_bind, Option.bind_eq_some_iff, Option.pure_def,
      Option.some.injEq] at written
    obtain ⟨_, _, _, _, _, _, _, _, _, _, _, _, _, _, rfl⟩ := written
    rfl

def paymentMapping : Mapping PaymentRow PaymentRow.id :=
  .ofWrite PaymentRow.write fun written => by
    simp only [PaymentRow.write, Option.bind_eq_bind, Option.bind_eq_some_iff, Option.pure_def,
      Option.some.injEq] at written
    obtain ⟨_, _, _, _, _, _, _, _, _, _, rfl⟩ := written
    rfl

def reviewMapping : Mapping ReviewRow ReviewRow.id :=
  .ofWrite ReviewRow.write fun written => by
    simp only [ReviewRow.write, Option.bind_eq_bind, Option.bind_eq_some_iff, Option.pure_def,
      Option.some.injEq] at written
    obtain ⟨_, _, _, _, _, _, _, _, _, _, _, _, _, _, rfl⟩ := written
    rfl

/-! ### Constraints -/

namespace Db

/-- The e-mail is unique, soft-deleted accounts included. -/
def acceptsUser (db : Db) (row : UserRow) : Bool :=
  db.users.rows.all fun other => other.id = row.id || other.email ≠ row.email

def acceptsRestaurant (db : Db) (row : RestaurantRow) : Bool :=
  (db.users.find? row.ownerId).isSome &&
    row.categoryId.all fun categoryId => (db.categories.find? categoryId).isSome

def acceptsDish (db : Db) (row : DishRow) : Bool := (db.restaurants.find? row.restaurantId).isSome

/-- The references exist, and an order has one payment. -/
def acceptsPayment (db : Db) (row : PaymentRow) : Bool :=
  (db.users.find? row.userId).isSome && (db.restaurants.find? row.restaurantId).isSome &&
    (db.orders.find? row.orderId).isSome &&
    db.payments.rows.all fun other => other.id = row.id || other.orderId ≠ row.orderId

/-- The references that are set exist, and an order has one review, soft-deleted
ones included. -/
def acceptsReview (db : Db) (row : ReviewRow) : Bool :=
  (row.clientId.all fun clientId => (db.users.find? clientId).isSome) &&
    (row.restaurantId.all fun restaurantId => (db.restaurants.find? restaurantId).isSome) &&
    (row.orderId.all fun orderId => (db.orders.find? orderId).isSome &&
      db.reviews.rows.all fun other => other.id = row.id || other.orderId ≠ some orderId)

end Db

end CoupangEats
