import CoupangEats.Base.Schema

/-!
The migration of the initial schema.

`up` creates the tables of the entities and then the foreign keys between them, `down`
takes them away. On any schema, `up` succeeds exactly when its names are free; it then
adds the initial schema to it, and `down` takes just that away again
(`migration_round_trip`).
-/

namespace CoupangEats

open CoupangEats.Base

namespace InitialSchema

/-! ### The tables -/

/-- A `varchar(255)`. -/
def text (name : String) (nullable : Bool) : Column := ⟨name, .varchar 255, nullable⟩

/-- The table of an entity: every table begins with these columns, and `id` is its primary
key. -/
def entityTable (name : String) (columns : List Column) (uniques : List UniqueIndex) : TableDef :=
  ⟨name,
    [⟨"created_at", .timestamp 6, false⟩, ⟨"updated_at", .timestamp 6, false⟩,
      ⟨"deleted_at", .timestamp 6, true⟩, text "id" false] ++ columns,
    uniques, "id"⟩

def category : TableDef :=
  entityTable "category" [text "name" false, text "cover_img" true, text "slug" false]
    [⟨"IDX_23c05c292c439d77b0de816b50", "name"⟩, ⟨"IDX_cb73208f151aa71cdd78f662d7", "slug"⟩]

def dish : TableDef :=
  entityTable "dish"
    [text "name" false, ⟨"price", .int, false⟩, text "photo" true, text "description" false,
      ⟨"options", .json, true⟩, text "restaurant_id" false] []

def restaurant : TableDef :=
  entityTable "restaurant"
    [text "name" false, text "cover_img" false, text "address" false,
      ⟨"delivery_fee", .int, false⟩, ⟨"minimum_price", .int, false⟩,
      ⟨"is_promoted", .tinyint, false⟩, ⟨"promoted_until", .timestamp 0, true⟩,
      text "owner_id" false, text "category_id" true] []

def orderItem : TableDef :=
  entityTable "order_item"
    [text "dish_name" true, ⟨"options", .json, true⟩, text "order_id" true,
      ⟨"dish_id", .varchar 36, true⟩] []

def order : TableDef :=
  entityTable "order"
    [⟨"total", .int, true⟩, ⟨"totalCount", .int, true⟩,
      ⟨"status", .enum ["Pending", "Cooking", "Cooked", "PickedUp", "Delivered"], false⟩,
      text "customer_id" true, text "driver_id" true, text "restaurant_id" true] []

def user : TableDef :=
  entityTable "user"
    [text "email" false, text "password" false, text "name" false,
      ⟨"role", .enum ["Client", "Owner", "Delivery"], false⟩, ⟨"verified", .tinyint, false⟩]
    [⟨"IDX_e12875dfb3b1d92d7d7c5377e2", "email"⟩]

def reviews : TableDef :=
  entityTable "reviews"
    [⟨"score", .int, false⟩, text "review_text" false, ⟨"review_img", .json, true⟩,
      text "client_id" true, text "restaurant_id" true, text "order_id" true]
    [⟨"REL_e4b0ed40bdd0f318108612c285", "order_id"⟩]

def payment : TableDef :=
  entityTable "payment"
    [text "transaction_id" false, text "user_id" false, text "restaurant_id" false,
      text "order_id" false]
    [⟨"REL_f5221735ace059250daac9d980", "order_id"⟩]

/-! ### The foreign keys -/

def foreignKeys : List ForeignKey :=
  [⟨"FK_54a6dff62586657498ee29f83ce", "dish", "restaurant_id", "restaurant", "id", .cascade⟩,
    ⟨"FK_fe7a22ecf454b7168b5a37fbdce", "restaurant", "owner_id", "user", "id", .cascade⟩,
    ⟨"FK_848ac5e4e3e511560d07e36a257", "restaurant", "category_id", "category", "id", .setNull⟩,
    ⟨"FK_1c8211d2f1e3a0e3548b1d8af1c", "order_item", "dish_id", "dish", "id", .setNull⟩,
    ⟨"FK_e9674a6053adbaa1057848cddfa", "order_item", "order_id", "order", "id", .cascade⟩,
    ⟨"FK_cd7812c96209c5bdd48a6b858b0", "order", "customer_id", "user", "id", .setNull⟩,
    ⟨"FK_71e6299877e37f03f2a00527fff", "order", "driver_id", "user", "id", .setNull⟩,
    ⟨"FK_3edfcab660a53a1ac59e0e51911", "order", "restaurant_id", "restaurant", "id", .setNull⟩,
    ⟨"FK_d4e7e923e6bb78a8f0add754493", "reviews", "client_id", "user", "id", .cascade⟩,
    ⟨"FK_2269110d10df8d494b99e1381d2", "reviews", "restaurant_id", "restaurant", "id", .cascade⟩,
    ⟨"FK_e4b0ed40bdd0f318108612c2851", "reviews", "order_id", "order", "id", .setNull⟩,
    ⟨"FK_c66c60a17b56ec882fcd8ec770b", "payment", "user_id", "user", "id", .noAction⟩,
    ⟨"FK_ba8f7f44c7d060dc89c5118860c", "payment", "restaurant_id", "restaurant", "id", .noAction⟩,
    ⟨"FK_f5221735ace059250daac9d9803", "payment", "order_id", "order", "id", .noAction⟩]

/-! ### The scripts -/

def up : List Addition :=
  [category, dish, restaurant, orderItem, order, user, reviews, payment].map .createTable ++
    foreignKeys.map .addForeignKey

def down : List Removal :=
  [.dropForeignKey "payment" "FK_f5221735ace059250daac9d9803",
    .dropForeignKey "payment" "FK_ba8f7f44c7d060dc89c5118860c",
    .dropForeignKey "payment" "FK_c66c60a17b56ec882fcd8ec770b",
    .dropForeignKey "reviews" "FK_e4b0ed40bdd0f318108612c2851",
    .dropForeignKey "reviews" "FK_2269110d10df8d494b99e1381d2",
    .dropForeignKey "reviews" "FK_d4e7e923e6bb78a8f0add754493",
    .dropForeignKey "order" "FK_3edfcab660a53a1ac59e0e51911",
    .dropForeignKey "order" "FK_71e6299877e37f03f2a00527fff",
    .dropForeignKey "order" "FK_cd7812c96209c5bdd48a6b858b0",
    .dropForeignKey "order_item" "FK_e9674a6053adbaa1057848cddfa",
    .dropForeignKey "order_item" "FK_1c8211d2f1e3a0e3548b1d8af1c",
    .dropForeignKey "restaurant" "FK_848ac5e4e3e511560d07e36a257",
    .dropForeignKey "restaurant" "FK_fe7a22ecf454b7168b5a37fbdce",
    .dropForeignKey "dish" "FK_54a6dff62586657498ee29f83ce",
    .dropIndex "payment" "REL_f5221735ace059250daac9d980", .dropTable "payment",
    .dropIndex "reviews" "REL_e4b0ed40bdd0f318108612c285", .dropTable "reviews",
    .dropIndex "user" "IDX_e12875dfb3b1d92d7d7c5377e2", .dropTable "user",
    .dropTable "order", .dropTable "order_item", .dropTable "restaurant", .dropTable "dish",
    .dropIndex "category" "IDX_cb73208f151aa71cdd78f662d7",
    .dropIndex "category" "IDX_23c05c292c439d77b0de816b50", .dropTable "category"]

/-- What `up` makes of nothing. -/
def initial : Schema where
  tables := [category, dish, restaurant, orderItem, order, user, reviews, payment]
  foreignKeys := foreignKeys
  closed := by decide +kernel

theorem up_empty : Schema.empty.addAll up = some initial := by
  decide +kernel

theorem down_eq : down = undo up := rfl

end InitialSchema

/-- On any schema, `up` fails exactly when one of its names is taken; else it adds the initial
schema, and `down` takes away just that. -/
theorem migration_round_trip (base : Schema) :
    (base.addAll InitialSchema.up = none ∧
        ∃ addition ∈ InitialSchema.up, ¬ base.Free addition) ∨
      (∀ addition ∈ InitialSchema.up, base.Free addition) ∧
        base.addAll InitialSchema.up = some (base.append InitialSchema.initial) ∧
        (base.append InitialSchema.initial).removeAll InitialSchema.down = some base := by
  by_cases free : ∀ addition ∈ InitialSchema.up, base.Free addition
  · have apart : base.Apart Schema.empty := fun table mem => absurd mem List.not_mem_nil
    have added := Schema.addAll_append apart free InitialSchema.up_empty
    rw [Schema.empty_append] at added
    refine .inr ⟨free, added, ?_⟩
    rw [InitialSchema.down_eq]
    exact Schema.removeAll_undo added
  · refine .inl ⟨?_, by simpa using free⟩
    cases added : base.addAll InitialSchema.up with
    | none => rfl
    | some after => exact absurd (Schema.addAll_free added) free

end CoupangEats
