import CoupangEats.Catalogue.Service
import Mathlib.Algebra.Order.Ring.Rat
import Mathlib.Tactic.Linarith

/-!
The review service.

`createReview` checks the order, its restaurant and its status, looks for a review
of the order among those that are not deleted, and saves an entity made of the
declared properties of the body. `updateReview` and `deleteReview` look up the
review that the URL names and check that the caller is its author. What an update
saves is the review that was found with the properties of the whole body written
over it; the save goes by the object's `id`. A deletion only sets the time of
deletion, and the row stays in the unique index on the order.
-/

namespace CoupangEats

open CoupangEats.Base

/-! ### Validation -/

/-- `IsUUID`: of one of the eight versions and the standard variant, or the nil
or the max id. -/
def isStrictUuid (value : String) : Bool :=
  let chars := value.toList.map Char.toLower
  isUuid value &&
    (((chars[14]?).any fun c => '1' ≤ c && c ≤ '8') &&
        ((chars[19]?).any ['8', '9', 'a', 'b'].contains) ||
      chars.all (['0', '-'].contains ·) || chars.all (['f', '-'].contains ·))

def isId : Json → Bool
  | .str value => isStrictUuid value
  | _ => false

/-- `IsInt` with `Min(1)` and `Max(5)`. -/
def isScore : Json → Bool
  | .num value => value.den = 1 && 1 ≤ value && value ≤ 5
  | _ => false

/-- `IsString` with `IsNotEmpty`. -/
def isText : Json → Bool
  | .str value => value ≠ ""
  | _ => false

/-- `IsArray` with `IsString` for each of its entries. -/
def isTexts : Json → Bool
  | .arr items => items.all isString
  | _ => false

def reviewRules : List (String × (Json → Bool)) := [("score", isScore), ("reviewText", isText)]

/-- `CreateReviewDto`. -/
def validCreateReview (body : Fields) : Bool :=
  ([("orderId", isId), ("restaurantId", isId)] ++ reviewRules).all (required body) &&
    optional body ("reviewImg", isTexts)

/-- `UpdateReviewDto`: what can be changed of a review, all of it optional. -/
def validUpdateReview (body : Fields) : Bool :=
  (reviewRules ++ [("reviewImg", isTexts)]).all (optional body)

/-! ### The service -/

/-- The review of an id, unless soft-deleted. -/
def Db.review? (db : Db) (id : String) : Option ReviewRow :=
  (db.reviews.find? id).filter fun review => review.deletedAt.isNone

/-- `findOneByFilters({ orderId })` on the reviews. -/
def Db.reviewOf? (db : Db) (orderId : String) : Option ReviewRow :=
  db.reviews.rows.find? fun review => review.deletedAt.isNone && review.orderId = some orderId

/-- `reviewRepository.save`. -/
def saveReview (db : Db) (generated : String) (e : Fields) : Option (ReviewRow × Db) :=
  (reviewMapping.save db.acceptsReview generated db.reviews e).map fun (row, reviews) =>
    (row, { db with reviews })

/-- `reviewRepository.softDelete`. -/
def softDeleteReview (db : Db) (now : Time) (reviewId : String) : Db :=
  { db with
    reviews := db.reviews.modify reviewId
      (fun review => { review with deletedAt := some (.num now) }) fun _ same => same }

/-- What a review takes from the body of a request. -/
def reviewProperties : List String := ["score", "reviewText", "reviewImg"]

/-- `CreateReviewDto.toEntity`. -/
def reviewEntity (dto : Fields) (client : UserRow) (restaurant : RestaurantRow)
    (order : OrderRow) : Fields :=
  (dto.filter fun entry => reviewProperties.contains entry.1) ++
    [("client", .obj [("id", .str client.id)]), ("restaurant", .obj [("id", .str restaurant.id)]),
      ("order", .obj [("id", .str order.id)]), ("orderId", .str order.id)]

/-- `createReview` up to the save. -/
def reviewToCreate (db : Db) (user : UserRow) (dto : Fields) : Except ApiError Fields :=
  let orderId := (dto.readString "orderId").getD ""
  match db.orders.find? orderId with
  | none => .error (.notFound "Not found")
  | some order =>
      if order.customerId ≠ some user.id then
        .error (.badRequest "You can only review your own orders.")
      else
        match order.restaurantId.bind db.restaurant? with
        | none => .error (.internal "Cannot read properties of null (reading 'id')")
        | some restaurant =>
            if restaurant.id ≠ (dto.readString "restaurantId").getD "" then
              .error (.badRequest "Order does not match restaurant.")
            else if order.status ≠ .delivered then
              .error (.badRequest "You can only review after delivery is complete.")
            else
              match db.reviewOf? orderId with
              | some _ => .error (.conflict "You have already reviewed this order.")
              | none => .ok (reviewEntity dto user restaurant order)

def createReview (db : Db) (user : UserRow) (dto : Fields) (env : CatalogueEnv) :
    Except ApiError (ReviewRow × Db) :=
  operation env (reviewToCreate db user dto) (saveReview db env.generated)

/-- The review of an id with its author, who must be the caller; a soft-deleted
author loads as absent. -/
def ownReview (db : Db) (user : UserRow) (refusal reviewId : String) :
    Except ApiError (ReviewRow × UserRow) :=
  match db.review? reviewId with
  | none => .error (.notFound "Not found")
  | some review =>
      match review.clientId.bind db.user? with
      | none => .error (.internal "Cannot read properties of null (reading 'id')")
      | some client =>
          if client.id ≠ user.id then .error (.forbidden refusal) else .ok (review, client)

/-- What `updateReview` writes over the review it has found. -/
def updatedReview (review : ReviewRow) (client : UserRow) (dto : Fields) : Fields :=
  review.toFields ++ [("client", .obj [("id", .str client.id)])] ++ dto

/-- `updateReview` up to the save. -/
def reviewToUpdate (db : Db) (user : UserRow) (reviewId : String) (dto : Fields) :
    Except ApiError Fields :=
  match ownReview db user "You can only update your own reviews." reviewId with
  | .error e => .error e
  | .ok (review, client) => .ok (updatedReview review client dto)

def updateReview (db : Db) (user : UserRow) (reviewId : String) (dto : Fields)
    (env : CatalogueEnv) : Except ApiError (ReviewRow × Db) :=
  operation env (reviewToUpdate db user reviewId dto) (saveReview db env.generated)

def deleteReview (db : Db) (user : UserRow) (reviewId : String) (env : CatalogueEnv) :
    Except ApiError (Unit × Db) :=
  operation env (ownReview db user "You can only delete your own reviews." reviewId) fun _ =>
    some ((), softDeleteReview db env.now reviewId)

/-! ### Requests -/

inductive ReviewRequest where
  | createReview (body : Fields)
  | updateReview (reviewId : String) (body : Fields)
  | deleteReview (reviewId : String)

/-- What a request is answered with. -/
inductive ReviewAnswer where
  | review (row : ReviewRow)
  | success
  deriving DecidableEq, Repr

/-- What the pipes ask of a request. -/
def ReviewRequest.valid : ReviewRequest → Bool
  | .createReview body => validCreateReview body
  | .updateReview reviewId body => isUuid reviewId && validUpdateReview body
  | .deleteReview reviewId => isUuid reviewId

/-- A request to the review controller by the user of an access token. -/
structure ReviewCall where
  userId : String
  request : ReviewRequest
  env : CatalogueEnv

/-- The token's user, the role guard and the pipes. -/
def admitReview (db : Db) (call : ReviewCall) : Except ApiError UserRow :=
  match db.user? call.userId with
  | none => .error (.unauthorized "User not found")
  | some user =>
      if user.role ≠ .client then .error (.forbidden "Forbidden resource")
      else if call.request.valid then .ok user
      else .error (.badRequest "Validation failed")

/-- The handlers of the controller. -/
def handleReview (db : Db) (user : UserRow) (env : CatalogueEnv) :
    ReviewRequest → Except ApiError (ReviewAnswer × Db)
  | .createReview body => (createReview db user body env).map fun out => (.review out.1, out.2)
  | .updateReview reviewId body =>
      (updateReview db user reviewId body env).map fun out => (.review out.1, out.2)
  | .deleteReview reviewId => (deleteReview db user reviewId env).map fun out => (.success, out.2)

/-- The review controller as a machine on the store. -/
def reviewService : Machine Db ReviewCall (Except ApiError ReviewAnswer) where
  step db call :=
    match admitReview db call with
    | .error e => (db, .error e)
    | .ok user =>
        match handleReview db user call.env call.request with
        | .error e => (db, .error e)
        | .ok (answer, db') => (db', .ok answer)

/-! ### What a new review is -/

section Create

variable {db : Db} {user : UserRow} {body : Fields} {order : OrderRow}
  {restaurant : RestaurantRow}

/-- The order that the body names is the caller's. -/
structure OwnOrder (db : Db) (user : UserRow) (body : Fields) (order : OrderRow) : Prop where
  found : db.orders.find? ((body.readString "orderId").getD "") = some order
  own : order.customerId = some user.id

/-- The caller may review the order: it is theirs, of the restaurant that the
body names, delivered, and without a review that is not deleted. -/
structure Reviewable (db : Db) (user : UserRow) (body : Fields) (order : OrderRow)
    (restaurant : RestaurantRow) : Prop extends OwnOrder db user body order where
  loaded : order.restaurantId.bind db.restaurant? = some restaurant
  named : restaurant.id = (body.readString "restaurantId").getD ""
  delivered : order.status = .delivered
  unreviewed : db.reviewOf? order.id = none

theorem OwnOrder.unique {order' : OrderRow} (first : OwnOrder db user body order)
    (second : OwnOrder db user body order') : order = order' := by
  have same := first.found.symm.trans second.found
  exact Option.some.inj same

theorem OwnOrder.id_eq (own : OwnOrder db user body order) :
    order.id = (body.readString "orderId").getD "" :=
  Table.key_of_find? own.found

/-- An error that the service throws, and not a failure behind it. -/
def ApiError.isHttp : ApiError → Bool
  | .internal _ => false
  | _ => true

/-- Without an own order the request is refused. -/
theorem reviewToCreate_foreign (foreign : ∀ order, ¬ OwnOrder db user body order) :
    ∃ e, reviewToCreate db user body = .error e ∧ e.isHttp = true := by
  simp only [reviewToCreate]
  cases found : db.orders.find? ((body.readString "orderId").getD "") with
  | none => exact ⟨_, rfl, rfl⟩
  | some order =>
      have other : order.customerId ≠ some user.id := fun own => foreign order ⟨found, own⟩
      simp only [other, ne_eq, not_false_eq_true, if_true]
      exact ⟨_, rfl, rfl⟩

/-- For an own order whose restaurant loads, the request is refused or the order is
reviewable. -/
theorem reviewToCreate_own (own : OwnOrder db user body order)
    (loaded : order.restaurantId.bind db.restaurant? = some restaurant) :
    (∃ e, reviewToCreate db user body = .error e ∧ e.isHttp = true ∧
        ¬ Reviewable db user body order restaurant) ∨
      Reviewable db user body order restaurant ∧
        reviewToCreate db user body = .ok (reviewEntity body user restaurant order) := by
  simp only [reviewToCreate, own.found, own.own, loaded, ne_eq, not_true_eq_false, if_false]
  split
  · rename_i other
    exact .inl ⟨_, rfl, rfl, fun reviewable => other reviewable.named⟩
  · rename_i named
    split
    · rename_i undelivered
      exact .inl ⟨_, rfl, rfl, fun reviewable => undelivered reviewable.delivered⟩
    · rename_i delivered
      have id : order.id = (body.readString "orderId").getD "" := Table.key_of_find? own.found
      cases reviewed : db.reviewOf? ((body.readString "orderId").getD "") with
      | some review =>
          refine .inl ⟨_, rfl, rfl, fun reviewable => ?_⟩
          rw [← id, reviewable.unreviewed] at reviewed
          cases reviewed
      | none =>
          rw [← id] at reviewed
          exact .inr ⟨⟨own, loaded, not_not.mp named, not_not.mp delivered, reviewed⟩, rfl⟩

/-- The checks of `createReview` fail on a restaurant that does not load, they
refuse a request that is not reviewable, or they let one through that is. -/
theorem reviewToCreate_cases (db : Db) (user : UserRow) (body : Fields) :
    (∃ order e, OwnOrder db user body order ∧ order.restaurantId.bind db.restaurant? = none ∧
        reviewToCreate db user body = .error e ∧ e.isHttp = false) ∨
      (∃ e, reviewToCreate db user body = .error e ∧ e.isHttp = true ∧
        ∀ order, OwnOrder db user body order →
          ∃ restaurant, order.restaurantId.bind db.restaurant? = some restaurant ∧
            ¬ Reviewable db user body order restaurant) ∨
      ∃ order restaurant, Reviewable db user body order restaurant ∧
        reviewToCreate db user body = .ok (reviewEntity body user restaurant order) := by
  by_cases owned : ∃ order, OwnOrder db user body order
  · obtain ⟨order, own⟩ := owned
    cases loaded : order.restaurantId.bind db.restaurant? with
    | none =>
        simp only [reviewToCreate, own.found, own.own, loaded, ne_eq, not_true_eq_false, if_false]
        exact .inl ⟨order, _, own, loaded, rfl, rfl⟩
    | some restaurant =>
        rcases reviewToCreate_own own loaded with ⟨e, refused, http, no⟩ | ⟨reviewable, passed⟩
        · refine .inr (.inl ⟨e, refused, http, fun order' own' => ⟨restaurant, ?_, ?_⟩⟩)
          · rwa [← own.unique own']
          · rwa [← own.unique own']
        · exact .inr (.inr ⟨order, restaurant, reviewable, passed⟩)
  · obtain ⟨e, refused, http⟩ := reviewToCreate_foreign (not_exists.mp owned)
    exact .inr (.inl ⟨e, refused, http, fun order own => absurd ⟨order, own⟩ owned⟩)

/-- Behind its relations, an entity has what it takes from the body. -/
theorem read_reviewEntity (name : String)
    (other : name ≠ "client" ∧ name ≠ "restaurant" ∧ name ≠ "order" ∧ name ≠ "orderId") :
    (reviewEntity body user restaurant order).read name =
      if reviewProperties.contains name then body.read name else none := by
  obtain ⟨client, place, of, id⟩ := other
  rw [reviewEntity, Fields.read_append, Fields.read_pick body reviewProperties.contains]
  simp [client.symm, place.symm, of.symm, id.symm]

/-- A new review brings no id. -/
theorem reviewEntity_unnamed : (reviewEntity body user restaurant order).read "id" = none := by
  rw [read_reviewEntity _ (by decide), if_neg (by decide)]

/-- The columns of a new review. -/
theorem newReview_columns {id : String} {review : ReviewRow}
    (written : ReviewRow.write id none (reviewEntity body user restaurant order) = some review) :
    review.clientId = some user.id ∧ review.restaurantId = some restaurant.id ∧
      review.orderId = some order.id := by
  simp only [ReviewRow.write, Option.bind_eq_bind, Option.bind_eq_some_iff, Option.pure_def,
    Option.some.injEq] at written
  obtain ⟨_, -, _, -, _, -, clientId, client, restaurantId, ofRestaurant, orderId, ofOrder,
    deletedAt, -, rfl⟩ := written
  refine ⟨?_, ?_, ?_⟩
  · simpa [reference, reviewEntity, Fields.read_append, nullableTextColumn, eq_comm] using client
  · simpa [reference, reviewEntity, Fields.read_append, nullableTextColumn, eq_comm]
      using ofRestaurant
  · simpa [reference, reviewEntity, Fields.read_append, nullableTextColumn, eq_comm] using ofOrder

/-- A valid score fits its column. -/
theorem intColumn_of_isScore {value : Json} (valid : isScore value = true) :
    ∃ score, intColumn value = some score := by
  cases value with
  | num q =>
      simp only [isScore, Bool.and_eq_true, decide_eq_true_eq] at valid
      obtain ⟨⟨-, low⟩, high⟩ := valid
      have range : -2147483648 ≤ roundHalfAway q ∧ roundHalfAway q ≤ 2147483647 := by
        rw [roundHalfAway, if_pos (by linarith)]
        constructor
        · rw [Rat.le_floor_iff]
          push_cast
          linarith
        · rw [← Int.lt_add_one_iff, Rat.floor_lt_iff]
          push_cast
          linarith
      simp [intColumn, IntColumn.ofNumber, range]
  | null | bool | str | arr | obj => cases valid

/-- So do the valid images. -/
theorem textsColumn_of_isTexts {value : Json} (valid : isTexts value = true) :
    ∃ texts, textsColumn value = some texts := by
  cases value with
  | arr items =>
      have all : ∃ texts, items.mapM textOfJson = some texts := by
        induction items with
        | nil => exact ⟨[], rfl⟩
        | cons item items ih =>
            simp only [isTexts, List.all_cons, Bool.and_eq_true] at valid
            obtain ⟨texts, mapped⟩ := ih valid.2
            cases item with
            | str text => exact ⟨text :: texts, by simp [List.mapM_cons, textOfJson, mapped]⟩
            | null | bool | num | arr | obj => cases valid.1
      obtain ⟨texts, mapped⟩ := all
      exact ⟨some texts, by simp [textsColumn, mapped]⟩
  | null | bool | num | str | obj => cases valid

/-- A valid body is written as a new review exactly when its text fits. -/
theorem newReview_written (id : String) (valid : validCreateReview body = true) :
    (∃ review, ReviewRow.write id none (reviewEntity body user restaurant order) = some review) ↔
      ((body.readString "reviewText").getD "").length ≤ 255 := by
  let e := reviewEntity body user restaurant order
  simp only [validCreateReview, reviewRules, List.cons_append, List.nil_append, List.all_cons,
    List.all_nil, Bool.and_true, Bool.and_eq_true, required, optional, Option.any_eq_true,
    Option.all_eq_true] at valid
  obtain ⟨⟨-, -, ⟨score, hScore, validScore⟩, text, hText, validText⟩, images⟩ := valid
  have hScore : ∃ s, column e "score" intColumn none = some s := by
    rw [column, read_reviewEntity _ (by decide), if_pos (by decide), hScore]
    exact intColumn_of_isScore validScore
  have hImages : ∃ i, column e "reviewImg" textsColumn (some none) = some i := by
    rw [column, read_reviewEntity _ (by decide), if_pos (by decide)]
    cases given : body.read "reviewImg" with
    | none => exact ⟨none, rfl⟩
    | some value =>
        have valid := images value given
        rw [Bool.or_eq_true, decide_eq_true_eq] at valid
        rcases valid with rfl | valid
        · exact ⟨none, rfl⟩
        · exact textsColumn_of_isTexts valid
  have hDeleted : column e "deletedAt" timestampColumn (some none) = some none := by
    rw [column, read_reviewEntity _ (by decide), if_neg (by decide)]
  cases text with
  | str text =>
      have hLong : column e "reviewText" freeTextColumn none =
          if text.length ≤ 255 then some text else none := by
        rw [column, read_reviewEntity _ (by decide), if_pos (by decide), hText]
        rfl
      have hClient : reference e "client" "clientId" nullableTextColumn (some none) =
          some (some user.id) := by
        simp [e, reference, reviewEntity, Fields.read_append, nullableTextColumn]
      have hRestaurant : reference e "restaurant" "restaurantId" nullableTextColumn (some none) =
          some (some restaurant.id) := by
        simp [e, reference, reviewEntity, Fields.read_append, nullableTextColumn]
      have hOrder : reference e "order" "orderId" nullableTextColumn (some none) =
          some (some order.id) := by
        simp [e, reference, reviewEntity, Fields.read_append, nullableTextColumn]
      obtain ⟨s, hScore⟩ := hScore
      obtain ⟨i, hImages⟩ := hImages
      have given : body.readString "reviewText" = some text := Fields.readString_eq_some.mpr hText
      rw [given, Option.getD_some]
      unfold ReviewRow.write
      by_cases short : text.length ≤ 255 <;>
        simp [e, hScore, hImages, hDeleted, hLong, hClient, hRestaurant, hOrder, short]
  | null | bool | num | arr | obj => cases validText

end Create

end CoupangEats
