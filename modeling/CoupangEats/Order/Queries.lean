import CoupangEats.Order.Calls
import Mathlib.Data.List.Sort

/-!
The queries of the order service: `getOrders` and `getOrderById`.

Who may see an order is written twice. `getOrders` asks the database for it,
through the joined rows of the customer, the restaurant and the driver and, for
an owner, through the owner's restaurants; `getOrderById` loads one order and
checks the columns of its row. Each reading is a relation between a user and a
row (`Lists`, `MaySee`), and for a user who loads the first implies the second,
and for clients and owners it is the same (`list_agrees_with_detail`).
-/

namespace CoupangEats

open CoupangEats.Base

/-! ### The queries -/

/-- The relations that a query asks for. -/
structure OrderJoins where
  restaurant : Bool
  customer : Bool
  driver : Bool

/-- An order as a query gives it: its columns, the relations that were asked for,
and its items, which come with every query. A related row that is soft-deleted
is `null`; a relation that was not asked for is left out. -/
structure OrderView where
  row : OrderRow
  restaurant : Option RestaurantRow
  customer : Option UserRow
  driver : Option UserRow
  items : List OrderItemRow
  deriving DecidableEq, Repr

def viewOrder (db : Db) (joins : OrderJoins) (row : OrderRow) : OrderView where
  row
  restaurant := if joins.restaurant then row.restaurantId.bind db.restaurant? else none
  customer := if joins.customer then row.customerId.bind db.user? else none
  driver := if joins.driver then row.driverId.bind db.user? else none
  items := db.orderItems.rows.filter fun item => item.orderId = some row.id

/-- `createdAt: 'DESC'`. The database leaves open how equal times are ordered. -/
def newestFirst (rows : List OrderRow) : List OrderRow :=
  rows.insertionSort fun a b => b.createdAt ≤ a.createdAt

/-- `orderRepository.find` with a condition on the rows. -/
def findOrders (db : Db) (joins : OrderJoins) (selects : OrderRow → Bool) : List OrderView :=
  (newestFirst (db.orders.rows.filter selects)).map (viewOrder db joins)

/-- `{ id: user.id }` on a joined user. -/
def joinsUser (db : Db) (user : UserRow) (userId : Option String) : Bool :=
  (userId.bind db.user?).map UserRow.id = some user.id

def getOrders (db : Db) (user : UserRow) : List OrderView :=
  match user.role with
  | .client => findOrders db ⟨true, false, false⟩ fun order => joinsUser db user order.customerId
  | .owner =>
      let restaurants := db.restaurants.rows.filter fun restaurant =>
        restaurant.deletedAt.isNone && restaurant.ownerId = user.id
      let restaurantIds := restaurants.map RestaurantRow.id
      if restaurantIds.length = 0 then []
      else
        findOrders db ⟨true, true, false⟩ fun order =>
          ((order.restaurantId.bind db.restaurant?).map RestaurantRow.id).any
            restaurantIds.contains
  | .delivery =>
      findOrders db ⟨true, true, false⟩ fun order =>
        order.status = .cooked || (order.status = .pickedUp && joinsUser db user order.driverId)

/-- The query of `getOrderById`. -/
def findOrder (db : Db) (orderId : String) : Option OrderView :=
  (db.orders.find? orderId).map (viewOrder db ⟨true, true, true⟩)

def getOrderById (db : Db) (user : UserRow) (orderId : String) : Except ApiError OrderView :=
  match findOrder db orderId with
  | none => .error (.notFound "Not found")
  | some order =>
      match user.role with
      | .client =>
          if order.row.customerId ≠ some user.id then
            .error (.forbidden "You can only see your own orders.")
          else .ok order
      | .owner =>
          match order.restaurant with
          | none => .error (.internal "Cannot read properties of null (reading 'ownerId')")
          | some restaurant =>
              if restaurant.ownerId ≠ user.id then
                .error (.forbidden "You can only see orders for your restaurant.")
              else .ok order
      | .delivery =>
          let isAvailableForPickup := order.row.status = .cooked
          let isMyDelivery := order.row.driverId = some user.id
          if ¬ isAvailableForPickup ∧ ¬ isMyDelivery then
            .error (.forbidden "You cannot access this order.")
          else .ok order

/-! ### Who sees an order -/

/-- The access rule of the detail, on the columns of the row. -/
def MaySee (db : Db) (user : UserRow) (row : OrderRow) : Prop :=
  match user.role with
  | .client => row.customerId = some user.id
  | .owner => ∃ restaurant, row.restaurantId.bind db.restaurant? = some restaurant ∧
      restaurant.ownerId = user.id
  | .delivery => row.status = .cooked ∨ row.driverId = some user.id

/-- The access rule of the list, on the joined rows. -/
def Lists (db : Db) (user : UserRow) (row : OrderRow) : Prop :=
  match user.role with
  | .client => ∃ customer, row.customerId.bind db.user? = some customer ∧ customer.id = user.id
  | .owner => ∃ restaurant, row.restaurantId.bind db.restaurant? = some restaurant ∧
      ∃ own ∈ db.restaurants.rows, own.deletedAt = none ∧ own.ownerId = user.id ∧
        own.id = restaurant.id
  | .delivery => row.status = .cooked ∨ row.status = .pickedUp ∧
      ∃ driver, row.driverId.bind db.user? = some driver ∧ driver.id = user.id

section Query

variable {db : Db} {user : UserRow} {orderId : String} {order : OrderView}

theorem findOrder_eq_some :
    findOrder db orderId = some order ↔
      ∃ row, db.orders.find? orderId = some row ∧ viewOrder db ⟨true, true, true⟩ row = order :=
  Option.map_eq_some_iff

theorem findOrder_restaurant (found : findOrder db orderId = some order) :
    order.restaurant = order.row.restaurantId.bind db.restaurant? := by
  obtain ⟨row, -, rfl⟩ := findOrder_eq_some.mp found
  rfl

/-- An answer that a check has let through. -/
theorem refused_or_eq_ok {α : Type} {refused : Prop} [Decidable refused] {e : ApiError}
    {found answer : α} :
    (if refused then .error e else Except.ok found) = .ok answer ↔
      some found = some answer ∧ ¬ refused := by
  split_ifs with h <;> simp [h]

/-- The detail is answered exactly with the order that its rule lets through. -/
theorem getOrderById_eq_ok :
    getOrderById db user orderId = .ok order ↔
      findOrder db orderId = some order ∧ MaySee db user order.row := by
  unfold getOrderById
  cases found : findOrder db orderId with
  | none => simp
  | some order' =>
      have restaurant := findOrder_restaurant found
      cases role : user.role with
      | client =>
          simp only [MaySee, role]
          rw [refused_or_eq_ok]
          apply and_congr_right
          rintro ⟨⟩
          exact not_not
      | owner =>
          simp only [MaySee, role]
          cases loaded : order'.restaurant with
          | none =>
              rw [loaded] at restaurant
              simp only [Option.some.injEq, reduceCtorEq, false_iff, not_and]
              rintro rfl ⟨_, placed, -⟩
              rw [placed] at restaurant
              cases restaurant
          | some place =>
              rw [loaded] at restaurant
              simp only
              rw [refused_or_eq_ok]
              apply and_congr_right
              rintro ⟨⟩
              rw [← restaurant, not_not]
              constructor
              · exact fun own => ⟨place, rfl, own⟩
              · rintro ⟨_, ⟨⟩, own⟩
                exact own
      | delivery =>
          simp only [MaySee, role]
          rw [refused_or_eq_ok]
          apply and_congr_right
          rintro ⟨⟩
          rw [← not_or, not_not]

theorem joinsUser_iff {userId : Option String} :
    joinsUser db user userId = true ↔
      ∃ joined, userId.bind db.user? = some joined ∧ joined.id = user.id := by
  rw [joinsUser, decide_eq_true_iff, Option.map_eq_some_iff]

/-- The rows of a query are the selected ones, each once. -/
theorem findOrders_rows (joins : OrderJoins) (selects : OrderRow → Bool) :
    ((findOrders db joins selects).map OrderView.row).Perm (db.orders.rows.filter selects) := by
  have rows : (findOrders db joins selects).map OrderView.row =
      newestFirst (db.orders.rows.filter selects) := by
    rw [findOrders, List.map_map]
    exact List.map_id _
  rw [rows]
  exact List.perm_insertionSort _ _

/-- The list has the rows that its rule selects, each once. -/
theorem getOrders_rows (db : Db) (user : UserRow) :
    ∃ selects : OrderRow → Bool, (∀ row, selects row = true ↔ Lists db user row) ∧
      ((getOrders db user).map OrderView.row).Perm (db.orders.rows.filter selects) := by
  unfold getOrders
  cases role : user.role with
  | client =>
      refine ⟨_, fun row => ?_, findOrders_rows _ _⟩
      simp only [Lists, role]
      exact joinsUser_iff
  | owner =>
      let restaurantIds := (db.restaurants.rows.filter fun restaurant =>
        restaurant.deletedAt.isNone && restaurant.ownerId = user.id).map RestaurantRow.id
      let selects : OrderRow → Bool := fun order =>
        ((order.restaurantId.bind db.restaurant?).map RestaurantRow.id).any restaurantIds.contains
      refine ⟨selects, fun row => ?_, ?_⟩
      · simp only [Lists, role, selects, restaurantIds, Option.any_map, Option.any_eq_true,
          List.contains_iff_mem, List.mem_map, List.mem_filter, Bool.and_eq_true,
          Option.isNone_iff_eq_none, decide_eq_true_eq, and_assoc]
      · simp only
        split
        · -- Without restaurants nothing is selected either.
          rename_i without
          have empty : restaurantIds = [] := List.length_eq_zero_iff.mp without
          have nothing : db.orders.rows.filter selects = [] := by
            refine List.filter_eq_nil_iff.mpr fun order _ => ?_
            simp only [selects, empty]
            cases order.restaurantId.bind db.restaurant? <;> simp
          rw [nothing]
          exact List.Perm.refl _
        · exact findOrders_rows _ selects
  | delivery =>
      refine ⟨_, fun row => ?_, findOrders_rows _ _⟩
      simp only [Lists, role, Bool.or_eq_true, Bool.and_eq_true, decide_eq_true_eq]
      exact or_congr Iff.rfl (and_congr Iff.rfl joinsUser_iff)

end Query

/-! ### The two agree -/

/-- The list's rule implies the detail's. -/
theorem Lists.maySee {db : Db} {user : UserRow} {row : OrderRow} (lists : Lists db user row) :
    MaySee db user row := by
  unfold Lists at lists
  unfold MaySee
  split at lists
  · obtain ⟨customer, joined, id⟩ := lists
    obtain ⟨customerId, same, known⟩ := Option.bind_eq_some_iff.mp joined
    rw [same, ← id, Db.user?_id known]
  · obtain ⟨restaurant, placed, own, mem, -, owned, id⟩ := lists
    obtain ⟨restaurantId, same, known⟩ := Option.bind_eq_some_iff.mp placed
    have stored := Db.restaurant?_mem known
    rw [db.restaurants.eq_of_key_eq mem stored id] at owned
    exact ⟨restaurant, placed, owned⟩
  · rcases lists with cooked | ⟨-, driver, joined, id⟩
    · exact .inl cooked
    · obtain ⟨driverId, same, known⟩ := Option.bind_eq_some_iff.mp joined
      exact .inr (by rw [same, ← id, Db.user?_id known])

/-- For clients and owners who load, the detail's rule implies the list's. -/
theorem MaySee.lists {db : Db} {user : UserRow} {row : OrderRow}
    (known : db.user? user.id = some user) (role : user.role ≠ .delivery)
    (sees : MaySee db user row) : Lists db user row := by
  unfold MaySee at sees
  unfold Lists
  split at sees
  · exact ⟨user, by rw [sees, Option.bind_some, known], rfl⟩
  · obtain ⟨restaurant, placed, own⟩ := sees
    obtain ⟨restaurantId, -, loaded⟩ := Option.bind_eq_some_iff.mp placed
    obtain ⟨found, live⟩ := Db.restaurant?_eq_some.mp loaded
    exact ⟨restaurant, placed, restaurant, Table.mem_of_find? found, live, own, rfl⟩
  · contradiction

/-- List and detail agree, in every store and for every user who loads: whatever
is listed can be read by its id, and for clients and owners whatever can be read
is listed, exactly once. -/
theorem list_agrees_with_detail {db : Db} {user : UserRow}
    (known : db.user? user.id = some user) :
    (∀ listed ∈ getOrders db user,
      ∃ detail, getOrderById db user listed.row.id = .ok detail ∧ detail.row = listed.row) ∧
    (user.role ≠ .delivery → ∀ orderId detail, getOrderById db user orderId = .ok detail →
      ((getOrders db user).map OrderView.row).filter (fun row => row.id = orderId) =
        [detail.row]) := by
  obtain ⟨selects, rule, rows⟩ := getOrders_rows db user
  constructor
  · intro listed mem
    have stored := rows.mem_iff.mp (List.mem_map_of_mem mem)
    obtain ⟨stored, selected⟩ := List.mem_filter.mp stored
    refine ⟨viewOrder db ⟨true, true, true⟩ listed.row, getOrderById_eq_ok.mpr ⟨?_, ?_⟩, rfl⟩
    · exact findOrder_eq_some.mpr ⟨_, Table.find?_of_mem stored, rfl⟩
    · exact ((rule _).mp selected).maySee
  · intro role orderId detail read
    obtain ⟨found, sees⟩ := getOrderById_eq_ok.mp read
    obtain ⟨row, stored, rfl⟩ := findOrder_eq_some.mp found
    have selected : selects row = true := (rule row).mpr (sees.lists known role)
    -- The row of the id is stored once, and the rule selects it.
    have single : (db.orders.rows.filter selects).filter (fun row => row.id = orderId) = [row] := by
      rw [List.filter_comm, Table.filter_key stored, List.filter_singleton, selected]
      rfl
    exact List.perm_singleton.mp (single ▸ rows.filter _)

/-- The customer of the sample order. -/
theorem customer_agrees :
    (∀ listed ∈ getOrders orderedStore (sampleUser "customer" .client),
      ∃ detail, getOrderById orderedStore (sampleUser "customer" .client) listed.row.id =
        .ok detail ∧ detail.row = listed.row) ∧
    ((sampleUser "customer" .client).role ≠ .delivery → ∀ orderId detail,
      getOrderById orderedStore (sampleUser "customer" .client) orderId = .ok detail →
      ((getOrders orderedStore (sampleUser "customer" .client)).map OrderView.row).filter
        (fun row => row.id = orderId) = [detail.row]) :=
  list_agrees_with_detail (by decide +kernel)

end CoupangEats
