import CoupangEats.Platform.Effects

/-!
The integrity of the store.

`Sound` is what the schema and the services together make of the store: every
reference is to a row that is there and of the right kind (restaurants have owners,
orders clients and drivers), payments and reviews are of the customer and the
restaurant of their order, and the unique values are unique. It is kept by every call
with declared fields and by the cleanup job (`store_sound`), which would otherwise be
able to leave payments and reviews without their order.
-/

namespace CoupangEats

open CoupangEats.Base

structure Sound (db : Db) : Prop where
  liveUsers : ∀ user ∈ db.users.rows, user.deletedAt = none
  emails : db.users.Indexed fun user => some user.email
  liveRestaurants : ∀ restaurant ∈ db.restaurants.rows, restaurant.deletedAt = none
  owners : db.restaurants.Refers (fun restaurant => some restaurant.ownerId) db.users
    fun _ user => user.role = .owner
  categories : db.restaurants.Refers RestaurantRow.categoryId db.categories fun _ _ => True
  menus : db.dishes.Refers (fun dish => some dish.restaurantId) db.restaurants fun _ _ => True
  complete : ∀ order ∈ db.orders.rows, order.customerId.isSome ∧ order.restaurantId.isSome
  customers : db.orders.Refers OrderRow.customerId db.users fun _ user => user.role = .client
  drivers : db.orders.Refers OrderRow.driverId db.users fun _ user => user.role = .delivery
  places : db.orders.Refers OrderRow.restaurantId db.restaurants fun _ _ => True
  items : db.orderItems.Refers OrderItemRow.orderId db.orders fun _ _ => True
  dishes : db.orderItems.Refers OrderItemRow.dishId db.dishes fun _ _ => True
  payments : db.payments.Refers (fun payment => some payment.orderId) db.orders
    fun payment order => order.customerId = some payment.userId ∧
      order.restaurantId = some payment.restaurantId
  onePayment : db.payments.Indexed fun payment => some payment.orderId
  reviewed : ∀ review ∈ db.reviews.rows, review.orderId.isSome
  reviews : db.reviews.Refers ReviewRow.orderId db.orders fun review order =>
    review.clientId = order.customerId ∧ review.restaurantId = order.restaurantId ∧
      order.status ≠ .pending
  oneReview : db.reviews.Indexed ReviewRow.orderId

/-- The store is sound, and shows the live categories. -/
structure ServerSound (s : ServerState) : Prop where
  db : Sound s.db
  shown : s.db.categories = liveCategories s.categories

section Sound

variable {db db' : Db} {user : UserRow}

/-! ### Soundness and loading -/

theorem Sound.user? (sound : Sound db) {id : String} {user : UserRow}
    (found : db.users.find? id = some user) : db.user? id = some user :=
  Db.user?_eq_some.mpr ⟨found, sound.liveUsers user (Table.mem_of_find? found)⟩

theorem Sound.restaurant? (sound : Sound db) {id : String} {restaurant : RestaurantRow}
    (found : db.restaurants.find? id = some restaurant) : db.restaurant? id = some restaurant :=
  Db.restaurant?_eq_some.mpr
    ⟨found, sound.liveRestaurants restaurant (Table.mem_of_find? found)⟩

/-- An account is found by its address. -/
theorem Sound.userByEmail? (sound : Sound db) {user : UserRow} (mem : user ∈ db.users.rows) :
    db.userByEmail? user.email = some user := by
  cases found : db.userByEmail? user.email with
  | none =>
      have deleted := userByEmail?_eq_none.mp found user mem rfl
      rw [sound.liveUsers user mem] at deleted
      cases deleted
  | some other =>
      obtain ⟨mem', same⟩ := userByEmail?_eq_some found
      rw [sound.emails user mem other mem' user.email rfl (congrArg some same)]

theorem Sound.linked (sound : Sound db) : Linked db := by
  constructor
  · intro row mem id here
    obtain ⟨driver, found, -⟩ := sound.drivers row mem id here
    exact ⟨driver, sound.user? found⟩
  · intro row mem id here
    obtain ⟨restaurant, found, -⟩ := sound.places row mem id here
    exact ⟨restaurant, sound.restaurant? found⟩

/-! ### One write -/

/-- An account may change in everything but its role and its time of deletion. -/
theorem Sound.account_put {row : UserRow} {users : Table String UserRow UserRow.id}
    (sound : Sound db) (puts : db.users.Puts row users) (live : row.deletedAt = none)
    (role : ∀ old, db.users.find? row.id = some old → row.role = old.role)
    (unique : ∀ other ∈ db.users.rows, other.email = row.email → other.id = row.id) :
    Sound { db with users } := by
  have suits {ρ : Type} {key : ρ → String} {t : Table String ρ key} {ref : ρ → Option String}
      {kind : Role} (refers : t.Refers ref db.users fun _ user => user.role = kind) :
      t.Refers ref users fun _ user => user.role = kind := by
    apply refers.target puts
    intro old stored _ _ _ same
    rw [role old stored]
    exact same
  exact
    { sound with
      liveUsers := puts.forall sound.liveUsers live
      emails := by
        apply sound.emails.puts puts
        intro other mem email here there
        rw [Option.some.injEq] at here there
        exact unique other mem (there.trans here.symm)
      owners := suits sound.owners
      customers := suits sound.customers
      drivers := suits sound.drivers }

theorem Sound.account {actor : Option String} (sound : Sound db)
    (write : AccountWrite db actor db') : Sound db' := by
  have changed {old row : UserRow} {users : Table String UserRow UserRow.id}
      (stored : db.users.find? old.id = some old) (puts : db.users.Puts row users)
      (id : row.id = old.id) (email : row.email = old.email) (role : row.role = old.role)
      (deletedAt : row.deletedAt = old.deletedAt) : Sound { db with users } := by
    have mem := Table.mem_of_find? stored
    apply sound.account_put puts
    · rw [deletedAt]
      exact sound.liveUsers old mem
    · intro other found
      rw [id, stored, Option.some.injEq] at found
      rw [← found, role]
    · intro other mem' same
      rw [id]
      exact congrArg UserRow.id
        (sound.emails other mem' old mem old.email (congrArg some (same.trans email)) rfl)
  cases write with
  | none => exact sound
  | added new live unique puts =>
      refine sound.account_put puts live (fun old stored => ?_) fun other mem same => ?_
      · rw [new] at stored
        cases stored
      · exact absurd same (unique other mem)
  | verified stored puts => exact changed stored puts rfl rfl rfl rfl
  | updated stored puts => exact changed stored puts rfl rfl rfl rfl

/-- An order may change its driver for a delivery user and its status, but not back to
pending. -/
theorem Sound.order_put {old row : OrderRow} {orders : Table String OrderRow OrderRow.id}
    (sound : Sound db) (stored : db.orders.find? old.id = some old)
    (puts : db.orders.Puts row orders) (id : row.id = old.id)
    (customer : row.customerId = old.customerId) (place : row.restaurantId = old.restaurantId)
    (driver : ∀ k, row.driverId = some k →
      old.driverId = some k ∨ ∃ user, db.users.find? k = some user ∧ user.role = .delivery)
    (started : old.status ≠ .pending → row.status ≠ .pending) : Sound { db with orders } := by
  have mem := Table.mem_of_find? stored
  have only {found : OrderRow} (here : db.orders.find? row.id = some found) : found = old := by
    rw [id] at here
    exact Option.some.inj (here.symm.trans stored)
  exact
    { sound with
      complete := puts.forall sound.complete (by
        rw [customer, place]
        exact sound.complete old mem)
      customers := by
        apply sound.customers.puts puts
        rw [customer]
        exact sound.customers old mem
      drivers := by
        apply sound.drivers.puts puts
        intro k here
        rcases driver k here with same | new
        · exact sound.drivers old mem k same
        · exact new
      places := by
        apply sound.places.puts puts
        rw [place]
        exact sound.places old mem
      items := sound.items.target puts fun _ _ _ _ _ _ => trivial
      payments := by
        apply sound.payments.target puts
        intro found here _ _ _ suits
        rw [only here] at suits
        rw [customer, place]
        exact suits
      reviews := by
        apply sound.reviews.target puts
        intro found here _ _ _ suits
        rw [only here] at suits
        rw [customer, place]
        exact ⟨suits.1, suits.2.1, started suits.2.2⟩ }

/-- An order that has been started may get its review. -/
theorem Sound.review_put {row : ReviewRow} {order : OrderRow}
    {reviews : Table String ReviewRow ReviewRow.id} (sound : Sound db)
    (found : db.orders.find? order.id = some order) (of : row.orderId = some order.id)
    (author : row.clientId = order.customerId) (place : row.restaurantId = order.restaurantId)
    (started : order.status ≠ .pending)
    (unreviewed : ∀ other ∈ db.reviews.rows, other.orderId ≠ row.orderId)
    (puts : db.reviews.Puts row reviews) : Sound { db with reviews } :=
  { sound with
    reviewed := puts.forall sound.reviewed (by simp [of])
    reviews := by
      apply sound.reviews.puts puts
      intro id here
      rw [of, Option.some.injEq] at here
      rw [← here]
      exact ⟨order, found, author, place, started⟩
    oneReview := by
      apply sound.oneReview.puts puts
      intro other mem id here there
      exact absurd (there.trans here.symm) (unreviewed other mem) }

/-- A write of a stored user keeps the store sound. -/
theorem Sound.write (sound : Sound db) (known : db.users.find? user.id = some user)
    (write : Write db user db') : Sound db' := by
  cases write with
  | none => exact sound
  | @restaurant row restaurants role owner live category own puts =>
      exact
        { sound with
          liveRestaurants := puts.forall sound.liveRestaurants live
          owners := by
            apply sound.owners.puts puts
            rintro k same
            cases same
            exact ⟨user, by rw [owner]; exact known, role⟩
          categories := by
            apply sound.categories.puts puts
            intro id here
            obtain ⟨found, stored⟩ := category id here
            exact ⟨found, stored, trivial⟩
          menus := sound.menus.target puts fun _ _ _ _ _ _ => trivial
          places := sound.places.target puts fun _ _ _ _ _ _ => trivial }
  | @dish row dishes restaurant role found owner own puts =>
      exact
        { sound with
          menus := by
            apply sound.menus.puts puts
            rintro k same
            cases same
            exact ⟨restaurant, found, trivial⟩
          dishes := sound.dishes.target puts fun _ _ _ _ _ _ => trivial }
  | @order row orders _ restaurant role customer _ driver place found new puts items =>
      have untouched {ρ : Type} {key : ρ → String} {t : Table String ρ key}
          {ref : ρ → Option String} {suits : ρ → OrderRow → Prop}
          (refers : t.Refers ref db.orders suits) : t.Refers ref orders suits := by
        apply refers.target puts
        intro old stored
        rw [new] at stored
        cases stored
      exact
        { sound with
          complete := puts.forall sound.complete (by simp [customer, place])
          customers := by
            apply sound.customers.puts puts
            intro id here
            rw [customer, Option.some.injEq] at here
            rw [← here]
            exact ⟨user, known, role⟩
          drivers := by
            apply sound.drivers.puts puts
            intro id here
            rw [driver] at here
            cases here
          places := by
            apply sound.places.puts puts
            intro id here
            rw [place, Option.some.injEq] at here
            rw [← here]
            exact ⟨restaurant, found, trivial⟩
          items := by
            intro item mem id here
            rcases items item mem with old | ⟨own, -⟩
            · exact untouched sound.items item old id here
            · rw [own, Option.some.injEq] at here
              rw [← here]
              exact ⟨row, puts.stored, trivial⟩
          dishes := by
            intro item mem id here
            rcases items item mem with old | ⟨-, dish, own, stored⟩
            · exact sound.dishes item old id here
            · rw [own, Option.some.injEq] at here
              rw [← here]
              exact ⟨dish, stored, trivial⟩
          payments := untouched sound.payments
          reviews := untouched sound.reviews }
  | @status old orders status stored may puts =>
      refine sound.order_put stored puts rfl rfl rfl (fun k here => ?_) fun _ => may.ne_pending
      cases may with
      | owner _ _ _ _ asked =>
          left
          rcases asked with rfl | rfl <;> exact here
      | pickedUp role =>
          cases here
          exact .inr ⟨user, known, role⟩
      | delivered role own => exact .inl here
  | @payment row payments order role payer found customer place new unpaid puts =>
      exact
        { sound with
          payments := by
            apply sound.payments.puts puts
            intro id here
            cases here
            exact ⟨order, found, by rw [customer, payer], place⟩
          onePayment := by
            apply sound.onePayment.puts puts
            intro other mem id here there
            cases here
            exact absurd (Option.some.inj there) (unpaid other mem) }
  | @review row reviews order role found of author customer place delivered new unreviewed puts =>
      exact sound.review_put found of (author.trans customer.symm) place (by simp [delivered])
        unreviewed puts
  | @changedReview old row reviews role stored author same puts =>
      exact
        { sound with
          reviewed := puts.forall sound.reviewed (by
            rw [same.order]
            exact sound.reviewed old stored)
          reviews := by
            apply sound.reviews.puts puts
            rw [same.order, same.author, same.restaurant]
            exact sound.reviews old stored
          oneReview := by
            apply sound.oneReview.puts puts
            intro other mem id here there
            rw [same.order] at here
            rw [same.id, sound.oneReview other mem old stored id there here] }

/-! ### The cleanup job -/

/-- The job deletes pending orders, and no review is of one. -/
theorem Sound.cron_reviews {dayBefore : Time → Time} {now : Time} (sound : Sound db)
    (deleted : handleCron dayBefore now db = .ok db') : db'.reviews = db.reviews := by
  have unreviewed (review : ReviewRow) (mem : review ∈ db.reviews.rows) :
      ¬ db.SelectedRef (Stale dayBefore now) review.orderId := by
    rintro ⟨id, here, order, stored, stale, rfl⟩
    obtain ⟨target, found, -, -, started⟩ := sound.reviews review mem order.id here
    rw [Table.find?_of_mem stored, Option.some.injEq] at found
    rw [← found] at started
    exact started (stale_iff.mp stale).1
  unfold handleCron deleteOrders at deleted
  split at deleted
  · cases deleted
  · cases deleted
    apply Table.ext
    conv => rhs; rw [← List.map_id db.reviews.rows]
    exact List.map_congr_left fun review mem => if_neg (unreviewed review mem)

/-- The items of the deleted orders go with them, and no payment is of one, or the
statement would have failed. -/
theorem Sound.cron {dayBefore : Time → Time} {now : Time} (sound : Sound db)
    (deleted : handleCron dayBefore now db = .ok db') : Sound db' := by
  have reviews := sound.cron_reviews deleted
  unfold handleCron deleteOrders at deleted
  split at deleted
  · cases deleted
  · rename_i unreferred
    cases deleted
    have selected {id : String} {order : OrderRow} (found : db.orders.find? id = some order)
        (stale : Stale dayBefore now order = true) : db.Selected (Stale dayBefore now) id :=
      ⟨order, Table.mem_of_find? found, stale, Table.key_of_find? found⟩
    simp only at reviews
    rw [reviews]
    exact
      { sound with
        complete := fun order mem => sound.complete order (Table.mem_filter.mp mem).1
        customers := sound.customers.filter
        drivers := sound.drivers.filter
        places := sound.places.filter
        items := by
          apply sound.items.filter.filter_target
          intro item mem id order here found _
          have kept := (Table.mem_filter.mp mem).2
          simp only [Bool.not_eq_true', decide_eq_false_iff_not] at kept
          rw [Bool.not_eq_true', Bool.eq_false_iff]
          exact fun stale => kept ⟨id, here, selected found stale⟩
        dishes := sound.dishes.filter
        payments := by
          apply sound.payments.filter_target
          intro payment mem id order here found _
          rw [Bool.not_eq_true', Bool.eq_false_iff]
          intro stale
          cases here
          exact unreferred ⟨payment, mem, selected found stale⟩
        reviews := by
          apply sound.reviews.filter_target
          intro review mem id order here found suits
          rw [Bool.not_eq_true', Bool.eq_false_iff]
          exact fun stale => suits.2.2 (stale_iff.mp stale).1 }

end Sound

/-! ### Runs -/

section Runs

variable {deployment : Deployment}

theorem find?_liveCategories (categories : Categories) (id : String) :
    (liveCategories categories).find? id =
      ((categories.find? id).filter fun category => category.deletedAt.isNone).map fun category =>
        ⟨category.id, category.name, category.slug⟩ := by
  rw [← Table.find?_filter]
  simp only [Table.find?, liveCategories, getAllCategories, List.find?_map, Table.filter]
  rfl

theorem AccountWrite.categories {db db' : Db} {actor : Option String}
    (write : AccountWrite db actor db') : db'.categories = db.categories := by
  cases write <;> rfl

theorem Write.categories {db db' : Db} {user : UserRow} (write : Write db user db') :
    db'.categories = db.categories := by
  cases write <;> rfl

theorem Write.users {db db' : Db} {user : UserRow} (write : Write db user db') :
    db'.users = db.users := by
  cases write <;> rfl

/-- One call keeps the server sound. -/
theorem ServerSound.step {e : ServerEvent}
    (step : (server deployment).step e.before e.input = (e.after, e.output))
    (declared : e.input.Declared) (sound : ServerSound e.before) : ServerSound e.after := by
  obtain ⟨db, shown⟩ := sound
  obtain ⟨s, call, reply, s'⟩ := e
  have effect : ServerEffect deployment s call s' := server_effect db.linked shown declared step
  cases effect with
  | account write same _ =>
      exact ⟨db.account write, by rw [write.categories, shown, same]⟩
  | @category now authHeader call user row categories admitted _ new puts =>
      refine ⟨{ db with categories := ?_ }, rfl⟩
      intro restaurant mem id here
      obtain ⟨category, found, -⟩ := db.categories restaurant mem id here
      rw [shown, find?_liveCategories] at found
      refine ⟨category, ?_, trivial⟩
      rw [find?_liveCategories, puts]
      split
      · rename_i taken
        rw [taken, new] at found
        cases found
      · exact found
  | member admitted write =>
      have known := (Db.user?_eq_some.mp (admitMember_eq_ok admitted).1).1
      exact ⟨db.write known write, by rw [write.categories, shown]⟩
  | cron deleted =>
      refine ⟨db.cron deleted, ?_⟩
      rw [(deleteOrders_static deleted).2.1]
      exact shown

/-- What is known of every event of a run from a sound state. -/
theorem ServerSound.along {s : ServerState} {calls : List ServerCall} (start : ServerSound s)
    (declared : ∀ call ∈ calls, call.Declared) :
    ∀ e ∈ (server deployment).history s calls,
      (server deployment).step e.before e.input = (e.after, e.output) ∧ e.input.Declared ∧
        ServerSound e.before ∧ ServerSound e.after := by
  intro e mem
  have known : ∀ e ∈ (server deployment).history s calls, e.input.Declared :=
    fun _ mem => declared _ (Machine.input_mem mem)
  have sound := Machine.history_invariant ServerSound (fun e => e.input.Declared)
    (fun _ step declared sound => sound.step step declared) start known
  exact ⟨Machine.step_of_mem_history mem, known e mem, sound.2 e mem⟩

/-- The store is sound in every state that the server reaches from a sound one by calls
with declared fields, the cleanup job among them. -/
theorem store_sound {s : ServerState} {calls : List ServerCall} (start : ServerSound s)
    (declared : ∀ call ∈ calls, call.Declared) :
    ServerSound ((server deployment).run s calls) ∧
      ∀ e ∈ (server deployment).history s calls, ServerSound e.before ∧ ServerSound e.after :=
  Machine.history_invariant ServerSound (fun e => e.input.Declared)
    (fun _ step declared sound => sound.step step declared) start
    fun _ mem => declared _ (Machine.input_mem mem)

end Runs

/-- The server before any account. -/
def ServerState.empty : ServerState := ⟨.empty, .empty, .empty⟩

theorem serverSound_empty : ServerSound .empty := by
  constructor
  · constructor <;> intro row mem <;> cases mem
  · rfl

/-! ### An opening day -/

def sampleDeployment : Deployment :=
  ⟨sampleJwt, sampleConfig, fun a b => a = b, toLowerAscii, fun now => now - 86400000⟩

/-- The header of a user who has signed in at the time `0`. -/
def sampleHeader (userId : String) : Option String :=
  some ("Bearer " ++ sampleJwt.sign sampleConfig.accessSecret ⟨userId, .access, 0, 9⟩)

def ownerSignUp : SignUpBody :=
  ⟨[("email", .str "o@x.kr"), ("password", .str "passw0rd!"), ("name", .str "owner"),
    ("role", .str "Owner")], by decide +kernel⟩

/-- An owner signs up and in, and opens a restaurant. -/
def openingDay : List ServerCall :=
  [.signUp ownerSignUp ⟨"passw0rd!", "owner", "token", 0, .none, false, false⟩,
    .verifyEmail "token" ⟨0, false, false, false⟩,
    .signIn "o@x.kr" "passw0rd!" (.at 0),
    .member 0 (sampleHeader "owner")
      (.createCategory ⟨[("name", .str "Korean Food")], "category", false⟩),
    .member 0 (sampleHeader "owner") (.catalogue (.createRestaurant [("name", .str "kimbap"),
      ("coverImg", .str "c.png"), ("address", .str "Seoul"), ("categoryId", .str "category"),
      ("deliveryFee", .num 2000), ("minimumPrice", .num 0)]) ⟨"kimbap", 0, false⟩),
    .cron 1]

theorem openingDay_declared : ∀ call ∈ openingDay, call.Declared := by
  intro call mem
  simp only [openingDay, List.mem_cons, List.not_mem_nil, or_false] at mem
  rcases mem with rfl | rfl | rfl | rfl | rfl | rfl
  · simp [ServerCall.Declared, SignUpBody.Declared, ownerSignUp]
  · trivial
  · trivial
  · simp [ServerCall.Declared, CategoryCall.Declared]
  · simp [ServerCall.Declared, CatalogueRequest.Declared, restaurantRules]
  · trivial

/-- The restaurant is there in the end, and the store is sound. -/
theorem opening_day_sound :
    ServerSound ((server sampleDeployment).run .empty openingDay) ∧
      ((server sampleDeployment).run .empty openingDay).db.restaurants.rows.map
        (fun restaurant => (restaurant.id, restaurant.ownerId, restaurant.categoryId)) =
          [("kimbap", "owner", some "category")] :=
  ⟨(store_sound serverSound_empty openingDay_declared).1, by decide +kernel⟩

end CoupangEats
