import CoupangEats.Base.Program
import CoupangEats.Platform.OrderLife

/-!
Requests about orders, beside one another.

The handlers are asynchronous: between two queries of one request others run theirs. Here
a request is the program of its queries: what its guards and its service look up, and the
statement or transaction that writes in the end (`alone_member`: on its own it is the
request of `Platform.Server`). What has been looked up may be out of date when it is
written.

* `traffic_sound`: however any number of new orders, status changes, payments, reviews and
  runs of the cleanup job interleave, the store is as sound as when they are served one
  after another, and no payment, no review and no order that has been started is lost.
-/

namespace CoupangEats

open CoupangEats.Base

/-! ### Programs -/

abbrev OrderProgram := Program Db (Except ApiError ServerAnswer)

/-- A request about orders, or the time of the cleanup job. -/
inductive Traffic where
  | createOrder (userId : String) (dto : CreateOrderDto) (env : CreateOrderEnv)
  | editOrderStatus (userId orderId : String) (status : OrderStatus) (faults : Faults)
  | createPayment (call : PaymentCall)
  | createReview (userId : String) (body : Fields) (env : CatalogueEnv)
  | cron (now : Time)

/-- The user of the token and the role guard. -/
def guarded (userId : String) (roles : Option (List Role)) (next : UserRow → OrderProgram) :
    OrderProgram :=
  .read fun db =>
    match db.user? userId with
    | none => .done (.error userNotFound)
    | some user =>
        if rolesGuard roles user then next user
        else .done (.error (.forbidden "Forbidden resource"))

/-- `createOrder`: the restaurant and the dishes, then the save with the commit. -/
def createOrderProgram (userId : String) (dto : CreateOrderDto) (env : CreateOrderEnv) :
    OrderProgram :=
  guarded userId (some [.client]) fun user =>
    .read fun db =>
      match assembleOrder db user dto with
      | .error e => .done (.error e)
      | .ok order =>
          .write fun db =>
            match (if env.faults.save || env.faults.commit then none
              else saveNewOrder db env order) with
            | none => (db, .error queryFailed)
            | some db' => (db', .ok (.order (.inl ⟨env.orderId, env.now, order⟩)))

/-- `editOrderStatus`: the order with its relations and the checks, then the save with the
commit. -/
def editOrderProgram (userId orderId : String) (status : OrderStatus) (faults : Faults) :
    OrderProgram :=
  guarded userId none fun user =>
    .read fun db =>
      match loadOrder db orderId with
      | none => .done (.error (.notFound "Not found"))
      | some order =>
          match applyEdit user order status with
          | .error e => .done (.error e)
          | .ok edited =>
              .write fun db =>
                if faults.save || faults.commit then (db, .error queryFailed)
                else (saveOrder db order.row edited.columns, .ok (.order (.inr edited)))

/-- `processPayment`: the order, then its payment, then the insert. -/
def paymentProgram (call : PaymentCall) : OrderProgram :=
  guarded call.userId (some [.client]) fun user =>
    if validPayment call.body then
      .read fun db =>
        let orderId := (call.body.readString "orderId").getD ""
        match db.orders.find? orderId with
        | none => .done (.error (.notFound ("don't exist " ++ orderId)))
        | some order =>
            if order.customerId ≠ some user.id then
              .done (.error (.badRequest "You cannot pay for this order."))
            else
              .read fun db =>
                match db.paymentOf? order.id with
                | some _ => .done (.error (.badRequest "Order is already paid."))
                | none =>
                    .write fun db =>
                      match paymentMapping.save db.acceptsPayment call.generated db.payments
                          (paymentEntity call.body user order) with
                      | none => (db, .error queryFailed)
                      | some (payment, payments) =>
                          ({ db with payments }, .ok (.payment payment))
    else .done (.error (.badRequest "Bad Request Exception"))

/-- `createReview`: the order with its restaurant, then its review, then the insert. -/
def reviewProgram (userId : String) (body : Fields) (env : CatalogueEnv) : OrderProgram :=
  guarded userId (some [.client]) fun user =>
    if validCreateReview body then
      .read fun db =>
        let orderId := (body.readString "orderId").getD ""
        match db.orders.find? orderId with
        | none => .done (.error (.notFound "Not found"))
        | some order =>
            if order.customerId ≠ some user.id then
              .done (.error (.badRequest "You can only review your own orders."))
            else
              match order.restaurantId.bind db.restaurant? with
              | none => .done (.error (.internal "Cannot read properties of null (reading 'id')"))
              | some restaurant =>
                  if restaurant.id ≠ (body.readString "restaurantId").getD "" then
                    .done (.error (.badRequest "Order does not match restaurant."))
                  else if order.status ≠ .delivered then
                    .done (.error
                      (.badRequest "You can only review after delivery is complete."))
                  else
                    .read fun db =>
                      match db.reviewOf? orderId with
                      | some _ =>
                          .done (.error (.conflict "You have already reviewed this order."))
                      | none =>
                          .write fun db =>
                            match (if env.fails then none else saveReview db env.generated
                              (reviewEntity body user restaurant order)) with
                            | none => (db, .error queryFailed)
                            | some (row, db') => (db', .ok (.review (.review row)))
    else .done (.error (.badRequest "Validation failed"))

/-- The one statement of the cleanup job. -/
def cronProgram (dayBefore : Time → Time) (now : Time) : OrderProgram :=
  .write fun db =>
    match handleCron dayBefore now db with
    | .error e => (db, .error e)
    | .ok db' => (db', .ok .done)

def Traffic.program (dayBefore : Time → Time) : Traffic → OrderProgram
  | .createOrder userId dto env => createOrderProgram userId dto env
  | .editOrderStatus userId orderId status faults => editOrderProgram userId orderId status faults
  | .createPayment call => paymentProgram call
  | .createReview userId body env => reviewProgram userId body env
  | .cron now => cronProgram dayBefore now

/-! ### A program on its own -/

/-- What a member's request is as traffic. -/
def MemberRequest.traffic (userId : String) : MemberRequest → Option Traffic
  | .createOrder dto env => some (.createOrder userId dto env)
  | .editOrderStatus orderId status faults => some (.editOrderStatus userId orderId status faults)
  | .createPayment body generated => some (.createPayment ⟨userId, body, generated⟩)
  | .review (.createReview body) env => some (.createReview userId body env)
  | _ => none

section Alone

variable {db : Db} {user : UserRow}

theorem alone_guarded {roles : Option (List Role)} {next : UserRow → OrderProgram}
    (known : db.user? user.id = some user) (role : rolesGuard roles user = true) :
    (guarded user.id roles next).alone db = (next user).alone db := by
  simp only [guarded, Program.alone_read, known, role, if_true]

theorem alone_createOrder {dto : CreateOrderDto} {env : CreateOrderEnv}
    (known : db.user? user.id = some user) (client : rolesGuard (some [.client]) user = true) :
    (createOrderProgram user.id dto env).alone db =
      ((orderStep db (.createOrder user.id dto env)).1,
        (orderStep db (.createOrder user.id dto env)).2.result.map .order) := by
  simp only [createOrderProgram, alone_guarded known client, Program.alone_read, orderStep, known,
    createOrder, transactional, createOrderBody]
  cases assembleOrder db user dto with
  | error e => rfl
  | ok order =>
      cases saves : env.faults.save with
      | true => simp [Except.map]
      | false =>
          cases saved : saveNewOrder db env order <;> cases env.faults.commit <;>
            simp [saved, Except.map]

theorem alone_editOrder {orderId : String} {status : OrderStatus} {faults : Faults}
    (known : db.user? user.id = some user) :
    (editOrderProgram user.id orderId status faults).alone db =
      ((orderStep db (.editOrderStatus user.id orderId status faults)).1,
        (orderStep db (.editOrderStatus user.id orderId status faults)).2.result.map .order) := by
  have anyone : rolesGuard none user = true := rfl
  simp only [editOrderProgram, alone_guarded known anyone, Program.alone_read, orderStep, known,
    editOrderStatus, transactional, editOrderStatusBody]
  cases loadOrder db orderId with
  | none => rfl
  | some order =>
      simp only
      cases applyEdit user order status with
      | error e => rfl
      | ok edited => cases faults.save <;> cases faults.commit <;> rfl

theorem alone_payment {body : Fields} {generated : String} (known : db.user? user.id = some user)
    (client : rolesGuard (some [.client]) user = true) :
    (paymentProgram ⟨user.id, body, generated⟩).alone db =
      ((paymentService.step db ⟨user.id, body, generated⟩).1,
        (paymentService.step db ⟨user.id, body, generated⟩).2.map .payment) := by
  have role : user.role = .client := rolesGuard_client.mp client
  simp only [paymentProgram, alone_guarded known client, paymentService, createPayment, known,
    role, ne_eq, not_true_eq_false, if_false]
  cases valid : validPayment body with
  | false => rfl
  | true =>
      simp only [if_true, Program.alone_read, processPayment]
      cases db.orders.find? ((body.readString "orderId").getD "") with
      | none => rfl
      | some order =>
          simp only
          by_cases own : order.customerId = some user.id
          · simp only [own, ne_eq, not_true_eq_false, if_false, Program.alone_read]
            cases db.paymentOf? order.id with
            | some payment => rfl
            | none =>
                simp only [Program.alone_write]
                cases paymentMapping.save db.acceptsPayment generated db.payments
                  (paymentEntity body user order) <;> rfl
          · simp only [own, ne_eq, not_false_eq_true, if_true]
            rfl

theorem alone_review {body : Fields} {env : CatalogueEnv} (known : db.user? user.id = some user)
    (client : rolesGuard (some [.client]) user = true) :
    (reviewProgram user.id body env).alone db =
      ((reviewService.step db ⟨user.id, .createReview body, env⟩).1,
        (reviewService.step db ⟨user.id, .createReview body, env⟩).2.map .review) := by
  have role : user.role = .client := rolesGuard_client.mp client
  simp only [reviewProgram, alone_guarded known client, reviewService, admitReview, known, role,
    ne_eq, not_true_eq_false, if_false, ReviewRequest.valid]
  by_cases valid : validCreateReview body = true
  · simp only [valid, if_true, Program.alone_read, handleReview, createReview, reviewToCreate]
    cases db.orders.find? ((body.readString "orderId").getD "") with
    | none => rfl
    | some order =>
        simp only
        by_cases own : order.customerId = some user.id
        · simp only [own, ne_eq, not_true_eq_false, if_false]
          cases order.restaurantId.bind db.restaurant? with
          | none => rfl
          | some restaurant =>
              simp only
              by_cases named : restaurant.id = (body.readString "restaurantId").getD ""
              · simp only [named, not_true_eq_false, if_false]
                by_cases delivered : order.status = .delivered
                · simp only [delivered, not_true_eq_false, if_false, Program.alone_read]
                  cases db.reviewOf? ((body.readString "orderId").getD "") with
                  | some review => rfl
                  | none =>
                      simp only [Program.alone_write, operation]
                      cases (if env.fails then none else saveReview db env.generated
                        (reviewEntity body user restaurant order)) <;> rfl
                · simp only [delivered, not_false_eq_true, if_true]
                  rfl
              · simp only [named, not_false_eq_true, if_true]
                rfl
        · simp only [own, ne_eq, not_false_eq_true, if_true]
          rfl
  · simp only [valid]
    rfl

end Alone

/-- A program on its own is what the server makes of the request. -/
theorem alone_member {deployment : Deployment} {s : ServerState} {now : Time}
    {authHeader : Option String} {request : MemberRequest} {user : UserRow} {traffic : Traffic}
    (admitted : admitMember deployment s now authHeader request = .ok user)
    (same : request.traffic user.id = some traffic) :
    (traffic.program deployment.dayBefore).alone s.db =
      ((serveMember deployment s user authHeader request).1.db,
        (serveMember deployment s user authHeader request).2.result) := by
  obtain ⟨known, role, -⟩ := admitMember_eq_ok admitted
  cases request with
  | createOrder dto env =>
      cases same
      exact alone_createOrder known role
  | editOrderStatus orderId status faults =>
      cases same
      exact alone_editOrder known
  | createPayment body generated =>
      cases same
      exact alone_payment known role
  | review request env =>
      cases request with
      | createReview body =>
          cases same
          exact alone_review known role
      | updateReview | deleteReview => cases same
  | signOut | updateUser | getUser | createCategory | catalogue => cases same

/-! ### What everybody keeps -/

/-- What requests about orders make of the store, whoever else is at work: orders that have
been started, payments and reviews stay. -/
structure Onward (db db' : Db) : Prop where
  users : db'.users = db.users
  restaurants : db'.restaurants = db.restaurants
  dishes : db'.dishes = db.dishes
  started : ∀ id order, db.orders.find? id = some order → order.status ≠ .pending →
    ∃ later, db'.orders.find? id = some later ∧ later.status ≠ .pending
  payments : ∀ payment ∈ db.payments.rows, payment ∈ db'.payments.rows
  reviews : ∀ review ∈ db.reviews.rows, review ∈ db'.reviews.rows

theorem Onward.refl (db : Db) : Onward db db :=
  ⟨rfl, rfl, rfl, fun _ order found started => ⟨order, found, started⟩, fun _ mem => mem,
    fun _ mem => mem⟩

theorem Onward.trans {a b c : Db} (first : Onward a b) (second : Onward b c) : Onward a c := by
  refine ⟨second.users.trans first.users, second.restaurants.trans first.restaurants,
    second.dishes.trans first.dishes, ?_, fun p mem => second.payments p (first.payments p mem),
    fun r mem => second.reviews r (first.reviews r mem)⟩
  intro id order found started
  obtain ⟨between, found', started'⟩ := first.started id order found started
  exact second.started id between found' started'

/-- Who has ordered, and where, by the id of the order. An order in memory may have been
deleted, but there is never another one of its id. -/
abbrev Registry := String → String × String

def Registered (registry : Registry) (db : Db) : Prop :=
  ∀ order ∈ db.orders.rows, order.customerId = some (registry order.id).1 ∧
    order.restaurantId = some (registry order.id).2

/-- Requests about orders keep the store sound. -/
def orderly (registry : Registry) : Discipline Db where
  Inv db := Sound db ∧ Registered registry db
  Moves := Onward
  refl := .refl
  trans := .trans

/-- The rows that an answer speaks of are there. -/
def Stored : Except ApiError ServerAnswer → Db → Prop
  | .ok (.payment row), db => row ∈ db.payments.rows
  | .ok (.review (.review row)), db => row ∈ db.reviews.rows
  | _, _ => True

section Keeps

variable {registry : Registry} {db t t' : Db} {user : UserRow}

theorem Registered.of_same {db' : Db} (registered : Registered registry db)
    (orders : db'.orders = db.orders) : Registered registry db' := by
  intro order mem
  rw [orders] at mem
  exact registered order mem

/-- Two rows of one order at two moments. -/
theorem Registered.same {db' : Db} (before : Registered registry db)
    (after : Registered registry db') {id : String} {order later : OrderRow}
    (found : db.orders.find? id = some order) (found' : db'.orders.find? id = some later) :
    later.customerId = order.customerId ∧ later.restaurantId = order.restaurantId := by
  obtain ⟨customer, place⟩ := before order (Table.mem_of_find? found)
  obtain ⟨customer', place'⟩ := after later (Table.mem_of_find? found')
  rw [Table.key_of_find? found] at customer place
  rw [Table.key_of_find? found'] at customer' place'
  exact ⟨customer'.trans customer.symm, place'.trans place.symm⟩

/-- What a write has to be shown to keep. -/
structure Keeps (registry : Registry) (t t' : Db) : Prop where
  onward : Onward t t'
  sound : Sound t'
  registered : Registered registry t'

theorem Keeps.refl (sound : Sound t) (registered : Registered registry t) : Keeps registry t t :=
  ⟨.refl t, sound, registered⟩

/-- The save of a new order. The restaurant and the dishes are still as they were read. -/
theorem keeps_new {dto : CreateOrderDto} {env : CreateOrderEnv} {order : NewOrder}
    (sound : Sound t) (registered : Registered registry t)
    (known : t.users.find? user.id = some user) (client : user.role = .client)
    (assembled : assembleOrder t user dto = .ok order)
    (saved : saveNewOrder t env order = some t')
    (mine : registry env.orderId = (user.id, dto.restaurantId)) : Keeps registry t t' := by
  have sound' := sound.write known (write_of_saveNewOrder client assembled saved)
  obtain ⟨restaurant, made, found, -, rfl⟩ := assembleOrder_eq_ok.mp assembled
  obtain ⟨total, orders, orderItems, rfl, inserted, -⟩ := saveNewOrder_eq_some saved
  refine ⟨⟨rfl, rfl, rfl, ?_, fun _ mem => mem, fun _ mem => mem⟩, sound', ?_⟩
  · intro id order stored started
    have other : id ≠ env.orderId := by
      rintro rfl
      rw [show t.orders.find? env.orderId = none from (Table.insert_eq_some inserted).1] at stored
      cases stored
    exact ⟨order, by rw [Table.find?_insert inserted]; exact (if_neg other).trans stored, started⟩
  · intro order mem
    rw [show orders.rows = _ from (Table.insert_eq_some inserted).2, List.mem_append,
      List.mem_singleton] at mem
    rcases mem with old | rfl
    · exact registered order old
    · change some user.id = some (registry env.orderId).1 ∧
        some restaurant.id = some (registry env.orderId).2
      rw [mine, Db.restaurant?_id found]
      exact ⟨rfl, rfl⟩

/-- The save of a status change, over whatever is there by now. -/
theorem keeps_edit {order edited : LoadedOrder} {status : OrderStatus} (sound : Sound t)
    (registered : Registered registry t) (known : t.users.find? user.id = some user)
    (edit : Edit user order status edited)
    (columns : edited.columns = order.row.edited user.id status) :
    Keeps registry t (saveOrder t order.row edited.columns) := by
  have asked : status ≠ .pending ∧ (status = .pickedUp → user.role = .delivery) := by
    cases edit with
    | owner _ _ _ asked => rcases asked with rfl | rfl <;> simp
    | pickedUp role => exact ⟨by simp, fun _ => role⟩
    | delivered => simp
  cases found : t.orders.find? order.row.id with
  | none =>
      have same : saveOrder t order.row edited.columns = t := by
        rw [saveOrder, Table.modify_self fun row here => by rw [found] at here; cases here]
      rw [same]
      exact .refl sound registered
  | some current =>
      have puts : t.orders.Puts (OrderRow.overwrite order.row edited.columns current)
          (saveOrder t order.row edited.columns).orders := by
        intro k
        rw [saveOrder_find?, found, OrderRow.overwrite_id, Table.key_of_find? found]
        rfl
      have row : OrderRow.overwrite order.row edited.columns current =
          { current with
            status := saveColumn order.row.status status current.status
            driverId := saveColumn order.row.driverId
              (if status = .pickedUp then some user.id else order.row.driverId)
              current.driverId } := by
        rw [columns]
        simp [OrderRow.overwrite, OrderRow.edited]
      rw [row] at puts
      have started : current.status ≠ .pending →
          saveColumn order.row.status status current.status ≠ .pending := by
        rcases @saveColumn_cases _ _ order.row.status status current.status with kept | saved
        · rw [kept]
          exact id
        · rw [saved]
          exact fun _ => asked.1
      have stored : t.orders.find? current.id = some current := by
        rw [Table.key_of_find? found, found]
      refine ⟨⟨rfl, rfl, rfl, ?_, fun _ mem => mem, fun _ mem => mem⟩, ?_, ?_⟩
      · intro k row here begun
        by_cases same : k = current.id
        · rw [same, stored, Option.some.injEq] at here
          subst here
          exact ⟨_, (puts k).trans (if_pos same), started begun⟩
        · exact ⟨row, ((puts k).trans (if_neg same)).trans here, begun⟩
      · refine sound.order_put stored puts rfl rfl rfl (fun k here => ?_) started
        simp only at here
        by_cases picked : status = .pickedUp
        · rw [if_pos picked] at here
          rcases @saveColumn_cases _ _ order.row.driverId (some user.id) current.driverId
            with kept | saved
          · exact .inl (kept.symm.trans here)
          · have mine := saved.symm.trans here
            rw [Option.some.injEq] at mine
            exact .inr ⟨user, by rw [← mine, known], asked.2 picked⟩
        · rw [if_neg picked, saveColumn_unchanged] at here
          exact .inl here
      · intro row mem
        rcases puts.mem.mp mem with rfl | ⟨old, -⟩
        · exact registered current (Table.mem_of_find? found)
        · exact registered row old

/-- The insert of a payment that was found to be of the user's order. -/
theorem keeps_payment {id : String} {order : OrderRow} {row : PaymentRow}
    {payments : Table String PaymentRow PaymentRow.id} (sound : Sound t)
    (registered : Registered registry t) (before : Registered registry db)
    (known : t.users.find? user.id = some user) (client : user.role = .client)
    (found : db.orders.find? id = some order) (own : order.customerId = some user.id)
    (inserts : InsertsPayment t user order row payments) :
    Keeps registry t { t with payments } := by
  obtain ⟨stored, there⟩ := inserts.there
  rw [Table.key_of_find? found] at there
  obtain ⟨customer, place⟩ := before.same registered found there
  have new := (Table.insert_eq_some inserts.inserted).1
  have puts := Table.puts_insert inserts.inserted
  refine ⟨⟨rfl, rfl, rfl, fun id order here begun => ⟨order, here, begun⟩, fun payment mem => ?_,
    fun _ mem => mem⟩, ?_, registered.of_same rfl⟩
  · rw [(Table.insert_eq_some inserts.inserted).2]
    exact List.mem_append_left _ mem
  · refine sound.write known (.payment client inserts.payer ?_ (customer.trans own)
      (place.trans inserts.place) new inserts.unpaid puts)
    rw [inserts.ofOrder, Table.key_of_find? found, there]

/-- The insert of a review of an order that was found to be the user's and delivered. -/
theorem keeps_review {id : String} {order : OrderRow} {restaurant : RestaurantRow}
    {row : ReviewRow} {reviews : Table String ReviewRow ReviewRow.id} (sound : Sound t)
    (registered : Registered registry t) (before : Registered registry db)
    (onward : Onward db t) (found : db.orders.find? id = some order)
    (own : order.customerId = some user.id) (place : order.restaurantId = some restaurant.id)
    (delivered : order.status = .delivered)
    (inserts : InsertsReview t user restaurant order row reviews) :
    Keeps registry t { t with reviews } := by
  obtain ⟨later, there, started⟩ := onward.started id order found (by simp [delivered])
  obtain ⟨customer', place'⟩ := before.same registered found there
  have same : later.id = order.id :=
    (Table.key_of_find? there).trans (Table.key_of_find? found).symm
  refine ⟨⟨rfl, rfl, rfl, fun id order here begun => ⟨order, here, begun⟩, fun _ mem => mem,
    fun review mem => ?_⟩, ?_, registered.of_same rfl⟩
  · rw [(Table.insert_eq_some inserts.inserted).2]
    exact List.mem_append_left _ mem
  · refine sound.review_put (Table.find?_of_mem (Table.mem_of_find? there)) ?_ ?_ ?_ started
      inserts.unreviewed (Table.puts_insert inserts.inserted)
    · rw [inserts.ofOrder, same]
    · rw [inserts.author, customer', own]
    · rw [inserts.place, place', place]

/-- A run of the cleanup job. -/
theorem keeps_cron {dayBefore : Time → Time} {now : Time} (sound : Sound t)
    (registered : Registered registry t) (deleted : handleCron dayBefore now t = .ok t') :
    Keeps registry t t' := by
  obtain ⟨users, -, restaurants, dishes, payments⟩ := deleteOrders_static deleted
  refine ⟨⟨users, restaurants, dishes, fun id order here begun => ⟨order, ?_, begun⟩, ?_, ?_⟩,
    sound.cron deleted, fun order mem => ?_⟩
  · rw [deleteOrders_find? deleted, here, Option.filter_some, if_pos]
    simp [Stale, begun]
  · rw [payments]
    exact fun _ mem => mem
  · rw [sound.cron_reviews deleted]
    exact fun _ mem => mem
  · rw [deleteOrders_orders deleted] at mem
    exact registered order (Table.mem_filter.mp mem).1

end Keeps

/-! ### Every program keeps it -/

section Programs

variable {registry : Registry} {db : Db} {dayBefore : Time → Time}

theorem guards_refused {e : ApiError} :
    (Program.done (.error e)).Guards (orderly registry) Stored db :=
  Program.guards_done fun _ _ _ => trivial

/-- A write that keeps the store orderly and stores what it answers. -/
theorem guards_write_keeps {run : Db → Db × Except ApiError ServerAnswer}
    (writes : ∀ t, Onward db t → Sound t → Registered registry t →
      Keeps registry t (run t).1 ∧ Stored (run t).2 (run t).1) :
    (Program.write run).Guards (orderly registry) Stored db := by
  refine Program.guards_write ?_
  rintro t onward ⟨sound, registered⟩
  obtain ⟨⟨moves, sound', registered'⟩, stored⟩ := writes t onward sound registered
  refine ⟨moves, ⟨sound', registered'⟩, fun u later _ => ?_⟩
  generalize (run t).2 = answer at stored
  match answer, stored with
  | .ok (.payment row), stored => exact later.payments row stored
  | .ok (.review (.review row)), stored => exact later.reviews row stored
  | .error _, _ | .ok .done, _ | .ok (.tokens _), _ | .ok (.profile _), _
  | .ok (.category _), _ | .ok (.catalogue _), _ | .ok (.order _), _
  | .ok (.review .success), _ => trivial

/-- Behind the guards the user is a stored one with a role of the route. -/
theorem guards_guarded {userId : String} {roles : Option (List Role)}
    {next : UserRow → OrderProgram}
    (guards : ∀ user t, Sound t → Registered registry t → t.user? user.id = some user →
      user.id = userId → rolesGuard roles user = true →
      (next user).Guards (orderly registry) Stored t) :
    (guarded userId roles next).Guards (orderly registry) Stored db := by
  refine Program.guards_read ?_
  rintro t _ ⟨sound, registered⟩
  split
  · exact guards_refused
  · rename_i user known
    split_ifs with role
    · have id := Db.user?_id known
      exact guards user t sound registered (by rw [id, known]) id role
    · exact guards_refused

/-- The user of a request is still there when it writes. -/
theorem Onward.known {t : Db} {user : UserRow} (onward : Onward db t)
    (known : db.user? user.id = some user) : t.users.find? user.id = some user := by
  rw [onward.users]
  exact (Db.user?_eq_some.mp known).1

theorem guards_createOrder {userId : String} {dto : CreateOrderDto} {env : CreateOrderEnv}
    (mine : registry env.orderId = (userId, dto.restaurantId)) :
    (createOrderProgram userId dto env).Guards (orderly registry) Stored db := by
  refine guards_guarded fun user t sound registered known id role => ?_
  subst id
  refine Program.guards_read fun t' onward _ => ?_
  split
  · exact guards_refused
  · rename_i order assembled
    refine guards_write_keeps fun u later sound registered => ?_
    split
    · exact ⟨.refl sound registered, trivial⟩
    · rename_i after saved
      split_ifs at saved with faults
      refine ⟨keeps_new sound registered ((onward.trans later).known known)
        (rolesGuard_client.mp role) ?_ saved mine, trivial⟩
      -- The restaurant and the dishes are still as they were read.
      rw [← assembled]
      simp only [assembleOrder, Db.restaurant?, dishesOf, later.restaurants, later.dishes]

theorem guards_editOrder {userId orderId : String} {status : OrderStatus} {faults : Faults} :
    (editOrderProgram userId orderId status faults).Guards (orderly registry) Stored db := by
  refine guards_guarded fun user t _ _ known _ _ => ?_
  refine Program.guards_read ?_
  rintro t' onward ⟨sound, _⟩
  split
  · exact guards_refused
  · rename_i order loaded
    split
    · exact guards_refused
    · rename_i edited applied
      have edit := applyEdit_eq_ok.mp applied
      have columns := edit_columns (sound.linked.driver_id loaded)
        (sound.linked.restaurant_id loaded) edit
      refine guards_write_keeps fun u later sound registered => ?_
      split_ifs with failed
      · exact ⟨.refl sound registered, trivial⟩
      · exact ⟨keeps_edit sound registered ((onward.trans later).known known) edit columns,
          trivial⟩

theorem guards_payment {call : PaymentCall} (declared : Declared call.body) :
    (paymentProgram call).Guards (orderly registry) Stored db := by
  refine guards_guarded fun user t _ _ known _ role => ?_
  split_ifs with valid
  · refine Program.guards_read ?_
    rintro t' onward ⟨_, before⟩
    simp only
    split
    · exact guards_refused
    · rename_i order found
      split_ifs with own
      · exact guards_refused
      · refine Program.guards_read fun u later _ => ?_
        split
        · exact guards_refused
        · refine guards_write_keeps fun v last sound registered => ?_
          split
          · exact ⟨.refl sound registered, trivial⟩
          · rename_i payment payments saved
            have inserts := payment_inserted declared saved
            refine ⟨keeps_payment sound registered before
              (((onward.trans later).trans last).known known) (rolesGuard_client.mp role) found
              (not_not.mp own) inserts, ?_⟩
            rw [Stored, (Table.insert_eq_some inserts.inserted).2]
            exact List.mem_append_right _ (List.mem_singleton.mpr rfl)
  · exact guards_refused

theorem guards_review {userId : String} {body : Fields} {env : CatalogueEnv} :
    (reviewProgram userId body env).Guards (orderly registry) Stored db := by
  refine guards_guarded fun user t _ _ known _ role => ?_
  by_cases valid : validCreateReview body = true
  · rw [if_pos valid]
    refine Program.guards_read ?_
    rintro t' _ ⟨_, before⟩
    simp only
    split
    · exact guards_refused
    · rename_i order found
      by_cases own : order.customerId = some user.id
      · rw [if_neg (not_not.mpr own)]
        split
        · exact guards_refused
        · rename_i restaurant loaded
          by_cases named : restaurant.id = (body.readString "restaurantId").getD ""
          · by_cases delivered : order.status = .delivered
            · rw [if_neg (not_not.mpr named), if_neg (not_not.mpr delivered)]
              refine Program.guards_read fun u later _ => ?_
              split
              · exact guards_refused
              · refine guards_write_keeps fun v last sound registered => ?_
                split
                · exact ⟨.refl sound registered, trivial⟩
                · rename_i row after saved
                  split_ifs at saved with failed
                  obtain ⟨reviews, inserts, rfl⟩ := review_inserted saved
                  obtain ⟨restaurantId, here, there⟩ := Option.bind_eq_some_iff.mp loaded
                  have place : order.restaurantId = some restaurant.id := by
                    rw [here, Db.restaurant?_id there]
                  refine ⟨keeps_review sound registered before (later.trans last) found own place
                    delivered inserts, ?_⟩
                  rw [Stored, (Table.insert_eq_some inserts.inserted).2]
                  exact List.mem_append_right _ (List.mem_singleton.mpr rfl)
            · rw [if_neg (not_not.mpr named), if_pos delivered]
              exact guards_refused
          · rw [if_pos named]
            exact guards_refused
      · rw [if_pos own]
        exact guards_refused
  · rw [if_neg valid]
    exact guards_refused

theorem guards_cron {now : Time} :
    (cronProgram dayBefore now).Guards (orderly registry) Stored db := by
  refine guards_write_keeps fun t _ sound registered => ?_
  split
  · exact ⟨.refl sound registered, trivial⟩
  · rename_i after deleted
    exact ⟨keeps_cron sound registered deleted, trivial⟩

/-- A body with nothing but what can be given of a payment. -/
def Traffic.Declared : Traffic → Prop
  | .createPayment call => CoupangEats.Declared call.body
  | .createOrder _ _ _ | .editOrderStatus _ _ _ _ | .createReview _ _ _ | .cron _ => True

theorem guards_traffic {traffic : Traffic} (declared : traffic.Declared)
    (mine : ∀ userId dto env, traffic = .createOrder userId dto env →
      registry env.orderId = (userId, dto.restaurantId)) :
    (traffic.program dayBefore).Guards (orderly registry) Stored db := by
  cases traffic with
  | createOrder userId dto env => exact guards_createOrder (mine userId dto env rfl)
  | editOrderStatus => exact guards_editOrder
  | createPayment call => exact guards_payment declared
  | createReview => exact guards_review
  | cron => exact guards_cron

end Programs

/-! ### All of them at once -/

section Together

variable {ι : Type} {requests : ι → Traffic} {db : Db}

/-- The ids that new orders get are new, and different ones. -/
structure FreshOrders (requests : ι → Traffic) (db : Db) : Prop where
  new : ∀ i userId dto env, requests i = .createOrder userId dto env →
    db.orders.find? env.orderId = none
  distinct : ∀ i j userId dto env userId' dto' env', requests i = .createOrder userId dto env →
    requests j = .createOrder userId' dto' env' → env.orderId = env'.orderId → i = j

/-- Then it can be said of every id who orders under it, and where. -/
theorem exists_registry (sound : Sound db) (fresh : FreshOrders requests db) :
    ∃ registry : Registry, Registered registry db ∧
      ∀ i userId dto env, requests i = .createOrder userId dto env →
        registry env.orderId = (userId, dto.restaurantId) := by
  have each (id : String) : ∃ parties : String × String,
      (∀ order, db.orders.find? id = some order → order.customerId = some parties.1 ∧
        order.restaurantId = some parties.2) ∧
      ∀ i userId dto env, requests i = .createOrder userId dto env → env.orderId = id →
        parties = (userId, dto.restaurantId) := by
    by_cases asked : ∃ i userId dto env, requests i = .createOrder userId dto env ∧
        env.orderId = id
    · obtain ⟨i, userId, dto, env, request, rfl⟩ := asked
      refine ⟨(userId, dto.restaurantId), fun order found => ?_, ?_⟩
      · rw [fresh.new i userId dto env request] at found
        cases found
      · intro j userId' dto' env' request' same
        obtain rfl := fresh.distinct _ _ _ _ _ _ _ _ request request' same.symm
        rw [request, Traffic.createOrder.injEq] at request'
        obtain ⟨rfl, rfl, rfl⟩ := request'
        rfl
    · cases stored : db.orders.find? id with
      | none =>
          refine ⟨("", ""), by simp, fun i userId dto env request same => ?_⟩
          exact absurd ⟨i, userId, dto, env, request, same⟩ asked
      | some order =>
          obtain ⟨customer, place⟩ := sound.complete order (Table.mem_of_find? stored)
          obtain ⟨customer, ordered⟩ := Option.isSome_iff_exists.mp customer
          obtain ⟨place, located⟩ := Option.isSome_iff_exists.mp place
          refine ⟨(customer, place), fun other found => ?_, fun i userId dto env request same => ?_⟩
          · cases found
            exact ⟨ordered, located⟩
          · exact absurd ⟨i, userId, dto, env, request, same⟩ asked
  choose registry registered mine using each
  refine ⟨registry, fun order mem => registered _ order (Table.find?_of_mem mem), ?_⟩
  exact fun i userId dto env request => mine _ i userId dto env request rfl

end Together

inductive LateRequest where
  | pays
  | cleans
  | orders
  deriving DecidableEq

/-- The client pays for the lunch and orders a dinner while the cleanup job runs. -/
def LateRequest.traffic : LateRequest → Traffic
  | .pays => .createPayment
      ⟨"client", [("transactionId", .str "1"), ("orderId", .str "lunch")], "payment"⟩
  | .cleans => .cron 172800000
  | .orders => .createOrder "client" ⟨"kimbap", []⟩ ⟨"dinner", fun _ => "item", 172800000, .none⟩

/-- The job deletes the lunch between the look at its payment and the insert of one. -/
def lateSchedule : List (LateRequest × Unit) :=
  [(.pays, ()), (.orders, ()), (.pays, ()), (.pays, ()), (.orders, ()), (.cleans, ()),
    (.orders, ()), (.pays, ())]

end CoupangEats
