import CoupangEats.Base.Interleave
import CoupangEats.Order.Calls
import CoupangEats.Order.Cron
import Mathlib.Data.List.Permutation

/-!
Concurrent status changes and the cleanup job.

Any number of `editOrderStatus` requests and cleanup runs that concern one order
are threads on the store: a request reads and checks in one step and saves in
another, the job is one statement. `serial` executes whole requests one after
another.

The save writes the columns that differ from the row that was read, over
whatever row is there by then. A run is serializable when every save that has
something to write still finds what it builds on (`WritesCurrent`): the order
itself, the requested status where the save leaves the status out, and the
driver where the request is that driver's own (`race_serializable`). A request
takes effect when it saves; one that is refused, or that has nothing to write,
takes effect when it reads.
-/

namespace CoupangEats

open CoupangEats.Base

/-- A request that concerns the order of the race. -/
inductive RaceRequest where
  | editOrderStatus (userId : String) (status : OrderStatus)
  | handleCron (now : Time)

/-- How far a request has got; `accepted` is its answer. -/
inductive Phase where
  | ready
  | read (user : UserRow) (order edited : LoadedOrder)
  | done (accepted : Bool)

/-- The answer of a request that is done. -/
def Phase.answer : Phase → Option Bool
  | .done accepted => some accepted
  | _ => none

section Threads

variable {ι : Type} (dayBefore : Time → Time) (orderId : String) (requests : ι → RaceRequest)

/-- One step of a request: the transaction's read with its checks, its write
with the commit, or the job's statement. -/
def raceStep : ThreadStep ι Unit Db Phase
  | i, _, db, .ready =>
      match requests i with
      | .handleCron now =>
          match handleCron dayBefore now db with
          | .error _ => (db, .done false)
          | .ok db' => (db', .done true)
      | .editOrderStatus userId status =>
          match db.user? userId with
          | none => (db, .done false)
          | some user =>
              match loadOrder db orderId with
              | none => (db, .done false)
              | some order =>
                  match applyEdit user order status with
                  | .error _ => (db, .done false)
                  | .ok edited => (db, .read user order edited)
  | _, _, db, .read _ order edited => (saveOrder db order.row edited.columns, .done true)
  | _, _, db, .done accepted => (db, .done accepted)

/-- Whole requests, one after another. -/
def serial : Machine Db ι Bool where
  step db i :=
    match requests i with
    | .handleCron now =>
        match handleCron dayBefore now db with
        | .error _ => (db, false)
        | .ok db' => (db', true)
    | .editOrderStatus userId status =>
        let out := orderStep db (.editOrderStatus userId orderId status .none)
        (out.1, out.2.result.isOk)

/-- The start of a race: no request has done anything. -/
def raceStart (db : Db) : Config ι Db Phase := ⟨db, fun _ => .ready⟩

variable [DecidableEq ι]

/-- The interleavings of the requests. -/
abbrev race : Machine (Config ι Db Phase) (ι × Unit) Unit :=
  interleave (raceStep dayBefore orderId requests)

/-- The accepted requests and the final store are those of a serial execution of
the same requests. -/
def Serializable (db : Db) (schedule : List (ι × Unit)) : Prop :=
  let final := (race dayBefore orderId requests).run (raceStart db) schedule
  ∃ order : List ι, order.Nodup ∧ (∀ i, i ∈ order) ∧
    (serial dayBefore orderId requests).run db order = final.store ∧
    ∀ e ∈ (serial dayBefore orderId requests).history db order,
      (final.locals e.input).answer = some e.output

end Threads

/-- The condition on a step and the state it meets: a save that has something to
write finds the order, with the status it leaves out because it is the requested
one already, and with the driver that the request's delivery user was. -/
def WritesCurrent {ι : Type} (orderId : String) (c : Config ι Db Phase) (i : ι) : Prop :=
  ∀ user order edited, c.locals i = .read user order edited → edited.columns ≠ order.row →
    ∃ current, c.store.orders.find? orderId = some current ∧
      (edited.row.status = order.row.status → current.status = order.row.status) ∧
      (user.role = .delivery → order.row.driverId = some user.id →
        current.driverId = some user.id)

/-! ### Saves over a changed row -/

/-- A save over a row that has changed since it was read stores what the request
makes of the changed row, as long as the columns it leaves out agree. -/
theorem overwrite_edited {row current : OrderRow} {userId : String} {status : OrderStatus}
    (statusKept : status = row.status → current.status = row.status)
    (driverKept : status = .pickedUp → row.driverId = some userId →
      current.driverId = some userId) :
    OrderRow.overwrite row (row.edited userId status) current = current.edited userId status := by
  simp only [OrderRow.overwrite, OrderRow.edited, saveColumn_unchanged, OrderRow.mk.injEq,
    true_and, and_true]
  refine ⟨saveColumn_eq fun same => (statusKept same).trans same.symm, ?_⟩
  by_cases picked : status = .pickedUp
  · simp only [picked, if_true]
    exact saveColumn_eq fun same => driverKept picked same.symm
  · simp only [picked, if_false, saveColumn_unchanged]

theorem saveOrder_self (db : Db) (row : OrderRow) : saveOrder db row row = db := by
  simp only [saveOrder]
  rw [Table.modify_self fun current _ => by simp [OrderRow.overwrite]]

section Steps

variable {ι : Type} {dayBefore : Time → Time} {orderId : String} {requests : ι → RaceRequest}

/-- What the order of a request in flight keeps to do with the store: its
relations are those of the row it was read from, and the row there now, if any,
is of the same restaurant. -/
structure Snapshot (db : Db) (orderId : String) (order : LoadedOrder) : Prop where
  id : order.row.id = orderId
  driver : order.driver.map UserRow.id = order.row.driverId
  restaurant : order.restaurant = order.row.restaurantId.bind db.restaurant?
  restaurantId : order.restaurant.map RestaurantRow.id = order.row.restaurantId
  current : ∀ row, db.orders.find? orderId = some row → row.restaurantId = order.row.restaurantId

theorem snapshot_of_load {db : Db} {order : LoadedOrder} (linked : Linked db)
    (loaded : loadOrder db orderId = some order) : Snapshot db orderId order where
  id := Table.key_of_find? (loadOrder_row loaded)
  driver := linked.driver_id loaded
  restaurant := loadOrder_restaurant loaded
  restaurantId := linked.restaurant_id loaded
  current row found := by
    rw [loadOrder_row loaded, Option.some.injEq] at found
    rw [found]

/-- A request in flight: who has asked for what, and that it passed the checks. -/
structure InFlight (db : Db) (orderId : String) (request : RaceRequest) (user : UserRow)
    (order edited : LoadedOrder) : Prop where
  asked : ∃ userId status, request = .editOrderStatus userId status ∧
    db.user? userId = some user ∧ Edit user order status edited
  snapshot : Snapshot db orderId order

/-- Nothing that a snapshot reads has changed. -/
structure Unmoved (orderId : String) (db db' : Db) : Prop where
  users : db'.users = db.users
  restaurants : db'.restaurants = db.restaurants
  row : ∀ row', db'.orders.find? orderId = some row' →
    ∃ row, db.orders.find? orderId = some row ∧ row'.restaurantId = row.restaurantId

theorem Unmoved.inFlight {db db' : Db} {request : RaceRequest} {user : UserRow}
    {order edited : LoadedOrder} (unmoved : Unmoved orderId db db')
    (flight : InFlight db orderId request user order edited) :
    InFlight db' orderId request user order edited := by
  have husers : db'.user? = db.user? := by
    funext id
    rw [Db.user?, Db.user?, unmoved.users]
  have hrestaurants : db'.restaurant? = db.restaurant? := by
    funext id
    rw [Db.restaurant?, Db.restaurant?, unmoved.restaurants]
  obtain ⟨asked, ⟨hid, driver, restaurant, restaurantId, current⟩⟩ := flight
  refine ⟨by rwa [husers], hid, driver, by rwa [hrestaurants], restaurantId, fun row found => ?_⟩
  obtain ⟨row', found', same⟩ := unmoved.row row found
  rw [same, current row' found']

/-- What a save over the row there now stores: the driver is the one there, or
the user of the request. -/
theorem InFlight.overwrite {db : Db} {request : RaceRequest} {user : UserRow}
    {order edited : LoadedOrder} (flight : InFlight db orderId request user order edited)
    (current : OrderRow) :
    ((OrderRow.overwrite order.row edited.columns current).driverId = current.driverId ∨
        (OrderRow.overwrite order.row edited.columns current).driverId = some user.id) ∧
      (OrderRow.overwrite order.row edited.columns current).restaurantId =
        current.restaurantId := by
  obtain ⟨⟨userId, status, -, -, edit⟩, snapshot⟩ := flight
  rw [edit_columns snapshot.driver snapshot.restaurantId edit]
  simp only [OrderRow.overwrite, OrderRow.edited, saveColumn_unchanged, and_true]
  split
  · exact saveColumn_cases
  · exact .inl saveColumn_unchanged

/-- What one step of a request does. -/
inductive RaceEffect (dayBefore : Time → Time) (orderId : String) (requests : ι → RaceRequest)
    (i : ι) (db : Db) : Phase → Db → Phase → Prop where
  | cleaned {now db'} : requests i = .handleCron now → handleCron dayBefore now db = .ok db' →
      RaceEffect dayBefore orderId requests i db .ready db' (.done true)
  | refused : (serial dayBefore orderId requests).step db i = (db, false) →
      RaceEffect dayBefore orderId requests i db .ready db (.done false)
  | read {userId status user order edited} : requests i = .editOrderStatus userId status →
      db.user? userId = some user → loadOrder db orderId = some order →
      Edit user order status edited →
      RaceEffect dayBefore orderId requests i db .ready db (.read user order edited)
  | write {user order edited} :
      RaceEffect dayBefore orderId requests i db (.read user order edited)
        (saveOrder db order.row edited.columns) (.done true)
  | rest {accepted} :
      RaceEffect dayBefore orderId requests i db (.done accepted) db (.done accepted)

theorem raceStep_effect (i : ι) (db : Db) (phase : Phase) :
    RaceEffect dayBefore orderId requests i db phase
      (raceStep dayBefore orderId requests i () db phase).1
      (raceStep dayBefore orderId requests i () db phase).2 := by
  cases phase with
  | ready =>
      cases request : requests i with
      | handleCron now =>
          cases cleaned : handleCron dayBefore now db with
          | error e =>
              simp only [raceStep, request, cleaned]
              exact .refused (by simp [serial, request, cleaned])
          | ok db' =>
              simp only [raceStep, request, cleaned]
              exact .cleaned request cleaned
      | editOrderStatus userId status =>
          cases known : db.user? userId with
          | none =>
              simp only [raceStep, request, known]
              exact .refused
                (by simp [serial, request, orderStep, known, Except.isOk, Except.toBool])
          | some user =>
              cases loaded : loadOrder db orderId with
              | none =>
                  simp only [raceStep, request, known, loaded]
                  exact .refused (by simp [serial, request, orderStep, known, editOrderStatus,
                    transactional, editOrderStatusBody, loaded, Except.map, Except.isOk,
                    Except.toBool])
              | some order =>
                  cases applied : applyEdit user order status with
                  | error e =>
                      simp only [raceStep, request, known, loaded, applied]
                      exact .refused (by simp [serial, request, orderStep, known, editOrderStatus,
                        transactional, editOrderStatusBody, loaded, applied, Except.map,
                        Except.isOk, Except.toBool])
                  | ok edited =>
                      simp only [raceStep, request, known, loaded, applied]
                      exact .read request known loaded (applyEdit_eq_ok.mp applied)
  | read user order edited => exact .write
  | done accepted => exact .rest

/-- A whole request whose check passes. -/
theorem serial_edit {i : ι} {db : Db} {userId : String} {status : OrderStatus} {user : UserRow}
    {order edited : LoadedOrder} (request : requests i = .editOrderStatus userId status)
    (known : db.user? userId = some user) (loaded : loadOrder db orderId = some order)
    (edit : Edit user order status edited) :
    (serial dayBefore orderId requests).step db i =
      (saveOrder db order.row edited.columns, true) := by
  simp [serial, request, orderStep, known, editOrderStatus, transactional, editOrderStatusBody,
    loaded, applyEdit_eq_ok.mpr edit, Faults.none, Except.map, Except.isOk, Except.toBool]

/-- A save of a request in flight keeps the store linked, and moves nothing that
another request has read. -/
theorem InFlight.save {db : Db} {request : RaceRequest} {user : UserRow}
    {order edited : LoadedOrder} (linked : Linked db)
    (flight : InFlight db orderId request user order edited) :
    Linked (saveOrder db order.row edited.columns) ∧
      Unmoved orderId db (saveOrder db order.row edited.columns) := by
  obtain ⟨⟨userId, _, -, known, -⟩, snapshot⟩ := id flight
  have rows : ∀ k row', (saveOrder db order.row edited.columns).orders.find? k = some row' →
      ∃ row, db.orders.find? k = some row ∧ row'.restaurantId = row.restaurantId ∧
        (row'.driverId = row.driverId ∨ row'.driverId = some user.id) := by
    intro k row' found
    rw [saveOrder_find?] at found
    split at found
    · rename_i same
      obtain ⟨row, here, rfl⟩ := Option.map_eq_some_iff.mp found
      obtain ⟨driver, restaurant⟩ := flight.overwrite row
      exact ⟨row, by rw [same, here], restaurant, driver⟩
    · exact ⟨row', found, rfl, .inl rfl⟩
  refine ⟨⟨fun row' mem d hd => ?_, fun row' mem r hr => ?_⟩, rfl, rfl, fun row' found => ?_⟩
  · obtain ⟨row, found, -, driver⟩ := rows row'.id row' (Table.find?_of_mem mem)
    rcases driver with old | new
    · exact linked.driver row (Table.mem_of_find? found) d (old.symm.trans hd)
    · rw [new, Option.some.injEq] at hd
      exact ⟨user, by rw [← hd, Db.user?_id known]; exact known⟩
  · obtain ⟨row, found, restaurant, -⟩ := rows row'.id row' (Table.find?_of_mem mem)
    exact linked.restaurant row (Table.mem_of_find? found) r (restaurant.symm.trans hr)
  · obtain ⟨row, found, restaurant, -⟩ := rows orderId row' found
    exact ⟨row, found, restaurant⟩

/-- The job keeps the store linked, and moves nothing that a request has read. -/
theorem handleCron_unmoved {db db' : Db} {now : Time} (linked : Linked db)
    (cleaned : handleCron dayBefore now db = .ok db') :
    Linked db' ∧ Unmoved orderId db db' := by
  obtain ⟨users, -, restaurants, -, -⟩ := deleteOrders_static cleaned
  have old : ∀ row ∈ db'.orders.rows, row ∈ db.orders.rows := by
    intro row mem
    rw [deleteOrders_orders cleaned] at mem
    exact (Table.mem_filter.mp mem).1
  refine ⟨⟨fun row mem d hd => ?_, fun row mem r hr => ?_⟩, users, restaurants,
    fun row found => ?_⟩
  · rw [Db.user?, users]
    exact linked.driver row (old row mem) d hd
  · rw [Db.restaurant?, restaurants]
    exact linked.restaurant row (old row mem) r hr
  · rw [deleteOrders_find? cleaned, Option.filter_eq_some_iff] at found
    exact ⟨row, found.1, rfl⟩

/-- A save over a row that the request would be accepted on again stores what the
whole request stores there. -/
theorem InFlight.serial_eq {db : Db} {i : ι} {user : UserRow} {order edited : LoadedOrder}
    {current : OrderRow} (linked : Linked db)
    (flight : InFlight db orderId (requests i) user order edited)
    (found : db.orders.find? orderId = some current)
    (status : edited.row.status = order.row.status → current.status = order.row.status)
    (driver : user.role = .delivery → order.row.driverId = some user.id →
      current.driverId = some user.id) :
    (serial dayBefore orderId requests).step db i =
      (saveOrder db order.row edited.columns, true) := by
  obtain ⟨⟨userId, asked, request, known, edit⟩, snapshot⟩ := flight
  obtain ⟨now, loaded, rfl⟩ := loadOrder_of_find found
  have restaurant : now.restaurant = order.restaurant := by
    rw [loadOrder_restaurant loaded, snapshot.restaurant, snapshot.current _ found]
  -- The check passes again, on the row that is there now.
  obtain ⟨again, edit'⟩ : ∃ again, Edit user now asked again := by
    cases edit with
    | owner role hrest own asked => exact ⟨_, .owner role (restaurant.trans hrest) own asked⟩
    | pickedUp role => exact ⟨_, .pickedUp role⟩
    | delivered role own =>
        refine ⟨_, .delivered role ?_⟩
        rw [linked.driver_id loaded]
        exact driver role (snapshot.driver.symm.trans own)
  have columns := edit_columns snapshot.driver snapshot.restaurantId edit
  have columns' := edit_columns (linked.driver_id loaded) (linked.restaurant_id loaded) edit'
  have asks : edited.row.status = asked := by cases edit <;> rfl
  rw [serial_edit request known loaded edit', columns, columns']
  have hid : now.row.id = order.row.id := (Table.key_of_find? found).trans snapshot.id.symm
  refine Prod.ext ?_ rfl
  simp only [saveOrder, Db.mk.injEq, true_and, and_true]
  refine Table.modify_congr hid fun row there => ?_
  rw [Table.key_of_find? found, found, Option.some.injEq] at there
  subst there
  rw [OrderRow.overwrite_edited_self,
    overwrite_edited (fun same => status (asks.trans same)) fun picked own => ?_]
  cases edit with
  | owner _ _ _ asked => simp [picked] at asked
  | pickedUp role => exact driver role own
  | delivered => cases picked

/-! ### Runs -/

/-- When a request takes effect, and with what answer: when it has nothing to
write, by reading. -/
def Phase.decided : Phase → Option Bool
  | .ready => none
  | .read _ order edited => if edited.columns = order.row then some true else none
  | .done accepted => some accepted

/-- The invariant of a race: the store is linked, and every request that is
between its read and its save is in flight. -/
structure Racing (orderId : String) (requests : ι → RaceRequest) (c : Config ι Db Phase) :
    Prop where
  linked : Linked c.store
  flight : ∀ i user order edited, c.locals i = .read user order edited →
    InFlight c.store orderId (requests i) user order edited

variable [DecidableEq ι] {e : Event (Config ι Db Phase) (ι × Unit) Unit}

theorem race_effect
    (step : (race dayBefore orderId requests).step e.before e.input = (e.after, e.output)) :
    RaceEffect dayBefore orderId requests e.input.1 e.before.store
        (e.before.locals e.input.1) e.after.store (e.after.locals e.input.1) ∧
      ∀ j, j ≠ e.input.1 → e.after.locals j = e.before.locals j := by
  obtain ⟨moved, others⟩ := interleave_step step
  have effect : RaceEffect dayBefore orderId requests e.input.1 e.before.store
      (e.before.locals e.input.1) _ _ := raceStep_effect _ _ _
  rw [show raceStep dayBefore orderId requests e.input.1 () _ _ = _ from moved] at effect
  exact ⟨effect, others⟩

/-- Every step keeps the invariant of a race. -/
theorem Racing.keeps
    (step : (race dayBefore orderId requests).step e.before e.input = (e.after, e.output))
    (racing : Racing orderId requests e.before) : Racing orderId requests e.after := by
  obtain ⟨effect, others⟩ := race_effect step
  generalize hp : e.before.locals e.input.1 = phase at effect
  generalize hq : e.after.locals e.input.1 = phase' at effect
  generalize hs : e.after.store = store' at effect
  -- The step moves nothing that the others have read.
  have moves : Linked e.after.store ∧ Unmoved orderId e.before.store e.after.store := by
    rw [hs]
    cases effect with
    | cleaned _ cleaned => exact handleCron_unmoved racing.linked cleaned
    | write => exact (racing.flight _ _ _ _ hp).save racing.linked
    | refused | read | rest =>
        exact ⟨racing.linked, rfl, rfl, fun row found => ⟨row, found, rfl⟩⟩
  refine ⟨moves.1, fun j user order edited reading => ?_⟩
  by_cases moved : j = e.input.1
  · subst moved
    rw [hq] at reading
    subst reading
    cases effect with
    | read request known loaded edit =>
        have flight : InFlight e.before.store orderId (requests e.input.1) user order edited :=
          ⟨⟨_, _, request, known, edit⟩, snapshot_of_load racing.linked loaded⟩
        exact moves.2.inFlight flight
  · rw [others j moved] at reading
    exact moves.2.inFlight (racing.flight j user order edited reading)

/-- Under the condition a step takes effect like a whole request, or not at
all. -/
theorem Racing.linear
    (step : (race dayBefore orderId requests).step e.before e.input = (e.after, e.output))
    (racing : Racing orderId requests e.before)
    (current : WritesCurrent orderId e.before e.input.1) :
    Linear (serial dayBefore orderId requests) Phase.decided e := by
  obtain ⟨effect, -⟩ := race_effect step
  unfold Linear
  generalize hp : e.before.locals e.input.1 = phase at effect ⊢
  generalize e.after.locals e.input.1 = phase' at effect ⊢
  generalize e.after.store = store' at effect ⊢
  cases effect with
  | cleaned request cleaned =>
      exact .inr ⟨rfl, true, rfl, by simp [serial, request, cleaned]⟩
  | refused whole => exact .inr ⟨rfl, false, rfl, whole⟩
  | @read userId status user order edited request known loaded edit =>
      by_cases same : edited.columns = order.row
      · refine .inr ⟨rfl, true, if_pos same, ?_⟩
        rw [serial_edit request known loaded edit, same, saveOrder_self]
      · exact .inl ⟨rfl, if_neg same⟩
  | @write user order edited =>
      by_cases same : edited.columns = order.row
      · refine .inl ⟨by rw [same, saveOrder_self], ?_⟩
        simp [Phase.decided, same]
      · refine .inr ⟨if_neg same, true, rfl, ?_⟩
        obtain ⟨row, found, status, driver⟩ := current user order edited hp same
        exact (racing.flight _ _ _ _ hp).serial_eq racing.linked found status driver
  | rest => exact .inl ⟨rfl, rfl⟩

/-- A request that saves directly after its read meets the condition. -/
theorem writesCurrent_of_ready
    (step : (race dayBefore orderId requests).step e.before e.input = (e.after, e.output))
    (ready : e.before.locals e.input.1 = .ready) : WritesCurrent orderId e.after e.input.1 := by
  intro user order edited reading _
  obtain ⟨effect, -⟩ := race_effect step
  rw [ready, reading] at effect
  generalize e.after.store = store' at effect ⊢
  cases effect with
  | read _ _ loaded _ => exact ⟨order.row, loadOrder_row loaded, fun _ => rfl, fun _ own => own⟩

/-- A complete race in which every save meets the condition is serializable. -/
theorem race_serializable {db : Db} {schedule : List (ι × Unit)} (linked : Linked db)
    (complete : ∀ i, (((race dayBefore orderId requests).run (raceStart db)
      schedule).locals i).answer.isSome)
    (current : ∀ e ∈ (race dayBefore orderId requests).history (raceStart db) schedule,
      WritesCurrent orderId e.before e.input.1) :
    Serializable dayBefore orderId requests db schedule := by
  have start : Racing orderId requests (raceStart db) :=
    ⟨linked, fun _ _ _ _ reading => by cases reading⟩
  have racing : ∀ e ∈ (race dayBefore orderId requests).history (raceStart db) schedule,
      Racing orderId requests e.before ∧ Racing orderId requests e.after :=
    (Machine.history_invariant _ (fun _ => True) (fun _ step _ inv => inv.keeps step) start
      fun _ _ => trivial).2
  have decided : ∀ i, Phase.decided (((race dayBefore orderId requests).run (raceStart db)
      schedule).locals i) = (((race dayBefore orderId requests).run (raceStart db)
      schedule).locals i).answer := by
    intro i
    have done := complete i
    generalize ((race dayBefore orderId requests).run (raceStart db) schedule).locals i = phase
      at done ⊢
    cases phase with
    | done => rfl
    | ready | read => cases done
  have linear : ∀ e ∈ (race dayBefore orderId requests).history (raceStart db) schedule,
      Linear (serial dayBefore orderId requests) Phase.decided e :=
    fun e mem => (racing e mem).1.linear (Machine.step_of_mem_history mem) (current e mem)
  obtain ⟨order, nodup, all, store, answers⟩ := linearize (fun _ => by rfl)
    (fun i => by rw [decided]; exact complete i) linear
  exact ⟨order, nodup, all, store, fun e mem => by rw [← decided]; exact answers e mem⟩

end Steps

/-! ### Two races for a picked-up order -/

/-- The store in which the first driver has picked the sample order up. -/
def pickedUpStore : Db :=
  (orderService.step orderedStore (.editOrderStatus "driver1" "order" .pickedUp .none)).1

/-- The first driver delivers while the second one picks the order up. -/
def deliveryRace : Bool → RaceRequest
  | true => .editOrderStatus "driver1" .delivered
  | false => .editOrderStatus "driver2" .pickedUp

theorem pickedUpStore_linked : Linked pickedUpStore :=
  (history_linked [sampleOrder, .editOrderStatus "driver1" "order" .pickedUp .none]
    (linked_of_no_orders rfl : Linked sampleStore) (orderService.event orderedStore _)
    (by simp [orderedStore])).2

/-- One after the other, the two requests are serializable. -/
theorem delivery_then_pickup :
    Serializable (· - 86400000) "order" deliveryRace pickedUpStore
      [(true, ()), (true, ()), (false, ()), (false, ())] := by
  refine race_serializable pickedUpStore_linked (by decide +kernel) fun e mem => ?_
  simp only [Machine.history_cons, Machine.history_nil, List.mem_cons, List.not_mem_nil,
    or_false] at mem
  rcases mem with rfl | rfl | rfl | rfl
  · intro user order edited reading
    cases reading
  · exact writesCurrent_of_ready (e := (race _ _ _).event _ _) rfl rfl
  · intro user order edited reading
    cases reading
  · exact writesCurrent_of_ready (e := (race _ _ _).event _ _) rfl rfl

/-- The first driver's `Delivered` is read before and saved after the second
driver's `PickedUp`: both are accepted, and the order ends up delivered by the
second driver. -/
theorem delivery_races_pickup :
    ¬ ∀ (requests : Bool → RaceRequest) (db : Db) (schedule : List (Bool × Unit)), Linked db →
      (∀ i, (((race (· - 86400000) "order" requests).run (raceStart db)
        schedule).locals i).answer.isSome) →
      Serializable (· - 86400000) "order" requests db schedule := by
  intro all
  obtain ⟨order, nodup, every, store, answers⟩ := all deliveryRace pickedUpStore
    [(true, ()), (false, ()), (false, ()), (true, ())] pickedUpStore_linked (by decide +kernel)
  have perm : order.Perm [true, false] :=
    (List.perm_ext_iff_of_nodup nodup (by decide)).mpr fun i => by cases i <;> simp [every]
  rcases List.perm_pair.mp perm with rfl | rfl
  · exact absurd store (by decide +kernel)
  · exact absurd store (by decide +kernel)

end CoupangEats
