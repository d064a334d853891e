import CoupangEats.Base.Replay
import CoupangEats.Events.Gateway

/-!
What a client learns from its socket.

A client in the room of an owner lists the orders that it is told of, and a client in
the room of an order shows the status and the driver that it was told last; both
replay what their socket receives. While the socket stays, the list is at every moment
the orders of the owner's restaurants (`orders_mirrored`), as `createOrder` tells of an
order when it is committed. What is shown of an order is what is stored as long as no
commit of a saved status change fails (`progress_mirrored`), since `editOrderStatus`
tells of a status before the commit.
-/

namespace CoupangEats

open CoupangEats.Base

/-! ### The clients -/

/-- The status and the driver of an order. -/
abbrev Progress := OrderStatus × Option String

def Db.progress? (db : Db) (orderId : String) : Option Progress :=
  (db.orders.find? orderId).map fun row => (row.status, row.driverId)

/-- The orders of the owner's restaurants, in the order of their creation. -/
def Db.ordersOf (db : Db) (ownerId : String) : List String :=
  (db.orders.rows.filter fun row =>
    (row.restaurantId.bind db.restaurant?).map RestaurantRow.ownerId = some ownerId).map OrderRow.id

/-- What a delivery tells the socket of the progress of the order. -/
def Delivery.progress? (socket orderId : String) (delivery : Delivery) : Option Progress :=
  match delivery.event with
  | .notice (.orderUpdate _ id status driverId) =>
      if delivery.socket = socket ∧ id = orderId then some (status, driverId) else none
  | _ => none

/-- The new order that a delivery tells the socket of. -/
def Delivery.newOrder? (socket : String) (delivery : Delivery) : Option String :=
  match delivery.event with
  | .notice (.newPendingOrder _ orderId _ _) =>
      if delivery.socket = socket then some orderId else none
  | _ => none

/-- The client of an order shows what it was told last. -/
def showProgress (socket orderId : String) (shown : Option Progress) (_ : GatewayInput)
    (output : GatewayOutput) : Option Progress :=
  (output.deliveries.filterMap (Delivery.progress? socket orderId)).getLast?.or shown

/-- The client of an owner lists the orders that it is told of. -/
def showOrders (socket : String) (shown : List String) (_ : GatewayInput)
    (output : GatewayOutput) : List String :=
  shown ++ output.deliveries.filterMap (Delivery.newOrder? socket)

/-! ### What is told -/

section Told

variable {s : GatewayState} {socket orderId : String}

/-- Of distinct elements one at most is the given one. -/
theorem filterMap_pick {α β : Type} [DecidableEq α] {l : List α} (distinct : l.Nodup) (a : α)
    (b : β) :
    (l.filterMap fun x => if x = a then some b else none) = if a ∈ l then [b] else [] := by
  induction l with
  | nil => rfl
  | cons x l ih =>
      obtain ⟨apart, distinct⟩ := List.nodup_cons.mp distinct
      rw [List.filterMap_cons, ih distinct]
      by_cases same : x = a
      · subst same
        simp [apart]
      · simp [same, Ne.symm same]

/-- Whoever is in the room of the order is told its new status once. -/
theorem progress_told (order : LoadedOrder) (status : OrderStatus) :
    ((editNotices order status).flatMap (emitNotice s)).filterMap
        (Delivery.progress? socket orderId) =
      if order.row.id = orderId ∧ socket ∈ s.rooms.members (orderRoom orderId) then
        [(status, order.driver.map UserRow.id)]
      else [] := by
  have cooked (notices : List Notice)
      (all : ∀ notice ∈ notices, ∃ id name address, notice = .newCookedOrder id name address) :
      (notices.flatMap (emitNotice s)).filterMap (Delivery.progress? socket orderId) = [] := by
    rw [List.filterMap_eq_nil_iff]
    intro delivery mem
    obtain ⟨notice, told, sent⟩ := List.mem_flatMap.mp mem
    obtain ⟨id, name, address, rfl⟩ := all notice told
    obtain ⟨other, -, rfl⟩ := List.mem_map.mp sent
    rfl
  have rest : ∃ notices, editNotices order status =
      .orderUpdate (orderRoom order.row.id) order.row.id status (order.driver.map UserRow.id) ::
        notices ∧
      ∀ notice ∈ notices, ∃ id name address, notice = .newCookedOrder id name address := by
    refine ⟨_, rfl, fun notice mem => ?_⟩
    split at mem
    · exact ⟨_, _, _, List.mem_singleton.mp mem⟩
    · cases mem
  obtain ⟨notices, same, all⟩ := rest
  rw [same, List.flatMap_cons, List.filterMap_append, cooked notices all, List.append_nil,
    emitNotice, List.filterMap_map]
  by_cases here : order.row.id = orderId
  · subst here
    have distinct : (s.rooms.members (orderRoom order.row.id)).Nodup := Rooms.nodup_members
    have picked := filterMap_pick distinct socket (status, order.driver.map UserRow.id)
    simpa [Function.comp_def, Delivery.progress?] using picked
  · simp [Function.comp_def, Delivery.progress?, here]

/-- Whoever is in the room of its owner is told of a new order once. -/
theorem newOrder_told (room id restaurantId : String) (total : ℚ) :
    (emitNotice s (.newPendingOrder room id restaurantId total)).filterMap
        (Delivery.newOrder? socket) = if socket ∈ s.rooms.members room then [id] else [] := by
  have distinct : (s.rooms.members room).Nodup := Rooms.nodup_members
  have picked := filterMap_pick distinct socket id
  rw [emitNotice, List.filterMap_map]
  simpa [Function.comp_def, Delivery.newOrder?] using picked

end Told

/-! ### Calls of the order service -/

/-- What a call makes of the store, and what it sends. -/
inductive CallTells (db : Db) : OrderCall → Db → List Notice → Prop
  | silent {call} : CallTells db call db []
  | placed {userId dto env user order db'} (assembled : assembleOrder db user dto = .ok order)
      (saved : saveNewOrder db env order = some db') :
      CallTells db (.createOrder userId dto env) db'
        [.newPendingOrder (ownerRoom order.restaurant) env.orderId order.restaurant.id order.total]
  | edited {userId id status faults user order edited} (loaded : loadOrder db id = some order)
      (edit : Edit user order status edited) :
      CallTells db (.editOrderStatus userId id status faults)
        (saveOrder db order.row edited.columns) (editNotices edited status)
  | uncommitted {userId id status faults notices}
      (ghost : ¬ Commits db (.editOrderStatus userId id status faults))
      (other : ∀ notice ∈ notices, ∀ socket receiver,
        Delivery.newOrder? socket ⟨receiver, .notice notice⟩ = none) :
      CallTells db (.editOrderStatus userId id status faults) db notices

theorem newOrder?_editNotices {order : LoadedOrder} {status : OrderStatus} {notice : Notice}
    (told : notice ∈ editNotices order status) (socket receiver : String) :
    Delivery.newOrder? socket ⟨receiver, .notice notice⟩ = none := by
  rcases editNotices_cases told with ⟨driverId, rfl⟩ | ⟨name, address, rfl⟩
  · rfl
  · rfl

theorem callTells (db : Db) (call : OrderCall) :
    CallTells db call (orderStep db call).1 (orderStep db call).2.sent := by
  cases call with
  | createOrder userId dto env =>
      cases known : db.user? userId with
      | none =>
          simp only [orderStep, known]
          exact .silent
      | some user =>
          simp only [orderStep, known]
          rcases createOrder_cases db user dto env with
            ⟨e, refused⟩ | ⟨order, db', assembled, saved, placed⟩
          · rw [refused]
            exact .silent
          · rw [placed]
            exact .placed assembled saved
  | editOrderStatus userId id status faults =>
      cases known : db.user? userId with
      | none =>
          simp only [orderStep, known]
          exact .silent
      | some user =>
          simp only [orderStep, known]
          rcases editOrderStatus_cases db user id status faults with
            ⟨e, refused, -⟩ | ⟨order, edited, loaded, applied, saved, outcome⟩
          · rw [refused]
            exact .silent
          · rw [outcome]
            cases commit : faults.commit with
            | false => exact .edited loaded (applyEdit_eq_ok.mp applied)
            | true =>
                refine .uncommitted (fun commits => ?_) fun _ mem => newOrder?_editNotices mem
                have := commits ⟨user, order, edited, known, loaded, applied⟩ saved
                rw [commit] at this
                cases this

/-! ### One step -/

section Step

variable {number : ℚ → String} {s : GatewayState} {socket orderId ownerId : String}

/-- What a committed call sends of the progress of an order is how it leaves the
order. -/
theorem order_progress {call : OrderCall} (linked : Linked s.db) (commits : Commits s.db call)
    (stored : ∃ row, s.db.orders.find? orderId = some row)
    (joined : s.rooms.Joined socket (orderRoom orderId)) :
    (orderStep s.db call).1.progress? orderId =
        (((orderStep s.db call).2.sent.flatMap (emitNotice s)).filterMap
          (Delivery.progress? socket orderId)).getLast?.or (s.db.progress? orderId) ∧
      ∃ row, (orderStep s.db call).1.orders.find? orderId = some row := by
  have tells := callTells s.db call
  generalize (orderStep s.db call).1 = db', (orderStep s.db call).2.sent = sent at tells ⊢
  obtain ⟨row, found⟩ := stored
  cases tells with
  | silent => exact ⟨rfl, row, found⟩
  | uncommitted ghost => exact absurd commits ghost
  | @placed _ _ env _ order _ assembled saved =>
      obtain ⟨-, -, total, inserted⟩ := saveNewOrder_spec saved
      have other : orderId ≠ env.orderId := by
        rintro rfl
        cases found.symm.trans (Table.insert_eq_some inserted).1
      have kept : db'.orders.find? orderId = s.db.orders.find? orderId := by
        rw [Table.find?_insert inserted]
        exact if_neg other
      refine ⟨?_, row, kept.trans found⟩
      rw [Db.progress?, kept, List.flatMap_singleton, emitNotice, List.filterMap_map]
      simp [Function.comp_def, Delivery.progress?, Db.progress?]
  | @edited _ id status _ user order edited loaded edit =>
      have row' := edited_find? linked loaded edit orderId
      have driver := linked.driver_id loaded
      have key : order.row.id = id := Table.key_of_find? (loadOrder_row loaded)
      have told : edited.row.id = id ∧ edited.driver.map UserRow.id =
          (order.row.edited user.id status).driverId := by
        cases edit with
        | owner _ _ _ asked => rcases asked with rfl | rfl <;> exact ⟨key, driver⟩
        | pickedUp => exact ⟨key, rfl⟩
        | delivered => exact ⟨key, driver⟩
      rw [progress_told, told.1, Db.progress?, row']
      by_cases here : id = orderId
      · have member := Rooms.mem_members.mpr joined
        simp [here, member, told.2, OrderRow.edited]
      · simp [here, Ne.symm here, Db.progress?, found]

/-- Notices of status changes tell of no new order. -/
theorem newOrder_untold {notices : List Notice} (other : ∀ notice ∈ notices, ∀ socket receiver,
    Delivery.newOrder? socket ⟨receiver, .notice notice⟩ = none) :
    (notices.flatMap (emitNotice s)).filterMap (Delivery.newOrder? socket) = [] := by
  rw [List.filterMap_eq_nil_iff]
  intro delivery mem
  obtain ⟨notice, told, sent⟩ := List.mem_flatMap.mp mem
  obtain ⟨receiver, -, rfl⟩ := List.mem_map.mp sent
  exact other notice told socket receiver

/-- A change of rows that keeps their ids and what selects them keeps the selection. -/
theorem map_filter_kept {rows : List OrderRow} {f : OrderRow → OrderRow} {p : OrderRow → Bool}
    (kept : ∀ row ∈ rows, (f row).id = row.id ∧ p (f row) = p row) :
    ((rows.map f).filter p).map OrderRow.id = (rows.filter p).map OrderRow.id := by
  induction rows with
  | nil => rfl
  | cons row rows ih =>
      obtain ⟨id, selects⟩ := kept row List.mem_cons_self
      have rest := ih fun r mem => kept r (List.mem_cons_of_mem _ mem)
      rw [List.map_cons]
      cases selected : p row with
      | true =>
          rw [List.filter_cons_of_pos (selects.trans selected), List.filter_cons_of_pos selected,
            List.map_cons, List.map_cons, rest, id]
      | false =>
          rw [List.filter_cons_of_neg (by simp [selects, selected]),
            List.filter_cons_of_neg (by simp [selected]), rest]

/-- What a call sends of new orders are those that it adds to the owner's. -/
theorem order_board (call : OrderCall) (linked : Linked s.db)
    (joined : ∀ id, s.rooms.Joined socket ("Owner:" ++ id) ↔ id = ownerId) :
    (orderStep s.db call).1.ordersOf ownerId = s.db.ordersOf ownerId ++
      ((orderStep s.db call).2.sent.flatMap (emitNotice s)).filterMap
        (Delivery.newOrder? socket) := by
  have tells := callTells s.db call
  generalize (orderStep s.db call).1 = db', (orderStep s.db call).2.sent = sent at tells ⊢
  cases tells with
  | silent => exact (List.append_nil _).symm
  | uncommitted _ other => rw [newOrder_untold other, List.append_nil]
  | @placed _ dto env user order _ assembled saved =>
      obtain ⟨-, restaurants, total, inserted⟩ := saveNewOrder_spec saved
      have loaded := (assembleOrder_spec assembled).1
      rw [← Db.restaurant?_id loaded] at loaded
      have places : db'.restaurant? = s.db.restaurant? := by
        funext id
        rw [Db.restaurant?, Db.restaurant?, restaurants]
      have mine : "Owner:" ++ order.restaurant.ownerId = ownerRoom order.restaurant := rfl
      rw [List.flatMap_singleton, newOrder_told, Db.ordersOf, places,
        (Table.insert_eq_some inserted).2, List.filter_append, List.map_append, ← Db.ordersOf,
        ← mine]
      simp only [Rooms.mem_members, joined]
      by_cases own : order.restaurant.ownerId = ownerId
      · simp [NewOrder.row, loaded, own]
      · simp [NewOrder.row, loaded, own]
  | @edited _ id status _ user order edited loaded edit =>
      rw [newOrder_untold fun _ mem => newOrder?_editNotices mem, List.append_nil]
      apply map_filter_kept
      intro row mem
      split
      · have columns := edit_columns (linked.driver_id loaded) (linked.restaurant_id loaded) edit
        have place : (OrderRow.overwrite order.row edited.columns row).restaurantId =
            row.restaurantId := by
          simp [OrderRow.overwrite, columns, OrderRow.edited]
        refine ⟨rfl, ?_⟩
        simp only [place]
      · exact ⟨rfl, rfl⟩

/-- A position tells of no order. -/
theorem location_untold {data : Option Json} {sender : String} :
    (handleDriverLocation number s sender data).filterMap (Delivery.progress? socket orderId) = [] ∧
      (handleDriverLocation number s sender data).filterMap (Delivery.newOrder? socket) = [] := by
  unfold handleDriverLocation
  split
  · simp [List.filterMap_map, Function.comp_def, Delivery.progress?, Delivery.newOrder?]
  · exact ⟨rfl, rfl⟩

/-- The socket does not leave its rooms. -/
theorem joined_kept {input : GatewayInput} {room : String} (stays : input ≠ .disconnect socket)
    (joined : s.rooms.Joined socket room) :
    ((gateway number).step s input).1.rooms.Joined socket room := by
  have join {member : String} {name : Option String} :
      (if member ∈ s.connected then joinRoom s member name else s).rooms.Joined socket room := by
    split
    · cases name with
      | none => exact joined
      | some name => exact Rooms.joined_join.mpr (.inr joined)
    · exact joined
  cases input with
  | connect member =>
      simp only [gateway, gatewayStep]
      split <;> exact joined
  | disconnect member =>
      refine Rooms.joined_leave.mpr ⟨joined, ?_⟩
      rintro rfl
      exact stays rfl
  | joinUserRoom member data => exact join
  | joinOrderRoom member data => exact join
  | updateDriverLocation | order => exact joined

/-- A socket that sends no join message joins no room. -/
theorem joined_before {input : GatewayInput} {room : String}
    (silent : ∀ data, input ≠ .joinUserRoom socket data ∧ input ≠ .joinOrderRoom socket data)
    (joined : ((gateway number).step s input).1.rooms.Joined socket room) :
    s.rooms.Joined socket room := by
  have join {member : String} {name : Option String} (apart : member ≠ socket)
      (after : (if member ∈ s.connected then joinRoom s member name else s).rooms.Joined socket
        room) : s.rooms.Joined socket room := by
    split at after
    · cases name with
      | none => exact after
      | some name =>
          rcases Rooms.joined_join.mp after with ⟨same, -⟩ | old
          · exact absurd same.symm apart
          · exact old
    · exact after
  cases input with
  | connect member =>
      simp only [gateway, gatewayStep] at joined
      split at joined <;> exact joined
  | disconnect member => exact (Rooms.joined_leave.mp joined).1
  | joinUserRoom member data => exact join (fun same => (silent data).1 (same ▸ rfl)) joined
  | joinOrderRoom member data => exact join (fun same => (silent data).2 (same ▸ rfl)) joined
  | updateDriverLocation | order => exact joined

/-- A step without a call leaves the store, and tells of no order. -/
theorem step_untold {input : GatewayInput} (other : ∀ call, input ≠ .order call) :
    ((gateway number).step s input).1.db = s.db ∧
      ((gateway number).step s input).2.deliveries.filterMap
        (Delivery.progress? socket orderId) = [] ∧
      ((gateway number).step s input).2.deliveries.filterMap (Delivery.newOrder? socket) = [] := by
  have join {member : String} {name : Option String} :
      (if member ∈ s.connected then joinRoom s member name else s).db = s.db := by
    split
    · exact joinRoom_db
    · rfl
  cases input with
  | connect member =>
      refine ⟨?_, rfl, rfl⟩
      simp only [gateway, gatewayStep]
      split <;> rfl
  | disconnect member => exact ⟨rfl, rfl, rfl⟩
  | joinUserRoom member data => exact ⟨join, rfl, rfl⟩
  | joinOrderRoom member data => exact ⟨join, rfl, rfl⟩
  | updateDriverLocation member data =>
      refine ⟨rfl, ?_⟩
      simp only [gateway, gatewayStep]
      split
      · exact location_untold
      · exact ⟨rfl, rfl⟩
  | order call => exact absurd rfl (other call)

end Step

/-! ### Runs -/

section Runs

variable {number : ℚ → String} {s : GatewayState} {socket orderId ownerId : String}
  {e : GatewayEvent} {inputs : List GatewayInput}

/-- The order is stored, and the socket is in its room. -/
structure Watches (socket orderId : String) (s : GatewayState) : Prop where
  linked : Linked s.db
  stored : ∃ row, s.db.orders.find? orderId = some row
  joined : s.rooms.Joined socket (orderRoom orderId)

/-- The socket stays connected, and the commit of a saved status change does not fail. -/
def Uninterrupted (socket : String) (e : GatewayEvent) : Prop :=
  e.input ≠ .disconnect socket ∧ ∀ call, e.input = .order call → Commits e.before.db call

/-- The socket is in the room of the owner, and in that of no other one. -/
structure Attends (socket ownerId : String) (s : GatewayState) : Prop where
  linked : Linked s.db
  joined : ∀ id, s.rooms.Joined socket ("Owner:" ++ id) ↔ id = ownerId

/-- The socket stays connected, and asks for no further room. -/
def Attentive (socket : String) (e : GatewayEvent) : Prop :=
  e.input ≠ .disconnect socket ∧
    ∀ data, e.input ≠ .joinUserRoom socket data ∧ e.input ≠ .joinOrderRoom socket data

/-- One step for the client of an order. -/
theorem Watches.step (step : (gateway number).step e.before e.input = (e.after, e.output))
    (kept : Uninterrupted socket e) (watches : Watches socket orderId e.before) :
    Watches socket orderId e.after ∧
      Tracks (fun s : GatewayState => s.db.progress? orderId) (showProgress socket orderId) e := by
  obtain ⟨s, input, output, s'⟩ := e
  obtain rfl : s' = ((gateway number).step s input).1 := (congrArg Prod.fst step).symm
  obtain rfl : output = ((gateway number).step s input).2 := (congrArg Prod.snd step).symm
  obtain ⟨stays, commits⟩ := kept
  obtain ⟨linked, stored, joined⟩ := watches
  have joined' := @joined_kept number _ _ _ _ stays joined
  by_cases called : ∃ call, input = .order call
  · obtain ⟨call, rfl⟩ := called
    have progress := order_progress linked (commits call rfl) stored joined
    exact ⟨⟨(orderStep_effect s.db call).linked linked, progress.2, joined'⟩, progress.1⟩
  · obtain ⟨same, untold, -⟩ := @step_untold number s socket orderId input
      fun call same => called ⟨call, same⟩
    refine ⟨⟨same ▸ linked, same ▸ stored, joined'⟩, ?_⟩
    simp only [Tracks, showProgress, same, untold]
    rfl

/-- One step for the client of an owner. -/
theorem Attends.step (step : (gateway number).step e.before e.input = (e.after, e.output))
    (kept : Attentive socket e) (attends : Attends socket ownerId e.before) :
    Attends socket ownerId e.after ∧
      Tracks (fun s : GatewayState => s.db.ordersOf ownerId) (showOrders socket) e := by
  obtain ⟨s, input, output, s'⟩ := e
  obtain rfl : s' = ((gateway number).step s input).1 := (congrArg Prod.fst step).symm
  obtain rfl : output = ((gateway number).step s input).2 := (congrArg Prod.snd step).symm
  obtain ⟨stays, silent⟩ := kept
  obtain ⟨linked, joined⟩ := attends
  have joined' (id : String) : ((gateway number).step s input).1.rooms.Joined socket
      ("Owner:" ++ id) ↔ id = ownerId := by
    rw [← joined id]
    exact ⟨joined_before silent, joined_kept stays⟩
  by_cases called : ∃ call, input = .order call
  · obtain ⟨call, rfl⟩ := called
    have board := order_board call linked joined
    exact ⟨⟨(orderStep_effect s.db call).linked linked, joined'⟩, board⟩
  · obtain ⟨same, -, untold⟩ := @step_untold number s socket "" input
      fun call same => called ⟨call, same⟩
    refine ⟨⟨same ▸ linked, joined'⟩, ?_⟩
    simp only [Tracks, showOrders, same, untold, List.append_nil]

/-- However calls and the messages of sockets interleave: a client that stays in the
room of an order shows at every moment the status and the driver that are stored, if no
commit of a saved status change fails. -/
theorem progress_mirrored (watches : Watches socket orderId s)
    (kept : ∀ e ∈ (gateway number).history s inputs, Uninterrupted socket e) :
    ((gateway number).run s inputs).db.progress? orderId =
        replay (showProgress socket orderId) (s.db.progress? orderId)
          ((gateway number).history s inputs) ∧
      ∀ first e rest, (gateway number).history s inputs = first ++ e :: rest →
        e.before.db.progress? orderId =
            replay (showProgress socket orderId) (s.db.progress? orderId) first ∧
          e.after.db.progress? orderId =
            replay (showProgress socket orderId) (s.db.progress? orderId) (first ++ [e]) :=
  Machine.replay_history (fun s => s.db.progress? orderId) (showProgress socket orderId)
    (Watches socket orderId) (Uninterrupted socket) (fun _ step kept inv => (inv.step step kept).1)
    (fun _ step kept inv => (inv.step step kept).2) watches kept

/-- However calls and the messages of sockets interleave, and whatever commits fail: a
client that stays in the room of an owner lists at every moment the orders of the
owner's restaurants, each once and in the order of their creation. -/
theorem orders_mirrored (attends : Attends socket ownerId s)
    (kept : ∀ e ∈ (gateway number).history s inputs, Attentive socket e) :
    ((gateway number).run s inputs).db.ordersOf ownerId =
        replay (showOrders socket) (s.db.ordersOf ownerId) ((gateway number).history s inputs) ∧
      ∀ first e rest, (gateway number).history s inputs = first ++ e :: rest →
        e.before.db.ordersOf ownerId =
            replay (showOrders socket) (s.db.ordersOf ownerId) first ∧
          e.after.db.ordersOf ownerId =
            replay (showOrders socket) (s.db.ordersOf ownerId) (first ++ [e]) :=
  Machine.replay_history (fun s => s.db.ordersOf ownerId) (showOrders socket)
    (Attends socket ownerId) (Attentive socket) (fun _ step kept inv => (inv.step step kept).1)
    (fun _ step kept inv => (inv.step step kept).2) attends kept

end Runs

/-! ### A delivery -/

/-- The owner cooks, though one save fails, and the driver delivers. -/
def deliveryDay : List GatewayInput :=
  [.order (.editOrderStatus "owner" "order" .cooking .none),
    .order (.editOrderStatus "owner" "order" .cooked ⟨true, false⟩),
    .order (.editOrderStatus "driver1" "order" .pickedUp .none),
    .updateDriverLocation "driver1" (some (.obj [("orderId", .str "order")])),
    .order (.editOrderStatus "driver1" "order" .delivered .none)]

/-- The customer is told of every step. -/
theorem delivery_shown :
    let s : GatewayState :=
      ⟨orderedStore, ["customer"], Rooms.empty.join "customer" (orderRoom "order")⟩
    replay (showProgress "customer" "order") (some (.pending, none))
      ((gateway toString).history s deliveryDay) = some (.delivered, some "driver1") := by
  intro s
  have watches : Watches "customer" "order" s :=
    ⟨(orderStep_effect sampleStore sampleOrder).linked (linked_of_no_orders rfl),
      ⟨_, orderedStore_order⟩, Rooms.joined_join.mpr (.inl ⟨rfl, rfl⟩)⟩
  have kept : ∀ e ∈ (gateway toString).history s deliveryDay, Uninterrupted "customer" e := by
    intro e mem
    have input := Machine.input_mem mem
    simp only [deliveryDay, List.mem_cons, List.not_mem_nil, or_false] at input
    refine ⟨?_, fun call same => ?_⟩
    · rcases input with here | here | here | here | here <;> simp [here]
    · rcases input with here | here | here | here | here <;> cases here.symm.trans same <;>
        exact fun _ _ => rfl
  have start : s.db.progress? "order" = some (.pending, none) := by
    rw [Db.progress?, show s.db.orders.find? "order" = _ from orderedStore_order]
    rfl
  rw [← start, ← (progress_mirrored watches kept).1]
  decide +kernel

/-- The owner is told of the order. -/
theorem order_listed :
    let s : GatewayState := ⟨sampleStore, ["owner"], Rooms.empty.join "owner" "Owner:owner"⟩
    replay (showOrders "owner") []
      ((gateway toString).history s (.order sampleOrder :: deliveryDay)) = ["order"] := by
  intro s
  have attends : Attends "owner" "owner" s := by
    refine ⟨linked_of_no_orders rfl, fun id => ?_⟩
    have same : "Owner:" ++ id = "Owner:" ++ "owner" ↔ id = "owner" := String.append_right_inj _
    exact Rooms.joined_join.trans ((or_iff_left Rooms.not_joined_empty).trans (by simpa using same))
  have kept : ∀ e ∈ (gateway toString).history s (.order sampleOrder :: deliveryDay),
      Attentive "owner" e := by
    intro e mem
    have input := Machine.input_mem mem
    simp only [deliveryDay, List.mem_cons, List.not_mem_nil, or_false] at input
    rcases input with here | here | here | here | here | here <;> simp [Attentive, here]
  rw [show ([] : List String) = s.db.ordersOf "owner" from rfl, ← (orders_mirrored attends kept).1]
  decide +kernel

end CoupangEats
