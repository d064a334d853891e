import CoupangEats.Base.Rooms
import CoupangEats.Order.Notices
import CoupangEats.Order.Pickup

/-!
The socket gateway.

Sockets are not authenticated. They name the room that they want to join, so the
room of an owner and the room of an order take in whoever asks, under the names
`Owner:…` and `order:…` that either join message can spell. Order events are sent
to these rooms. `Rightful` says what a step may do for the rooms to hold only those
that the events are for; in a run of such steps every event is received by those
who may receive it (`events_private`). Whoever receives an event receives it once
(`deliveries_once`).
-/

namespace CoupangEats

open CoupangEats.Base

/-! ### Payloads -/

section Text

variable (number : ℚ → String)

mutual
/-- The text of a value in a template; `number` is the text of a number. An object
with a property `toString` has none: it cannot be called. -/
def templateText : Json → Option String
  | .null => some "null"
  | .bool value => some (if value then "true" else "false")
  | .num value => some (number value)
  | .str value => some value
  | .arr items => (joinedTexts items).map (String.intercalate ",")
  | .obj fields => if (Fields.read fields "toString").isSome then none else some "[object Object]"

/-- The texts of the elements of a list; `null` has an empty one. -/
def joinedTexts : List Json → Option (List String)
  | [] => some []
  | .null :: items => (joinedTexts items).map fun texts => "" :: texts
  | item :: items =>
      match templateText item, joinedTexts items with
      | some text, some texts => some (text :: texts)
      | _, _ => none
end

/-- `data[name]` of a message. No message and `null` have no properties to read. -/
def payloadProperty (data : Option Json) (name : String) : Option (Option Json) :=
  match data with
  | none | some .null => none
  | some (.obj fields) => some (Fields.read fields name)
  | some _ => some none

/-- The text of a property in a template. -/
def propertyText (data : Option Json) (name : String) : Option String :=
  match payloadProperty data name with
  | none => none
  | some none => some "undefined"
  | some (some value) => templateText number value

/-- `${data.role}:${data.userId}`, when there is no error. -/
def userRoomName (data : Option Json) : Option String :=
  match propertyText number data "role", propertyText number data "userId" with
  | some role, some userId => some (role ++ ":" ++ userId)
  | _, _ => none

end Text

/-! ### The gateway -/

/-- What a socket receives. The order of a `driverLocation` is the one whose room
it goes to. -/
inductive SocketEvent where
  | notice (notice : Notice)
  | driverLocation (orderId : String) (lat lng : Option Json)
  deriving DecidableEq

/-- An event that reaches a socket. -/
structure Delivery where
  socket : String
  event : SocketEvent
  deriving DecidableEq

/-- The store, the connected sockets and the rooms they are in. -/
structure GatewayState where
  db : Db
  connected : List String
  rooms : Rooms String String

/-- What sockets and callers of the order service do; `data` is the payload of a
message, if it has one. -/
inductive GatewayInput where
  | connect (socket : String)
  | disconnect (socket : String)
  | joinUserRoom (socket : String) (data : Option Json)
  | joinOrderRoom (socket : String) (data : Option Json)
  | updateDriverLocation (socket : String) (data : Option Json)
  | order (call : OrderCall)

/-- The answer to a call, and the events that a step sends. -/
structure GatewayOutput where
  reply : Option OrderReply
  deliveries : List Delivery

/-- `server.to(room).emit`, and `server.emit` for the notice to everyone. -/
def emitNotice (s : GatewayState) (notice : Notice) : List Delivery :=
  let sockets := match notice with
    | .newPendingOrder room .. | .orderUpdate room .. => s.rooms.members room
    | .newCookedOrder .. => s.connected
  sockets.map fun socket => ⟨socket, .notice notice⟩

/-- `client.join`, when the name of the room could be built. -/
def joinRoom (s : GatewayState) (socket : String) (room : Option String) : GatewayState :=
  match room with
  | none => s
  | some room => { s with rooms := s.rooms.join socket room }

section Gateway

variable (number : ℚ → String)

/-- `order:${data.orderId}`, by the id. -/
def orderIdOf (data : Option Json) : Option String := propertyText number data "orderId"

/-- The position goes to everyone else in the room of the order. -/
def handleDriverLocation (s : GatewayState) (socket : String) (data : Option Json) :
    List Delivery :=
  match orderIdOf number data, payloadProperty data "lat", payloadProperty data "lng" with
  | some orderId, some lat, some lng =>
      ((s.rooms.members (orderRoom orderId)).filter fun member => member ≠ socket).map fun member =>
        ⟨member, .driverLocation orderId lat lng⟩
  | _, _, _ => []

/-- A message of a socket that is not connected does not arrive. -/
def gatewayStep (s : GatewayState) : GatewayInput → GatewayState × GatewayOutput
  | .connect socket =>
      (if socket ∈ s.connected then s else { s with connected := socket :: s.connected },
        ⟨none, []⟩)
  | .disconnect socket =>
      ({ s with connected := s.connected.filter (· ≠ socket), rooms := s.rooms.leave socket },
        ⟨none, []⟩)
  | .joinUserRoom socket data =>
      (if socket ∈ s.connected then joinRoom s socket (userRoomName number data) else s, ⟨none, []⟩)
  | .joinOrderRoom socket data =>
      (if socket ∈ s.connected then joinRoom s socket ((orderIdOf number data).map orderRoom)
        else s, ⟨none, []⟩)
  | .updateDriverLocation socket data =>
      (s, ⟨none, if socket ∈ s.connected then handleDriverLocation number s socket data else []⟩)
  | .order call =>
      let out := orderStep s.db call
      ({ s with db := out.1 }, ⟨some out.2, out.2.sent.flatMap (emitNotice s)⟩)

/-- The gateway and the order service as a machine. -/
def gateway : Machine GatewayState GatewayInput GatewayOutput where
  step := gatewayStep number

end Gateway

abbrev GatewayEvent := Event GatewayState GatewayInput GatewayOutput

/-! ### Who may receive what -/

/-- The customer, the driver and the owner of the restaurant of an order. -/
def Party (db : Db) (row : OrderRow) (userId : String) : Prop :=
  row.customerId = some userId ∨ row.driverId = some userId ∨
    ∃ restaurant, row.restaurantId.bind db.restaurant? = some restaurant ∧
      restaurant.ownerId = userId

section Privacy

variable (number : ℚ → String) (person : String → Option String)

/-- The person behind the socket, if there is a known one, is a party to the
order, if there is one. -/
def OfParty (db : Db) (socket orderId : String) : Prop :=
  ∀ row, db.orders.find? orderId = some row →
    ∃ userId, person socket = some userId ∧ Party db row userId

/-- A new order is for the owner of its restaurant, status and position of an order
are for its parties, and a cooked order is for everyone. -/
def MayReceive (db : Db) (delivery : Delivery) : Prop :=
  match delivery.event with
  | .notice (.newPendingOrder _ _ restaurantId _) =>
      ∃ restaurant, db.restaurant? restaurantId = some restaurant ∧
        person delivery.socket = some restaurant.ownerId
  | .notice (.orderUpdate _ orderId _ _) | .driverLocation orderId _ _ =>
      OfParty person db delivery.socket orderId
  | .notice (.newCookedOrder ..) => True

/-- Every event reaches those only who may receive it. -/
def Private (e : GatewayEvent) : Prop :=
  ∀ delivery ∈ e.output.deliveries, MayReceive person e.after.db delivery

/-- Who may be in a room: in that of an owner the owner, and in that of an order
its parties. -/
structure MayJoin (db : Db) (socket room : String) : Prop where
  owner : ∀ id restaurant, db.restaurant? id = some restaurant → room = ownerRoom restaurant →
    person socket = some restaurant.ownerId
  order : ∀ orderId, room = orderRoom orderId → OfParty person db socket orderId

/-- The condition on a step: a socket joins a room only if it may be there; whoever
is in the room of an order that is yet to be made is its customer or the owner of its
restaurant; and a driver who is replaced has no socket in the room of the order. -/
def Rightful (s : GatewayState) : GatewayInput → Prop
  | .joinUserRoom socket data =>
      socket ∈ s.connected → ∀ room, userRoomName number data = some room →
        MayJoin person s.db socket room
  | .joinOrderRoom socket data =>
      socket ∈ s.connected → ∀ orderId, orderIdOf number data = some orderId →
        MayJoin person s.db socket (orderRoom orderId)
  | .order (.createOrder userId dto env) =>
      s.db.orders.find? env.orderId = none → ∀ socket,
        s.rooms.Joined socket (orderRoom env.orderId) → person socket = some userId ∨
          ∃ restaurant, s.db.restaurant? dto.restaurantId = some restaurant ∧
            person socket = some restaurant.ownerId
  | .order (.editOrderStatus userId orderId status faults) =>
      status = .pickedUp → faults = .none → ∀ user d, s.db.user? userId = some user →
        user.role = .delivery → s.db.driver? orderId = some d → d ≠ userId →
        ∀ socket, s.rooms.Joined socket (orderRoom orderId) → person socket ≠ some d
  | .connect _ | .disconnect _ | .updateDriverLocation .. => True

/-- Everybody may be in the rooms that they are in. -/
def WellJoined (s : GatewayState) : Prop :=
  ∀ socket room, s.rooms.Joined socket room → MayJoin person s.db socket room

end Privacy

/-! ### Rooms stay rightful -/

section Step

variable {number : ℚ → String} {person : String → Option String} {s : GatewayState}

theorem ownerRoom_ne_orderRoom (restaurant : RestaurantRow) (orderId : String) :
    ownerRoom restaurant ≠ orderRoom orderId := by
  intro same
  have chars := congrArg String.toList same
  simp [ownerRoom, orderRoom] at chars

/-- An owner may join the room of the owner. -/
theorem mayJoin_owner {db : Db} {socket : String} {restaurant : RestaurantRow}
    (behind : person socket = some restaurant.ownerId) :
    MayJoin person db socket (ownerRoom restaurant) where
  owner _ other _ same := by
    have own : restaurant.ownerId = other.ownerId := by simpa [ownerRoom] using same
    rw [behind, own]
  order orderId same := absurd same (ownerRoom_ne_orderRoom restaurant orderId)

/-- A party to an order may join the room of the order. -/
theorem mayJoin_order {db : Db} {socket orderId : String}
    (party : OfParty person db socket orderId) :
    MayJoin person db socket (orderRoom orderId) where
  owner _ restaurant _ same := absurd same.symm (ownerRoom_ne_orderRoom restaurant orderId)
  order other same := by
    have own : orderId = other := by simpa [orderRoom] using same
    rwa [← own]

theorem joinRoom_db {socket : String} {room : Option String} :
    (joinRoom s socket room).db = s.db := by
  cases room <;> rfl

theorem joinRoom_connected {socket : String} {room : Option String} :
    (joinRoom s socket room).connected = s.connected := by
  cases room <;> rfl

/-- A join lets in somebody who may be there. -/
theorem WellJoined.join {socket : String} {room : Option String} (joined : WellJoined person s)
    (may : ∀ name, room = some name → MayJoin person s.db socket name) :
    WellJoined person (joinRoom s socket room) := by
  unfold joinRoom
  cases room with
  | none => exact joined
  | some name =>
      intro other place here
      rcases Rooms.joined_join.mp here with ⟨rfl, rfl⟩ | old
      · exact may _ rfl
      · exact joined other place old

/-- A party stays one when the row keeps its customer and restaurant, and its driver
unless that is somebody else. -/
theorem Party.kept {db db' : Db} {row row' : OrderRow} {userId : String}
    (party : Party db row userId) (restaurants : db'.restaurants = db.restaurants)
    (customer : row'.customerId = row.customerId) (place : row'.restaurantId = row.restaurantId)
    (driver : row.driverId = some userId → row'.driverId = some userId) :
    Party db' row' userId := by
  have same : db'.restaurant? = db.restaurant? := by
    funext id
    rw [Db.restaurant?, Db.restaurant?, restaurants]
  rcases party with here | here | here
  · exact .inl (customer.trans here)
  · exact .inr (.inl (driver here))
  · exact .inr (.inr (by rwa [place, same]))

/-- A party stays one when an order is made, and whoever is in the room of the new order
is a party to it when that is its customer or the owner of its restaurant. -/
theorem OfParty.created {db db' : Db} {userId socket orderId : String} {dto : CreateOrderDto}
    {env : CreateOrderEnv} {user : UserRow} {order : NewOrder}
    (party : OfParty person db socket orderId) (known : db.user? userId = some user)
    (assembled : assembleOrder db user dto = .ok order)
    (saved : saveNewOrder db env order = some db')
    (entitled : orderId = env.orderId → db.orders.find? env.orderId = none →
      person socket = some userId ∨ ∃ restaurant, db.restaurant? dto.restaurantId =
        some restaurant ∧ person socket = some restaurant.ownerId) :
    OfParty person db' socket orderId := by
  obtain ⟨-, restaurants, total, inserted⟩ := saveNewOrder_spec saved
  obtain ⟨loaded, -, customer⟩ := assembleOrder_spec assembled
  intro row found
  rw [Table.find?_insert inserted] at found
  split at found
  · rename_i new
    cases found
    rcases entitled new (Table.insert_eq_some inserted).1 with behind | ⟨restaurant, same, behind⟩
    · exact ⟨userId, behind, .inl (by rw [NewOrder.row, customer, Db.user?_id known])⟩
    · rw [loaded, Option.some.injEq] at same
      subst same
      refine ⟨_, behind, .inr (.inr ⟨order.restaurant, ?_, rfl⟩)⟩
      rw [NewOrder.row, Option.bind_some, Db.restaurant?_id loaded, Db.restaurant?, restaurants]
      exact loaded
  · obtain ⟨partyId, behind, party⟩ := party row found
    exact ⟨partyId, behind, party.kept restaurants rfl rfl id⟩

/-- A party stays one when a status changes, unless that is the driver whom the caller
replaces. -/
theorem OfParty.edited {db : Db} {callerId editedId socket orderId : String}
    {status : OrderStatus} {user : UserRow} {order edited : LoadedOrder} (linked : Linked db)
    (party : OfParty person db socket orderId) (known : db.user? callerId = some user)
    (loaded : loadOrder db editedId = some order) (edit : Edit user order status edited)
    (stays : orderId = editedId → status = .pickedUp → user.role = .delivery → ∀ d,
      db.driver? editedId = some d → d ≠ callerId → person socket ≠ some d) :
    OfParty person (saveOrder db order.row edited.columns) socket orderId := by
  intro row found
  rw [edited_find? linked loaded edit] at found
  split at found
  · rename_i same
    subst same
    cases found
    have stored := loadOrder_row loaded
    obtain ⟨partyId, behind, party⟩ := party order.row stored
    refine ⟨partyId, behind, party.kept rfl rfl rfl fun driver => ?_⟩
    unfold OrderRow.edited
    by_cases picked : status = .pickedUp
    · -- The driver behind the socket is the one who picks the order up.
      subst picked
      have assigned : db.driver? orderId = some partyId := by
        rw [Db.driver?, stored, Option.bind_some, driver]
      have own : partyId = callerId := by
        by_contra other
        exact stays rfl rfl edit.role_of_pickedUp partyId assigned other behind
      simp [own, Db.user?_id known]
    · simpa [picked] using driver
  · obtain ⟨partyId, behind, party⟩ := party row found
    exact ⟨partyId, behind, party.kept rfl rfl rfl id⟩

/-- A call of the order service keeps the rooms rightful. -/
theorem WellJoined.order {call : OrderCall} (joined : WellJoined person s) (linked : Linked s.db)
    (rightful : Rightful number person s (.order call)) :
    WellJoined person { s with db := (orderStep s.db call).1 } := by
  have effect := orderStep_effect s.db call
  generalize (orderStep s.db call).1 = db' at effect ⊢
  generalize (orderStep s.db call).2.result = result at effect
  intro socket room here
  have may := joined socket room here
  refine ⟨fun id restaurant found => may.owner id restaurant ?_, fun orderId same => ?_⟩
  · rwa [Db.restaurant?, ← effect.static.2]
  · have party := may.order orderId same
    subst same
    cases effect with
    | refused => exact party
    | created known assembled saved =>
        refine party.created known assembled saved fun new absent => ?_
        subst new
        exact rightful absent socket here
    | edited known loaded edit =>
        refine party.edited linked known loaded edit fun same asked role d assigned other => ?_
        subst same
        exact rightful asked rfl _ d known role assigned other socket here

/-- What a call of the order service sends: nothing, the notice of a new order to the
room of a restaurant that loads, or the notices of a status change. -/
theorem sent_cases (db : Db) (call : OrderCall) :
    (orderStep db call).2.sent = [] ∨
      (∃ restaurant orderId total, db.restaurant? restaurant.id = some restaurant ∧
        (orderStep db call).2.sent =
          [.newPendingOrder (ownerRoom restaurant) orderId restaurant.id total]) ∨
      ∃ order status, (orderStep db call).2.sent = editNotices order status := by
  cases call with
  | createOrder userId dto env =>
      cases known : db.user? userId with
      | none => simp [orderStep, known]
      | some user =>
          rcases createOrder_cases db user dto env with
            ⟨e, refused⟩ | ⟨order, _, assembled, -, placed⟩
          · simp [orderStep, known, refused]
          · have loaded := (assembleOrder_spec assembled).1
            rw [← Db.restaurant?_id loaded] at loaded
            have sent : (orderStep db (.createOrder userId dto env)).2.sent =
                [CreatedOrder.notice ⟨env.orderId, env.now, order⟩] := by
              simp only [orderStep, known, placed]
            exact .inr (.inl ⟨order.restaurant, _, _, loaded, sent⟩)
  | editOrderStatus userId orderId status faults =>
      cases known : db.user? userId with
      | none => simp [orderStep, known]
      | some user =>
          rcases editOrderStatus_cases db user orderId status faults with
            ⟨e, refused, -⟩ | ⟨order, changed, -, -, -, outcome⟩
          · simp [orderStep, known, refused]
          · refine .inr (.inr ⟨changed, status, ?_⟩)
            simp only [orderStep, known, outcome]
            cases faults.commit <;> rfl

theorem editNotices_cases {order : LoadedOrder} {status : OrderStatus} {notice : Notice}
    (told : notice ∈ editNotices order status) :
    (∃ driverId, notice = .orderUpdate (orderRoom order.row.id) order.row.id status driverId) ∨
      ∃ name address, notice = .newCookedOrder order.row.id name address := by
  unfold editNotices at told
  rcases List.mem_cons.mp told with rfl | cooked
  · exact .inl ⟨_, rfl⟩
  · split at cooked
    · exact .inr ⟨_, _, List.mem_singleton.mp cooked⟩
    · cases cooked

/-- What a call of the order service sends is received by those who may. -/
theorem order_private {call : OrderCall} {delivery : Delivery} (joined : WellJoined person s)
    (after : WellJoined person { s with db := (orderStep s.db call).1 })
    (sent : delivery ∈ (orderStep s.db call).2.sent.flatMap (emitNotice s)) :
    MayReceive person (orderStep s.db call).1 delivery := by
  obtain ⟨notice, told, mem⟩ := List.mem_flatMap.mp sent
  obtain ⟨socket, here, rfl⟩ := List.mem_map.mp mem
  rcases sent_cases s.db call with
    silent | ⟨restaurant, orderId, total, loaded, single⟩ | ⟨order, status, notices⟩
  · rw [silent] at told
    cases told
  · rw [single, List.mem_singleton] at told
    subst told
    have owner := (joined socket _ (Rooms.mem_members.mp here)).owner _ _ loaded rfl
    refine ⟨restaurant, ?_, owner⟩
    rwa [Db.restaurant?, (orderStep_effect s.db call).static.2]
  · rw [notices] at told
    rcases editNotices_cases told with ⟨driverId, rfl⟩ | ⟨name, address, rfl⟩
    · exact (after socket _ (Rooms.mem_members.mp here)).order _ rfl
    · trivial

/-- The position of a driver is received by parties to the order. -/
theorem location_private {socket : String} {data : Option Json} {delivery : Delivery}
    (joined : WellJoined person s)
    (sent : delivery ∈ handleDriverLocation number s socket data) :
    MayReceive person s.db delivery := by
  unfold handleDriverLocation at sent
  split at sent
  · obtain ⟨member, here, rfl⟩ := List.mem_map.mp sent
    exact (joined member _ (Rooms.mem_members.mp (List.mem_filter.mp here).1)).order _ rfl
  · cases sent

/-- A rightful step keeps the rooms rightful, and its events are received by those who
may. -/
theorem gatewayStep_private {e : GatewayEvent}
    (step : (gateway number).step e.before e.input = (e.after, e.output))
    (linked : Linked e.before.db) (joined : WellJoined person e.before)
    (rightful : Rightful number person e.before e.input) :
    (Linked e.after.db ∧ WellJoined person e.after) ∧ Private person e := by
  obtain ⟨s, input, output, after⟩ := e
  simp only [gateway] at step linked joined rightful ⊢
  cases input with
  | connect socket =>
      cases step
      refine ⟨?_, fun _ sent => by cases sent⟩
      split
      · exact ⟨linked, joined⟩
      · exact ⟨linked, joined⟩
  | disconnect socket =>
      cases step
      refine ⟨⟨linked, ?_⟩, fun _ sent => by cases sent⟩
      intro other room here
      exact joined other room (Rooms.joined_leave.mp here).1
  | joinUserRoom socket data =>
      cases step
      refine ⟨?_, fun _ sent => by cases sent⟩
      split
      · rename_i connected
        exact ⟨by rwa [joinRoom_db], joined.join (rightful connected)⟩
      · exact ⟨linked, joined⟩
  | joinOrderRoom socket data =>
      cases step
      refine ⟨?_, fun _ sent => by cases sent⟩
      split
      · rename_i connected
        refine ⟨by rwa [joinRoom_db], joined.join fun room named => ?_⟩
        obtain ⟨orderId, asked, rfl⟩ := Option.map_eq_some_iff.mp named
        exact rightful connected orderId asked
      · exact ⟨linked, joined⟩
  | updateDriverLocation socket data =>
      cases step
      refine ⟨⟨linked, joined⟩, fun delivery sent => ?_⟩
      simp only at sent
      split at sent
      · exact location_private joined sent
      · cases sent
  | order call =>
      cases step
      have after := joined.order linked rightful
      exact ⟨⟨(orderStep_effect s.db call).linked linked, after⟩,
        fun delivery sent => order_private joined after sent⟩

/-- In a run of rightful steps from a store without orders and from empty rooms, every
event reaches those only who may receive it. -/
theorem events_private {inputs : List GatewayInput} (fresh : s.db.orders = .empty)
    (alone : s.rooms = .empty)
    (rightful : ∀ e ∈ (gateway number).history s inputs,
      Rightful number person e.before e.input) :
    ∀ e ∈ (gateway number).history s inputs, Private person e := by
  have start : Linked s.db ∧ WellJoined person s := by
    refine ⟨linked_of_no_orders fresh, fun socket room here => ?_⟩
    rw [alone] at here
    exact absurd here Rooms.not_joined_empty
  have invariant := Machine.history_invariant (fun s => Linked s.db ∧ WellJoined person s)
    (fun e : GatewayEvent => Rightful number person e.before e.input)
    (fun e step permitted inv => (gatewayStep_private step inv.1 inv.2 permitted).1)
    start rightful
  intro e mem
  obtain ⟨linked, joined⟩ := (invariant.2 e mem).1
  exact (gatewayStep_private (Machine.step_of_mem_history mem) linked joined (rightful e mem)).2

/-- The owner of the restaurant and the customer join their rooms, the customer orders,
and a driver picks the order up and sends a position. -/
def honestRun : List GatewayInput :=
  [.connect "owner",
    .joinUserRoom "owner" (some (.obj [("userId", .str "owner"), ("role", .str "Owner")])),
    .order sampleOrder, .connect "customer",
    .joinOrderRoom "customer" (some (.obj [("orderId", .str "order")])),
    .order (.editOrderStatus "driver1" "order" .pickedUp .none), .connect "driver1",
    .updateDriverLocation "driver1"
      (some (.obj [("orderId", .str "order"), ("lat", .num 37), ("lng", .num 127)]))]

/-- The owner learns of the new order, the customer of the driver and of the position, and
nobody else of anything. -/
theorem honest_run_private :
    (∀ e ∈ (gateway toString).history ⟨sampleStore, [], .empty⟩ honestRun, Private some e) ∧
      (((gateway toString).history ⟨sampleStore, [], .empty⟩ honestRun).flatMap
        fun e => e.output.deliveries) =
        [⟨"owner", .notice (.newPendingOrder "Owner:owner" "order" "kimbap" 7000)⟩,
          ⟨"customer", .notice (.orderUpdate "order:order" "order" .pickedUp (some "driver1"))⟩,
          ⟨"customer", .driverLocation "order" (some (.num 37)) (some (.num 127))⟩] := by
  refine ⟨events_private rfl rfl fun e mem => ?_, by decide +kernel⟩
  simp only [honestRun, Machine.history_cons, Machine.history_nil, List.mem_cons, List.not_mem_nil,
    or_false] at mem
  rcases mem with rfl | rfl | rfl | rfl | rfl | rfl | rfl | rfl
  · trivial
  · intro _ room named
    have own : some (ownerRoom (sampleRestaurant "kimbap" "owner")) = some room := named
    cases own
    exact mayJoin_owner rfl
  · intro _ socket here
    have elsewhere : (socket, orderRoom "order") ∈ [("owner", "Owner:owner")] := here
    simp [orderRoom] at elsewhere
  · trivial
  · intro _ orderId named
    have asked : some "order" = some orderId := named
    cases asked
    refine mayJoin_order fun row found => ?_
    have stored : orderedStore.orders.find? "order" = some row := found
    rw [orderedStore_order] at stored
    cases stored
    exact ⟨"customer", rfl, .inl rfl⟩
  · intro _ _ user d known role assigned
    have free : orderedStore.driver? "order" = some d := assigned
    rw [Db.driver?, orderedStore_order] at free
    cases free
  · trivial
  · trivial

/-- A stranger joins the room of the owner and learns of the new order. -/
theorem stranger_told :
    ¬ ∀ (number : ℚ → String) (person : String → Option String) (s : GatewayState)
      (inputs : List GatewayInput), s.db.orders = .empty → s.rooms = .empty →
      ∀ e ∈ (gateway number).history s inputs, Private person e := by
  intro all
  let join : GatewayInput :=
    .joinUserRoom "stranger" (some (.obj [("userId", .str "owner"), ("role", .str "Owner")]))
  let joined := (gateway toString).run ⟨sampleStore, [], .empty⟩ [.connect "stranger", join]
  have told := all toString (fun _ => none) ⟨sampleStore, [], .empty⟩
    [.connect "stranger", join, .order sampleOrder] rfl rfl
    ((gateway toString).event joined (.order sampleOrder)) (by simp [joined])
  have received : (⟨"stranger", .notice (.newPendingOrder "Owner:owner" "order" "kimbap" 7000)⟩ :
      Delivery) ∈ ((gateway toString).event joined (.order sampleOrder)).output.deliveries := by
    decide +kernel
  obtain ⟨restaurant, -, behind⟩ := told _ received
  cases behind

/-! ### Every event once -/

theorem emitNotice_nodup {notice : Notice} (distinct : s.connected.Nodup) :
    (emitNotice s notice).Nodup := by
  unfold emitNotice
  refine List.Nodup.map ?_ ?_
  · intro socket other same
    cases same
    rfl
  · cases notice with
    | newPendingOrder => exact Rooms.nodup_members
    | orderUpdate => exact Rooms.nodup_members
    | newCookedOrder => exact distinct

/-- The notices of a call differ, so no socket receives an event of the call twice. -/
theorem order_once {call : OrderCall} (distinct : s.connected.Nodup) :
    ((orderStep s.db call).2.sent.flatMap (emitNotice s)).Nodup := by
  have sent : (orderStep s.db call).2.sent.Nodup := by
    rcases sent_cases s.db call with
      silent | ⟨restaurant, orderId, total, -, single⟩ | ⟨order, status, notices⟩
    · rw [silent]
      exact List.nodup_nil
    · rw [single]
      exact List.nodup_singleton _
    · rw [notices]
      unfold editNotices
      split
      · simp
      · exact List.nodup_singleton _
  refine List.nodup_flatMap.mpr ⟨fun notice _ => emitNotice_nodup distinct, ?_⟩
  refine sent.imp fun differ => List.disjoint_left.mpr fun delivery here there => differ ?_
  obtain ⟨socket, -, rfl⟩ := List.mem_map.mp here
  obtain ⟨other, -, same⟩ := List.mem_map.mp there
  cases same
  rfl

theorem location_once {socket : String} {data : Option Json} :
    (handleDriverLocation number s socket data).Nodup := by
  unfold handleDriverLocation
  split
  · refine List.Nodup.map ?_ (Rooms.nodup_members.filter _)
    intro member other same
    cases same
    rfl
  · exact List.nodup_nil

theorem gatewayStep_once {e : GatewayEvent}
    (step : (gateway number).step e.before e.input = (e.after, e.output))
    (distinct : e.before.connected.Nodup) :
    e.after.connected.Nodup ∧ e.output.deliveries.Nodup := by
  obtain ⟨s, input, output, after⟩ := e
  simp only [gateway] at step distinct ⊢
  cases input with
  | connect socket =>
      cases step
      refine ⟨?_, List.nodup_nil⟩
      split
      · exact distinct
      · rename_i absent
        exact List.nodup_cons.mpr ⟨absent, distinct⟩
  | disconnect socket =>
      cases step
      exact ⟨distinct.filter _, List.nodup_nil⟩
  | joinUserRoom socket data =>
      cases step
      refine ⟨?_, List.nodup_nil⟩
      split
      · rwa [joinRoom_connected]
      · exact distinct
  | joinOrderRoom socket data =>
      cases step
      refine ⟨?_, List.nodup_nil⟩
      split
      · rwa [joinRoom_connected]
      · exact distinct
  | updateDriverLocation socket data =>
      cases step
      refine ⟨distinct, ?_⟩
      simp only
      split
      · exact location_once
      · exact List.nodup_nil
  | order call =>
      cases step
      exact ⟨distinct, order_once distinct⟩

/-- In every run from distinct sockets, no step sends an event to a socket twice. -/
theorem deliveries_once {inputs : List GatewayInput} (distinct : s.connected.Nodup) :
    ∀ e ∈ (gateway number).history s inputs, e.output.deliveries.Nodup := by
  have invariant : _ ∧ ∀ e ∈ (gateway number).history s inputs,
      e.before.connected.Nodup ∧ e.after.connected.Nodup :=
    Machine.history_invariant (fun s => s.connected.Nodup) (fun _ => True)
      (fun _ step _ inv => (gatewayStep_once step inv).1) distinct fun _ _ => trivial
  intro e mem
  exact (gatewayStep_once (Machine.step_of_mem_history mem) (invariant.2 e mem).1).2

end Step

end CoupangEats
