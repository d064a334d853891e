import CoupangEats.Base.Cascade
import CoupangEats.Core.Migration
import CoupangEats.Platform.Integrity

/-!
The foreign keys of the migration.

The store has a table for each of the schema's, and `Db.references` reads its rows by the
names of their columns. Seen so, every reference that a foreign key of the migration is
about is to a row that is there, in every state that the server reaches, and the cleanup
job deletes what the foreign keys say (`foreign_keys_obeyed`).
-/

namespace CoupangEats

open CoupangEats.Base

/-! ### The store by columns -/

def DishRow.references (row : DishRow) : String → Option String
  | "restaurant_id" => some row.restaurantId
  | _ => none

def RestaurantRow.references (row : RestaurantRow) : String → Option String
  | "owner_id" => some row.ownerId
  | "category_id" => row.categoryId
  | _ => none

def OrderItemRow.references (row : OrderItemRow) : String → Option String
  | "order_id" => row.orderId
  | "dish_id" => row.dishId
  | _ => none

def OrderRow.references (row : OrderRow) : String → Option String
  | "customer_id" => row.customerId
  | "driver_id" => row.driverId
  | "restaurant_id" => row.restaurantId
  | _ => none

def ReviewRow.references (row : ReviewRow) : String → Option String
  | "client_id" => row.clientId
  | "restaurant_id" => row.restaurantId
  | "order_id" => row.orderId
  | _ => none

def PaymentRow.references (row : PaymentRow) : String → Option String
  | "user_id" => some row.userId
  | "restaurant_id" => some row.restaurantId
  | "order_id" => some row.orderId
  | _ => none

/-- The rows of the store under the names of the schema. -/
def Db.references (db : Db) : Rows String
  | "category", id => (db.categories.find? id).map fun _ _ => none
  | "dish", id => (db.dishes.find? id).map DishRow.references
  | "restaurant", id => (db.restaurants.find? id).map RestaurantRow.references
  | "order_item", id => (db.orderItems.find? id).map OrderItemRow.references
  | "order", id => (db.orders.find? id).map OrderRow.references
  | "user", id => (db.users.find? id).map fun _ _ => none
  | "reviews", id => (db.reviews.find? id).map ReviewRow.references
  | "payment", id => (db.payments.find? id).map PaymentRow.references
  | _, _ => none

/-! ### References -/

section Integral

variable {db : Db}

/-- References that are to rows of a table are to rows under its name. -/
theorem stored_of_refers {ρ ρ' : Type} {key : ρ → String} {key' : ρ' → String}
    {t : Table String ρ key} {u : Table String ρ' key'} {ref : ρ → Option String}
    {suits : ρ → ρ' → Prop} {columns : ρ → String → Option String}
    {columns' : ρ' → String → Option String} {column : String} (refers : t.Refers ref u suits)
    (same : ∀ row, columns row column = ref row) (k : String) (row : String → Option String)
    (target : String) (stored : (t.find? k).map columns = some row)
    (here : row column = some target) : ((u.find? target).map columns').isSome := by
  obtain ⟨found, there, rfl⟩ := Option.map_eq_some_iff.mp stored
  rw [same] at here
  obtain ⟨found', there', -⟩ := refers found (Table.mem_of_find? there) target here
  rw [there']
  rfl

/-- Payments and reviews refer to the customer and the restaurant of their order. -/
theorem Sound.payers (sound : Sound db) :
    db.payments.Refers (fun payment => some payment.userId) db.users fun _ _ => True := by
  intro payment mem k here
  obtain ⟨order, found, customer, -⟩ := sound.payments payment mem payment.orderId rfl
  obtain ⟨user, stored, -⟩ :=
    sound.customers order (Table.mem_of_find? found) k (customer.trans here)
  exact ⟨user, stored, trivial⟩

theorem Sound.payees (sound : Sound db) :
    db.payments.Refers (fun payment => some payment.restaurantId) db.restaurants
      fun _ _ => True := by
  intro payment mem k here
  obtain ⟨order, found, -, place⟩ := sound.payments payment mem payment.orderId rfl
  exact sound.places order (Table.mem_of_find? found) k (place.trans here)

theorem Sound.reviewers (sound : Sound db) :
    db.reviews.Refers ReviewRow.clientId db.users fun _ _ => True := by
  intro review mem k here
  obtain ⟨orderId, of⟩ := Option.isSome_iff_exists.mp (sound.reviewed review mem)
  obtain ⟨order, found, customer, -⟩ := sound.reviews review mem orderId of
  obtain ⟨user, stored, -⟩ :=
    sound.customers order (Table.mem_of_find? found) k (customer.symm.trans here)
  exact ⟨user, stored, trivial⟩

theorem Sound.reviewees (sound : Sound db) :
    db.reviews.Refers ReviewRow.restaurantId db.restaurants fun _ _ => True := by
  intro review mem k here
  obtain ⟨orderId, of⟩ := Option.isSome_iff_exists.mp (sound.reviewed review mem)
  obtain ⟨order, found, -, place, -⟩ := sound.reviews review mem orderId of
  exact sound.places order (Table.mem_of_find? found) k (place.symm.trans here)

/-- In a sound store every foreign key is kept. -/
theorem Sound.integral (sound : Sound db) : Integral InitialSchema.foreignKeys db.references := by
  intro key mem
  simp only [InitialSchema.foreignKeys, List.mem_cons, List.not_mem_nil, or_false] at mem
  rcases mem with rfl | rfl | rfl | rfl | rfl | rfl | rfl | rfl | rfl | rfl | rfl | rfl | rfl | rfl
  · exact stored_of_refers sound.menus fun _ => rfl
  · exact stored_of_refers sound.owners fun _ => rfl
  · exact stored_of_refers sound.categories fun _ => rfl
  · exact stored_of_refers sound.dishes fun _ => rfl
  · exact stored_of_refers sound.items fun _ => rfl
  · exact stored_of_refers sound.customers fun _ => rfl
  · exact stored_of_refers sound.drivers fun _ => rfl
  · exact stored_of_refers sound.places fun _ => rfl
  · exact stored_of_refers sound.reviewers fun _ => rfl
  · exact stored_of_refers sound.reviewees fun _ => rfl
  · exact stored_of_refers sound.reviews fun _ => rfl
  · exact stored_of_refers sound.payers fun _ => rfl
  · exact stored_of_refers sound.payees fun _ => rfl
  · exact stored_of_refers sound.payments fun _ => rfl

end Integral

/-! ### The cleanup job -/

section Cleanup

variable {db db' : Db} {selected : OrderRow → Bool}

/-- The rows that `DELETE FROM order WHERE selected` selects. -/
def Db.SelectedRow (db : Db) (selected : OrderRow → Bool) (table id : String) : Prop :=
  table = "order" ∧ db.Selected selected id

theorem goes_order {id : String} (chosen : db.Selected selected id) :
    Goes InitialSchema.foreignKeys db.references (db.SelectedRow selected) "order" id := by
  refine .selected ?_ ⟨rfl, chosen⟩
  obtain ⟨order, mem, -, rfl⟩ := chosen
  simp [Db.references, Table.find?_of_mem mem]

/-- The selected orders go, and their items. -/
theorem goes_iff {table id : String} :
    Goes InitialSchema.foreignKeys db.references (db.SelectedRow selected) table id ↔
      table = "order" ∧ db.Selected selected id ∨
        table = "order_item" ∧ ∃ item, db.orderItems.find? id = some item ∧
          db.SelectedRef selected item.orderId := by
  constructor
  · intro goes
    induction goes with
    | selected stored chosen => exact .inl chosen
    | @cascade key k row target mem cascades stored refers gone ih =>
        simp only [InitialSchema.foreignKeys, List.mem_cons, List.not_mem_nil, or_false] at mem
        rcases mem with rfl | rfl | rfl | rfl | rfl | rfl | rfl | rfl | rfl | rfl | rfl | rfl |
          rfl | rfl <;> simp at cascades ih
        obtain ⟨item, found, rfl⟩ := Option.map_eq_some_iff.mp stored
        exact .inr ⟨rfl, item, found, target, refers, ih⟩
  · rintro (⟨rfl, chosen⟩ | ⟨rfl, item, found, orderId, of, chosen⟩)
    · exact goes_order chosen
    · have mem : (⟨"FK_e9674a6053adbaa1057848cddfa", "order_item", "order_id", "order", "id",
          .cascade⟩ : ForeignKey) ∈ InitialSchema.foreignKeys := by
        simp [InitialSchema.foreignKeys]
      have stored : db.references "order_item" id = some item.references := by
        simp [Db.references, found]
      exact .cascade mem rfl stored of (goes_order chosen)

/-- The reviews of the selected orders lose their reference, and nothing else does. -/
theorem nulled_iff {table column : String} {value : Option String} :
    Nulled InitialSchema.foreignKeys db.references (db.SelectedRow selected) table column value ↔
      table = "reviews" ∧ column = "order_id" ∧ db.SelectedRef selected value := by
  constructor
  · rintro ⟨key, mem, nulls, rfl, rfl, target, rfl, gone⟩
    rw [goes_iff] at gone
    simp only [InitialSchema.foreignKeys, List.mem_cons, List.not_mem_nil, or_false] at mem
    rcases mem with rfl | rfl | rfl | rfl | rfl | rfl | rfl | rfl | rfl | rfl | rfl | rfl |
      rfl | rfl <;> simp at nulls gone
    exact ⟨rfl, rfl, target, rfl, gone⟩
  · rintro ⟨rfl, rfl, target, rfl, chosen⟩
    have mem : (⟨"FK_e4b0ed40bdd0f318108612c2851", "reviews", "order_id", "order", "id",
        .setNull⟩ : ForeignKey) ∈ InitialSchema.foreignKeys := by
      simp [InitialSchema.foreignKeys]
    exact ⟨_, mem, rfl, rfl, rfl, target, rfl, goes_order chosen⟩

/-- The statement is refused exactly for a payment of a selected order. -/
theorem refused_iff :
    Refused InitialSchema.foreignKeys db.references (db.SelectedRow selected) ↔
      ∃ payment ∈ db.payments.rows, db.Selected selected payment.orderId := by
  constructor
  · rintro ⟨key, mem, action, id, row, target, stored, refers, gone⟩
    rw [goes_iff] at gone
    simp only [InitialSchema.foreignKeys, List.mem_cons, List.not_mem_nil, or_false] at mem
    rcases mem with rfl | rfl | rfl | rfl | rfl | rfl | rfl | rfl | rfl | rfl | rfl | rfl |
      rfl | rfl <;> simp at action gone
    obtain ⟨payment, found, rfl⟩ := Option.map_eq_some_iff.mp stored
    cases refers
    exact ⟨payment, Table.mem_of_find? found, gone⟩
  · rintro ⟨payment, stored, chosen⟩
    have mem : (⟨"FK_f5221735ace059250daac9d9803", "payment", "order_id", "order", "id",
        .noAction⟩ : ForeignKey) ∈ InitialSchema.foreignKeys := by
      simp [InitialSchema.foreignKeys]
    have here : db.references "payment" payment.id = some payment.references := by
      simp [Db.references, Table.find?_of_mem stored]
    exact ⟨_, mem, rfl, payment.id, payment.references, payment.orderId, here, rfl,
      goes_order chosen⟩

/-- Other tables are as before. -/
theorem references_of_deleteOrders (deleted : deleteOrders db selected = .ok db')
    {table id : String} (order : table ≠ "order") (item : table ≠ "order_item")
    (review : table ≠ "reviews") : db'.references table id = db.references table id := by
  obtain ⟨users, categories, restaurants, dishes, payments⟩ := deleteOrders_static deleted
  unfold Db.references
  split
  · rw [categories]
  · rw [dishes]
  · rw [restaurants]
  · exact absurd rfl item
  · exact absurd rfl order
  · rw [users]
  · exact absurd rfl review
  · rw [payments]
  · rfl

theorem selected_iff {order : OrderRow} (found : db.orders.find? order.id = some order) :
    db.Selected selected order.id ↔ selected order = true := by
  constructor
  · rintro ⟨other, mem, chosen, same⟩
    have here := Table.find?_of_mem mem
    rw [same, found, Option.some.injEq] at here
    rw [here]
    exact chosen
  · exact fun chosen => ⟨order, Table.mem_of_find? found, chosen, rfl⟩

theorem references_orders (deleted : deleteOrders db selected = .ok db') (id : String) :
    db'.references "order" id = deleteRows InitialSchema.foreignKeys db.references
      (db.SelectedRow selected) "order" id := by
  by_cases chosen : db.Selected selected id
  · rw [deleteRows_of_goes (goes_order chosen)]
    obtain ⟨order, mem, hit, rfl⟩ := chosen
    simp [Db.references, deleteOrders_find? deleted, Table.find?_of_mem mem, hit]
  · rw [deleteRows_of_kept]
    · simp only [Db.references, deleteOrders_find? deleted]
      cases found : db.orders.find? id with
      | none => rfl
      | some order =>
          obtain rfl := Table.key_of_find? found
          have missed : selected order = false := by
            simpa using (selected_iff found).not.mp chosen
          simp [missed]
    · simpa [goes_iff] using chosen
    · simp [nulled_iff]

theorem references_items (deleted : deleteOrders db selected = .ok db') (id : String) :
    db'.references "order_item" id = deleteRows InitialSchema.foreignKeys db.references
      (db.SelectedRow selected) "order_item" id := by
  have after : db'.references "order_item" id = ((db.orderItems.find? id).filter fun item =>
      !decide (db.SelectedRef selected item.orderId)).map OrderItemRow.references := by
    simp only [Db.references, deleteOrders_items deleted, Table.find?_filter]
  rw [after]
  by_cases goes : Goes InitialSchema.foreignKeys db.references (db.SelectedRow selected)
      "order_item" id
  · rw [deleteRows_of_goes goes]
    obtain ⟨item, found, chosen⟩ : ∃ item, db.orderItems.find? id = some item ∧
        db.SelectedRef selected item.orderId := by simpa [goes_iff] using goes
    simp [found, chosen]
  · rw [deleteRows_of_kept goes (by simp [nulled_iff])]
    cases found : db.orderItems.find? id with
    | none => simp [Db.references, found]
    | some item =>
        have kept : ¬ db.SelectedRef selected item.orderId := fun chosen =>
          goes (goes_iff.mpr (.inr ⟨rfl, item, found, chosen⟩))
        simp [Db.references, found, kept]

theorem references_reviews (deleted : deleteOrders db selected = .ok db') (id : String) :
    db'.references "reviews" id = deleteRows InitialSchema.foreignKeys db.references
      (db.SelectedRow selected) "reviews" id := by
  have stays : ¬ Goes InitialSchema.foreignKeys db.references (db.SelectedRow selected)
      "reviews" id := by simp [goes_iff]
  have after : db'.references "reviews" id = ((db.reviews.find? id).map fun review =>
      if db.SelectedRef selected review.orderId then { review with orderId := none }
      else review).map ReviewRow.references := by
    unfold deleteOrders at deleted
    split at deleted
    · cases deleted
    · cases deleted
      simp only [Db.references, Table.find?_mapRows]
  rw [after, deleteRows, if_neg stays, Option.map_map]
  simp only [Db.references, Option.map_map]
  congr 1
  funext review column
  simp only [Function.comp_apply, nulled_iff, true_and]
  by_cases here : column = "order_id"
  · subst here
    have own : review.references "order_id" = review.orderId := rfl
    by_cases chosen : db.SelectedRef selected review.orderId
    · simp [chosen, ReviewRow.references]
    · simp [own, chosen]
  · have same (orderId : Option String) :
        ({ review with orderId } : ReviewRow).references column = review.references column := by
      unfold ReviewRow.references
      split <;> first | rfl | exact absurd rfl here
    simp only [here, false_and, if_false]
    split_ifs
    · exact same none
    · rfl

/-- The statement does to the rows what the foreign keys say. -/
theorem deleteOrders_references (deleted : deleteOrders db selected = .ok db') :
    db'.references =
      deleteRows InitialSchema.foreignKeys db.references (db.SelectedRow selected) := by
  funext table id
  by_cases order : table = "order"
  · rw [order]
    exact references_orders deleted id
  · by_cases item : table = "order_item"
    · rw [item]
      exact references_items deleted id
    · by_cases review : table = "reviews"
      · rw [review]
        exact references_reviews deleted id
      · rw [references_of_deleteOrders deleted order item review, deleteRows_of_kept]
        · simp [goes_iff, order, item]
        · simp [nulled_iff, review]

/-- On any store, the job does what the foreign keys say. -/
theorem handleCron_references (dayBefore : Time → Time) (now : Time) (db : Db) :
    (handleCron dayBefore now db = .error queryFailed ∧
        Refused InitialSchema.foreignKeys db.references
          (db.SelectedRow (Stale dayBefore now))) ∨
      ∃ db', handleCron dayBefore now db = .ok db' ∧
        ¬ Refused InitialSchema.foreignKeys db.references
          (db.SelectedRow (Stale dayBefore now)) ∧
        db'.references = deleteRows InitialSchema.foreignKeys db.references
          (db.SelectedRow (Stale dayBefore now)) := by
  rw [refused_iff]
  by_cases paid : ∃ payment ∈ db.payments.rows,
      db.Selected (Stale dayBefore now) payment.orderId
  · exact .inl ⟨if_pos paid, paid⟩
  · exact .inr ⟨_, if_neg paid, paid, deleteOrders_references (if_neg paid)⟩

/-- On any store, the job keeps the foreign keys. -/
theorem handleCron_integral {dayBefore : Time → Time} {now : Time}
    (integral : Integral InitialSchema.foreignKeys db.references)
    (deleted : handleCron dayBefore now db = .ok db') :
    Integral InitialSchema.foreignKeys db'.references := by
  rcases handleCron_references dayBefore now db with ⟨failed, -⟩ | ⟨after, done, allowed, rows⟩
  · rw [failed] at deleted
    cases deleted
  · rw [done] at deleted
    cases deleted
    rw [rows]
    exact integral.delete allowed

end Cleanup

/-! ### Runs -/

/-- The job's event does to the rows what the foreign keys say: it is refused, or it deletes
the stale orders and what goes with them. -/
def ObeysForeignKeys (deployment : Deployment) (now : Time) (e : ServerEvent) : Prop :=
  let rows := e.before.db.references
  let stale := e.before.db.SelectedRow (Stale deployment.dayBefore now)
  (e.output.result = .error queryFailed ∧ e.after = e.before ∧
      Refused InitialSchema.foreignKeys rows stale) ∨
    e.output.result = .ok .done ∧ ¬ Refused InitialSchema.foreignKeys rows stale ∧
      e.after.db.references = deleteRows InitialSchema.foreignKeys rows stale

/-- In every run of the server from a sound store by calls with declared fields, every
foreign key of the migration holds at every moment, and every run of the cleanup job
deletes exactly what the foreign keys say. -/
theorem foreign_keys_obeyed {deployment : Deployment} {s : ServerState} {calls : List ServerCall}
    (start : ServerSound s) (declared : ∀ call ∈ calls, call.Declared) :
    ∀ e ∈ (server deployment).history s calls,
      Integral InitialSchema.foreignKeys e.before.db.references ∧
        Integral InitialSchema.foreignKeys e.after.db.references ∧
        ∀ now, e.input = .cron now → ObeysForeignKeys deployment now e := by
  intro e mem
  obtain ⟨step, -, before, after⟩ := start.along declared e mem
  refine ⟨before.db.integral, after.db.integral, ?_⟩
  intro now cron
  obtain ⟨s, call, reply, s'⟩ := e
  obtain rfl : call = .cron now := cron
  simp only [server] at step
  rcases handleCron_references deployment.dayBefore now s.db with
    ⟨failed, refused⟩ | ⟨db, done, allowed, rows⟩
  · rw [failed] at step
    obtain ⟨rfl, rfl⟩ := Prod.mk.inj step
    exact .inl ⟨rfl, rfl, refused⟩
  · rw [done] at step
    obtain ⟨rfl, rfl⟩ := Prod.mk.inj step
    exact .inr ⟨rfl, allowed, rows⟩

/-- The opening day ends with a run of the job. -/
theorem opening_day_obeys :
    ObeysForeignKeys sampleDeployment 1 ((server sampleDeployment).event
      ((server sampleDeployment).run .empty (openingDay.take 5)) (.cron 1)) := by
  have last : (server sampleDeployment).history .empty openingDay =
      (server sampleDeployment).history .empty (openingDay.take 5) ++
        (server sampleDeployment).event
          ((server sampleDeployment).run .empty (openingDay.take 5)) (.cron 1) :: [] := rfl
  exact (foreign_keys_obeyed serverSound_empty openingDay_declared _
    (Machine.mem_of_split last)).2.2 1 rfl

end CoupangEats
