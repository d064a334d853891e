import CoupangEats.Entity

/-!
The life of an order, apart from everything else.

An order is between a customer and the owner of a restaurant. `OrderLife.next` says what a
request about it makes of its status, its driver, its payment and its review, and which
requests it refuses. Nothing but this decides about an order.
-/

namespace CoupangEats

structure Parties where
  customer : String
  restaurantId : String
  owner : String

structure OrderLife where
  status : OrderStatus
  driver : Option String
  paid : Bool
  reviewed : Bool
  deriving DecidableEq, Repr

/-- A request about an order, and who makes it. -/
inductive LifeRequest where
  | edit (userId : String) (role : Role) (status : OrderStatus)
  | pay (userId : String)
  | review (userId restaurantId : String)
  deriving DecidableEq, Repr

namespace OrderLife

/-- The life of a new order. -/
def placed : OrderLife := ⟨.pending, none, false, false⟩

variable (parties : Parties)

/-- The life behind a request, unless it is refused. -/
def next (life : OrderLife) : LifeRequest → Option OrderLife
  | .edit _ .client _ => none
  | .edit userId .owner status =>
      if userId = parties.owner ∧ (status = .cooking ∨ status = .cooked) then
        some { life with status }
      else none
  | .edit userId .delivery .pickedUp =>
      some { life with status := .pickedUp, driver := some userId }
  | .edit userId .delivery .delivered =>
      if life.driver = some userId then some { life with status := .delivered } else none
  | .edit _ .delivery _ => none
  | .pay userId =>
      if userId = parties.customer ∧ life.paid = false then some { life with paid := true }
      else none
  | .review userId restaurantId =>
      if userId = parties.customer ∧ restaurantId = parties.restaurantId ∧
          life.status = .delivered ∧ life.reviewed = false then
        some { life with reviewed := true }
      else none

/-- The order has been started or paid for. -/
def Underway (life : OrderLife) : Prop := life.status ≠ .pending ∨ life.paid = true

variable {parties}

/-- No request brings an order back behind its start and its payment. -/
theorem next_underway {life after : OrderLife} {request : LifeRequest} (underway : life.Underway)
    (next : life.next parties request = some after) : after.Underway := by
  cases request with
  | edit userId role status =>
      cases role with
      | client => cases next
      | owner =>
          obtain ⟨⟨-, asked⟩, same⟩ := Option.ite_none_right_eq_some.mp next
          cases same
          left
          rcases asked with rfl | rfl <;> simp
      | delivery =>
          left
          cases status with
          | pickedUp =>
              cases next
              simp
          | delivered =>
              obtain ⟨-, same⟩ := Option.ite_none_right_eq_some.mp next
              cases same
              simp
          | pending | cooking | cooked => cases next
  | pay userId =>
      obtain ⟨-, same⟩ := Option.ite_none_right_eq_some.mp next
      cases same
      exact .inr rfl
  | review userId restaurantId =>
      obtain ⟨-, same⟩ := Option.ite_none_right_eq_some.mp next
      cases same
      exact underway

end OrderLife

end CoupangEats
