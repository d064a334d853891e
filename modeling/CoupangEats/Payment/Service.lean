import CoupangEats.Base.Machine
import CoupangEats.Columns

/-!
Payments.

`processPayment` finds the order, checks that the caller is its customer and
that no payment refers to it, and saves an entity made of the whole body. The
order keeps its status, so a paid order stays `Pending` until its owner accepts
it.
-/

namespace CoupangEats

open CoupangEats.Base

/-- What the validation pipe asks of a `CreatePaymentDto`. -/
def validPayment (body : Fields) : Bool :=
  (body.readString "transactionId").isSome && (body.readString "orderId").isSome

/-- `findOneByFilters({ orderId })` on the payments. -/
def Db.paymentOf? (db : Db) (orderId : String) : Option PaymentRow :=
  db.payments.rows.find? fun payment => payment.deletedAt.isNone && payment.orderId = orderId

/-- `CreatePaymentDto.toEntity`. -/
def paymentEntity (body : Fields) (user : UserRow) (order : OrderRow) : Fields :=
  body ++ [("user", .obj [("id", .str user.id)]), ("order", .obj [("id", .str order.id)]),
    ("restaurantId", orNull .str order.restaurantId)]

def processPayment (db : Db) (user : UserRow) (body : Fields) (generated : String) :
    Except ApiError (PaymentRow × Db) :=
  let orderId := (body.readString "orderId").getD ""
  match db.orders.find? orderId with
  | none => .error (.notFound ("don't exist " ++ orderId))
  | some order =>
      if order.customerId ≠ some user.id then
        .error (.badRequest "You cannot pay for this order.")
      else
        match db.paymentOf? order.id with
        | some _ => .error (.badRequest "Order is already paid.")
        | none =>
            match paymentMapping.save db.acceptsPayment generated db.payments
                (paymentEntity body user order) with
            | none => .error queryFailed
            | some (payment, payments) => .ok (payment, { db with payments })

/-- A request to the payment controller by the user of an access token;
`generated` is the id of a payment that brings none. -/
structure PaymentCall where
  userId : String
  body : Fields
  generated : String

/-- `POST /payments`: the token's user, the role guard, the validation pipe and
the service. -/
def createPayment (db : Db) (call : PaymentCall) : Except ApiError (PaymentRow × Db) :=
  match db.user? call.userId with
  | none => .error (.unauthorized "User not found")
  | some user =>
      if user.role ≠ .client then .error (.forbidden "Forbidden resource")
      else if validPayment call.body then processPayment db user call.body call.generated
      else .error (.badRequest "Bad Request Exception")

/-- The payment controller as a machine on the store. -/
def paymentService : Machine Db PaymentCall (Except ApiError PaymentRow) where
  step db call :=
    match createPayment db call with
    | .error e => (db, .error e)
    | .ok (payment, db') => (db', .ok payment)

end CoupangEats
