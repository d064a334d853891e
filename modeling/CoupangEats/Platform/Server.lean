import CoupangEats.Auth.Acceptance
import CoupangEats.Auth.Account
import CoupangEats.Catalogue.Category
import CoupangEats.Order.Cron
import CoupangEats.Platform.Writes
import CoupangEats.User.Cache

/-!
The server: every request that can change something, and the cleanup job.

A request of a member passes the global guards, which look its token up in the
blacklist and load the token's user, then the role guard of its route, and then goes to
its controller as a request of that user. The public routes sign accounts up and in,
verify addresses and renew tokens. `server` answers them all on one store and one
cache. Of the reading routes only the one of the profiles is among them, which fills
the cache.
-/

namespace CoupangEats

open CoupangEats.Base

/-! ### State and requests -/

/-- The database, the cache, and the categories with all their columns; the store
shows the live ones of them. -/
structure ServerState where
  db : Db
  redis : Redis
  categories : Categories

/-- What a deployment provides: the token library, the settings and the comparison of
passwords with their hashes, the lower case of the language and its calendar. -/
structure Deployment where
  jwt : Jwt
  config : JwtConfig
  compare : String → String → Bool
  toLowerCase : String → String
  dayBefore : Time → Time

/-- A request behind the guards. -/
inductive MemberRequest where
  | signOut (now : Time)
  | updateUser (dto : Fields) (env : UpdateEnv)
  | getUser (userId : String) (env : WrapEnv)
  | createCategory (call : CategoryCall)
  | catalogue (request : CatalogueRequest) (env : CatalogueEnv)
  | createOrder (dto : CreateOrderDto) (env : CreateOrderEnv)
  | editOrderStatus (orderId : String) (status : OrderStatus) (faults : Faults)
  | createPayment (body : Fields) (generated : String)
  | review (request : ReviewRequest) (env : CatalogueEnv)

/-- What makes the server act: a request, or the time of the cleanup job. -/
inductive ServerCall where
  | signUp (body : SignUpBody) (env : SignUpEnv)
  | verifyEmail (token : String) (env : VerifyEnv)
  | signIn (email password : String) (clock : Clock)
  | refresh (guarded : Time) (clock : Clock) (cookie : Option String)
  | member (now : Time) (authHeader : Option String) (request : MemberRequest)
  | cron (now : Time)

inductive ServerAnswer where
  | done
  | tokens (pair : TokenPair)
  | profile (account : Json)
  | category (row : CategoryEntity)
  | catalogue (answer : CatalogueAnswer)
  | order (order : CreatedOrder ⊕ LoadedOrder)
  | payment (row : PaymentRow)
  | review (answer : ReviewAnswer)

/-- What a request is answered with, and the notices that it has sent. -/
structure ServerReply where
  result : Except ApiError ServerAnswer
  sent : List Notice

/-! ### Guards -/

/-- The `@Roles` of a route. -/
def MemberRequest.roles : MemberRequest → Option (List Role)
  | .catalogue _ _ => some [.owner]
  | .createOrder _ _ | .createPayment _ _ | .review _ _ => some [.client]
  | .signOut _ | .updateUser _ _ | .getUser _ _ | .createCategory _ | .editOrderStatus _ _ _ =>
      none

/-- `RolesGuard.canActivate`. -/
def rolesGuard (required : Option (List Role)) (user : UserRow) : Bool :=
  match required with
  | none => true
  | some roles => roles.contains user.role

theorem rolesGuard_client {user : UserRow} :
    rolesGuard (some [.client]) user = true ↔ user.role = .client := by
  simp [rolesGuard]

/-! ### Handlers -/

/-- The live categories, as the store shows them. -/
def liveCategories (categories : Categories) : Table String CategoryRow CategoryRow.id where
  rows := (getAllCategories categories).map fun category =>
    ⟨category.id, category.name, category.slug⟩
  unique := by
    rw [List.map_map]
    exact (categories.filter fun category => category.deletedAt.isNone).unique

section Server

variable (deployment : Deployment)

/-- The controller of a member's request. -/
def serveMember (s : ServerState) (user : UserRow) (authHeader : Option String) :
    MemberRequest → ServerState × ServerReply
  | .signOut now =>
      let accessToken := (bearerToken authHeader).getD ""
      ({ s with redis := revokeAllUserTokens deployment.config s.redis now user.id accessToken },
        ⟨.ok .done, []⟩)
  | .updateUser dto env =>
      let out := updateProfile ⟨s.db, s.redis⟩ user.id dto env
      ({ s with db := out.1.db, redis := out.1.redis }, ⟨out.2.map fun _ => .done, []⟩)
  | .getUser userId env =>
      if isUuid userId then
        let out := CoupangEats.getUser ⟨s.db, s.redis⟩ userId env
        ({ s with redis := out.1.redis }, ⟨out.2.map .profile, []⟩)
      else (s, ⟨.error (.badRequest "Validation failed (uuid is expected)"), []⟩)
  | .createCategory call =>
      let out := (categoryService deployment.toLowerCase).step s.categories call
      ({ s with db := { s.db with categories := liveCategories out.1 }, categories := out.1 },
        ⟨out.2.map .category, []⟩)
  | .catalogue request env =>
      let out := catalogue.step s.db ⟨user.id, request, env⟩
      ({ s with db := out.1 }, ⟨out.2.map .catalogue, []⟩)
  | .createOrder dto env =>
      let out := orderService.step s.db (.createOrder user.id dto env)
      ({ s with db := out.1 }, ⟨out.2.result.map .order, out.2.sent⟩)
  | .editOrderStatus orderId status faults =>
      let out := orderService.step s.db (.editOrderStatus user.id orderId status faults)
      ({ s with db := out.1 }, ⟨out.2.result.map .order, out.2.sent⟩)
  | .createPayment body generated =>
      let out := paymentService.step s.db ⟨user.id, body, generated⟩
      ({ s with db := out.1 }, ⟨out.2.map .payment, []⟩)
  | .review request env =>
      let out := reviewService.step s.db ⟨user.id, request, env⟩
      ({ s with db := out.1 }, ⟨out.2.map .review, []⟩)

/-- The user that the guards find behind a request, if they let it pass. -/
def admitMember (s : ServerState) (now : Time) (authHeader : Option String)
    (request : MemberRequest) : Except ApiError UserRow :=
  match authorize false deployment.jwt deployment.config s.db s.redis now authHeader with
  | .error e => .error e
  | .ok none => .error (.unauthorized "invalid token")
  | .ok (some user) =>
      if rolesGuard request.roles user then .ok user
      else .error (.forbidden "Forbidden resource")

/-- The server as a machine. -/
def server : Machine ServerState ServerCall ServerReply where
  step s
    | .signUp body env =>
        let out := signUp s.db s.redis body env
        ({ s with db := out.db, redis := out.redis }, ⟨out.result.map fun _ => .done, []⟩)
    | .verifyEmail token env =>
        let out := verifyEmail ⟨s.db, s.redis⟩ token env
        ({ s with db := out.1.db, redis := out.1.redis }, ⟨out.2.map fun _ => .done, []⟩)
    | .signIn email password clock =>
        let out := signIn deployment.jwt deployment.config s.db deployment.compare s.redis email
          password clock
        ({ s with redis := out.2 }, ⟨out.1.map .tokens, []⟩)
    | .refresh guarded clock cookie =>
        let out := refresh deployment.jwt deployment.config s.redis guarded clock cookie
        ({ s with redis := out.2 }, ⟨out.1.map .tokens, []⟩)
    | .member now authHeader request =>
        match admitMember deployment s now authHeader request with
        | .error e => (s, ⟨.error e, []⟩)
        | .ok user => serveMember deployment s user authHeader request
    | .cron now =>
        match handleCron deployment.dayBefore now s.db with
        | .error e => (s, ⟨.error e, []⟩)
        | .ok db => ({ s with db }, ⟨.ok .done, []⟩)

end Server

abbrev ServerEvent := Event ServerState ServerCall ServerReply

/-- The user of an admitted request. -/
def actor (deployment : Deployment) (s : ServerState) : ServerCall → Option UserRow
  | .member now authHeader request => (admitMember deployment s now authHeader request).toOption
  | _ => none

section Admission

variable {deployment : Deployment} {s : ServerState} {now : Time} {authHeader : Option String}
  {request : MemberRequest} {user : UserRow}

/-- Who is admitted has a valid access token, is stored, and has a role of the route. -/
theorem admitMember_eq_ok
    (admitted : admitMember deployment s now authHeader request = .ok user) :
    s.db.user? user.id = some user ∧ rolesGuard request.roles user = true ∧
      ∃ token payload, bearerToken authHeader = some token ∧
        deployment.jwt.verify deployment.config.accessSecret token = some payload ∧
        payload.type = .access ∧ payload.sub = user.id := by
  unfold admitMember at admitted
  split at admitted
  · cases admitted
  · cases admitted
  · rename_i found authorized
    split_ifs at admitted with role
    cases admitted
    have accepted := (authorize_eq_ok authorized).2
    simp only [accessTokenGuard, Bool.false_eq_true, if_false] at accepted
    split at accepted
    · cases accepted
    · rename_i token read
      split at accepted
      · cases accepted
      · rename_i payload verified
        split_ifs at accepted with expired type
        split at accepted
        · cases accepted
        · rename_i known
          cases accepted
          have id := Db.user?_id known
          exact ⟨by rw [id, known], role, token, payload, read, verified, not_not.mp type, id.symm⟩

end Admission

end CoupangEats
