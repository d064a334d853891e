import CoupangEats.Base.Json
import Mathlib.Data.List.Infix

/-!
What is logged of a request.

`RequestLoggerMiddleware` logs every request at its start, with its body, and at
its end; `ErrorFilter` logs every exception, with the body as a text in which the
password is masked when the url contains `/auth/signup` or `/auth/signin`. The
routes are spelled `sign-up` and `sign-in`, so nothing is masked
(`routes_unmasked`), and the entry of the start tells any two bodies apart
(`logs_equal_iff`).

Ids, times and durations are left out of the entries.
-/

namespace CoupangEats

open CoupangEats.Base

/-! ### The logger -/

/-- The environments; `local` is `onLocal`. -/
inductive Env where
  | test
  | onLocal
  | dev
  | prod
  deriving DecidableEq, Repr

def Env.text : Env → String
  | .test => "test"
  | .onLocal => "local"
  | .dev => "dev"
  | .prod => "prod"

structure AppConfig where
  env : Env
  name : String

inductive LogLevel where
  | info
  | warn
  | error
  deriving DecidableEq, Repr

/-- A log of a plain object. -/
structure Log where
  message : String
  app : Option String
  env : Option String
  data : Json
  deriving DecidableEq

structure LogEntry where
  level : LogLevel
  context : String
  log : Log
  deriving DecidableEq

/-- The logger of a class. -/
structure LoggerService where
  config : AppConfig
  caller : String

namespace LoggerService

variable (logger : LoggerService)

def format (data : Json) (message : String) : Log :=
  if logger.config.env = .onLocal then ⟨message, none, none, data⟩
  else ⟨message, some logger.config.name, some logger.config.env.text, data⟩

@[simp]
theorem format_inj {a b : Json} {message : String} :
    logger.format a message = logger.format b message ↔ a = b := by
  unfold format
  split_ifs <;> simp

def makeContextString (detailedContext : String) : String :=
  logger.caller ++ "." ++ detailedContext

def info (detailedContext : String) (data : Json) (message : String) : List LogEntry :=
  [⟨.info, logger.makeContextString detailedContext, logger.format data message⟩]

/-- Warnings are not written in tests. -/
def warn (detailedContext : String) (data : Json) (message : String) : List LogEntry :=
  if logger.config.env = .test then []
  else [⟨.warn, logger.makeContextString detailedContext, logger.format data message⟩]

/-- Nor are errors. -/
def error (detailedContext : String) (data : Json) (message : String) : List LogEntry :=
  if logger.config.env = .test then []
  else [⟨.error, logger.makeContextString detailedContext, logger.format data message⟩]

end LoggerService

/-! ### Requests and their outcomes -/

/-- A request with an object as its body. -/
structure LoggedRequest where
  method : String
  originalUrl : String
  url : String
  body : Fields
  query : Json
  ip : String
  userAgent : Option String

/-- What an `HttpException` carries as its response. -/
inductive HttpPayload where
  | text (message : String)
  | object (fields : Fields)
  deriving DecidableEq

/-- An exception; those of the framework have a status and a response. -/
structure Thrown where
  name : String
  message : String
  stack : String
  http : Option (Nat × HttpPayload)
  deriving DecidableEq

/-- How a request ends, with the headers of an error response. -/
inductive RequestOutcome where
  | success (statusCode : Nat)
  | failure (exception : Thrown) (headers : Fields)
  deriving DecidableEq

def Thrown.statusCode (exception : Thrown) : Nat := (exception.http.map Prod.fst).getD 500

/-- The first text, or the second one when it is empty. -/
def orElseText (text default : String) : String := if text = "" then default else text

def Thrown.responseMessage (exception : Thrown) : Json :=
  let message : Json := .str (orElseText exception.message "Internal Server Error")
  match exception.http with
  | none => message
  | some (_, .text text) => .str text
  | some (_, .object fields) => ((fields.read "message").filter Json.truthy).getD message

def RequestOutcome.statusCode : RequestOutcome → Nat
  | .success statusCode => statusCode
  | .failure exception _ => exception.statusCode

/-! ### The two components -/

/-- A property of an object is replaced where it stands, or added at the end. -/
def putField (name : String) (value : Json) : Fields → Fields
  | [] => [(name, value)]
  | (property, old) :: rest =>
      if property = name then (property, value) :: rest
      else (property, old) :: putField name value rest

/-- `includes` on texts. -/
def includes (text part : String) : Bool := decide (part.toList <:+: text.toList)

section Components

variable (config : AppConfig) (stringify : Json → String) (request : LoggedRequest)

/-- `RequestLoggerMiddleware.use`, at the start of a request. -/
def startRequest : List LogEntry :=
  LoggerService.info ⟨config, "RequestLoggerMiddleware"⟩ "RequestLoggerMiddleware"
    (.obj ([("method", .str request.method), ("url", .str request.originalUrl),
      ("body", .obj request.body), ("query", request.query), ("ip", .str request.ip)] ++
      request.userAgent.toList.map fun agent => ("userAgent", .str agent)))
    ("Start Request: " ++ request.method ++ " " ++ request.originalUrl)

/-- `RequestLoggerMiddleware.use`, when the response is finished. -/
def finishRequest (statusCode : Nat) : List LogEntry :=
  LoggerService.info ⟨config, "RequestLoggerMiddleware"⟩ "RequestLoggerMiddleware"
    (.obj [("method", .str request.method), ("url", .str request.originalUrl),
      ("statusCode", .num statusCode)])
    ("Finish Request: " ++ request.method ++ " " ++ request.originalUrl ++ " " ++
      toString statusCode)

/-- Whether the filter takes a url for a sign-up or a sign-in. -/
def isAuthRequest (url : String) : Bool :=
  includes url "/auth/signup" || includes url "/auth/signin"

/-- `ErrorFilter.getRequestBody`; `stringify` is `JSON.stringify`. -/
def getRequestBody : String :=
  if isAuthRequest request.url then
    stringify (.obj (putField "password" (.str "******") request.body))
  else stringify (.obj request.body)

/-- `ErrorFilter.catch`, without the response that it sends. -/
def catchException (exception : Thrown) (headers : Fields) : List LogEntry :=
  let logger : LoggerService := ⟨config, "ErrorFilter"⟩
  let errorResponse : Json := .obj
    ([("statusCode", .num exception.statusCode), ("message", exception.responseMessage),
        ("path", .str request.url), ("error", .str (orElseText exception.name "Error"))] ++
      if config.env = .prod then [] else [("stack", .str exception.stack)])
  let req : Json := .obj [("method", .str request.method), ("url", .str request.url),
    ("query", request.query), ("body", .str (getRequestBody stringify request))]
  let res : Json := .obj [("status", .num exception.statusCode), ("headers", .obj headers)]
  (if 500 ≤ exception.statusCode then
      logger.error "ErrorFilter" errorResponse "An error occurred."
    else []) ++
    logger.warn "ErrorFilter"
      (.obj [("request", req), ("response", res), ("body", errorResponse),
        ("exception", .str exception.stack)])
      ("RESPONSE(ERROR): [" ++ request.method ++ "]" ++ request.url)

/-- What the two components log of a request. -/
def requestLogs (outcome : RequestOutcome) : List LogEntry :=
  startRequest config request ++
    (match outcome with
      | .success _ => []
      | .failure exception headers => catchException config stringify request exception headers) ++
    finishRequest config request outcome.statusCode

end Components

/-! ### The password in a body -/

/-- The routes that take a password. -/
def passwordRoutes : List (String × String) :=
  [("POST", "/auth/sign-up"), ("POST", "/auth/sign-in"), ("PATCH", "/users/profile")]

/-- The rest of a body around its `password`. -/
structure AroundPassword where
  before : Fields
  after : Fields
  other : ∀ entry ∈ before ++ after, entry.1 ≠ "password"

namespace AroundPassword

variable (rest : AroundPassword)

/-- The body with a password, or without one. -/
def body (password : Option Json) : Fields :=
  rest.before ++ (password.toList.map fun value => ("password", value)) ++ rest.after

/-- A body tells its password. -/
theorem body_inj {p q : Option Json} : rest.body p = rest.body q ↔ p = q := by
  constructor
  · intro same
    have middle := List.append_cancel_left (List.append_cancel_right same)
    cases p <;> cases q <;> simp_all
  · rintro rfl
    rfl

/-- The mask goes over the password, where one was sent. -/
theorem putField_body (mask p : Json) :
    putField "password" mask (rest.body (some p)) = rest.body (some mask) := by
  have skips : ∀ entries : Fields, (∀ entry ∈ entries, entry.1 ≠ "password") → ∀ tail : Fields,
      putField "password" mask (entries ++ tail) = entries ++ putField "password" mask tail := by
    intro entries
    induction entries with
    | nil => intro _ tail; rfl
    | cons entry entries ih =>
        intro others tail
        simp only [List.cons_append, putField]
        rw [if_neg (others entry List.mem_cons_self),
          ih (fun entry mem => others entry (List.mem_cons_of_mem _ mem))]
  have before : ∀ entry ∈ rest.before, entry.1 ≠ "password" := fun entry mem =>
    rest.other entry (List.mem_append_left _ mem)
  simp [body, skips _ before, putField]

end AroundPassword

/-! ### What the entries tell of the password -/

section TwoRequests

variable (config : AppConfig) (stringify : Json → String) (request : LoggedRequest)
  (rest : AroundPassword)

/-- The entry of the start has the body as it was sent. -/
theorem startRequest_body_inj {a b : Fields} :
    startRequest config { request with body := a } =
      startRequest config { request with body := b } ↔ a = b := by
  simp [startRequest, LoggerService.info]

/-- In a url of one of the routes nothing calls for the mask. -/
theorem routes_unmasked : ∀ route ∈ passwordRoutes, isAuthRequest route.2 = false := by
  decide

/-- The filter keeps two passwords apart unless it writes nothing or masks them. -/
theorem catchException_body_inj (exception : Thrown) (headers : Fields)
    (faithful : Function.Injective stringify) {p q : Json} :
    catchException config stringify { request with body := rest.body (some p) } exception headers =
        catchException config stringify { request with body := rest.body (some q) } exception
          headers ↔
      config.env = .test ∨ isAuthRequest request.url = true ∨ p = q := by
  have same_body : getRequestBody stringify { request with body := rest.body (some p) } =
      getRequestBody stringify { request with body := rest.body (some q) } ↔
        isAuthRequest request.url = true ∨ p = q := by
    unfold getRequestBody
    by_cases auth : isAuthRequest request.url = true
    · simp [auth, AroundPassword.putField_body]
    · simp [auth, faithful.eq_iff, AroundPassword.body_inj]
  rw [← same_body]
  by_cases silent : config.env = .test
  · simp [catchException, LoggerService.error, LoggerService.warn, silent]
  · simp [catchException, LoggerService.warn, silent]

/-- Two requests that differ at most in the password are logged alike only if
they have the same password: the entry of the start tells. -/
theorem logs_equal_iff (outcome : RequestOutcome) (p q : Option Json) :
    requestLogs config stringify { request with body := rest.body p } outcome =
        requestLogs config stringify { request with body := rest.body q } outcome ↔
      p = q := by
  constructor
  · intro same
    have starts : startRequest config { request with body := rest.body p } =
        startRequest config { request with body := rest.body q } := by
      simp only [requestLogs, List.append_assoc] at same
      exact List.append_inj_left same rfl
    apply rest.body_inj.1
    exact (startRequest_body_inj config request).1 starts
  · rintro rfl
    rfl

end TwoRequests

/-- A sign-in, before it has a body. -/
def signInRequest : LoggedRequest where
  method := "POST"
  originalUrl := "/auth/sign-in"
  url := "/auth/sign-in"
  body := []
  query := .obj []
  ip := "::1"
  userAgent := none

/-- The fields of a sign-in around its password. -/
def signInFields : AroundPassword where
  before := [("email", .str "a@b.c")]
  after := []
  other := by decide

/-- Two sign-ins that succeed with different passwords are logged differently. -/
theorem sign_ins_logged_apart :
    ¬ ∀ (config : AppConfig) (stringify : Json → String) (request : LoggedRequest)
        (rest : AroundPassword) (outcome : RequestOutcome) (p q : Option Json),
      (request.method, request.originalUrl) ∈ passwordRoutes →
        requestLogs config stringify { request with body := rest.body p } outcome =
          requestLogs config stringify { request with body := rest.body q } outcome := by
  intro alike
  have same := alike ⟨.prod, "api"⟩ (fun _ => "") signInRequest signInFields (.success 200)
    (some (.str "first-password")) (some (.str "other-password")) (by decide)
  simp [requestLogs, startRequest, LoggerService.info, AroundPassword.body] at same

end CoupangEats
