import MeteringBilling.Idempotency
import MeteringBilling.Library.Json
import MeteringBilling.RateLimit

/-! The middleware of `create_app` around the routes. The one that is added last is outermost: a
request gets its identifier, then its idempotency key is looked at, and then it is counted. -/

namespace MeteringBilling

structure HttpRequest where
  head : IncomingRequest
  xTenantId : Option String
  xRequestId : Option String
  client : Option String
deriving DecidableEq

structure HttpResponse where
  status : Nat
  content : Json
  headers : List (String × String)
deriving DecidableEq

/-- `response.headers[name] = value`. Names are the same in any case, and the first header of the name is replaced. -/
def HttpResponse.setHeader (name value : String) (response : HttpResponse) : HttpResponse :=
  let other (header : String × String) : Bool := header.1.toLower ≠ name.toLower
  let before := response.headers.takeWhile other
  let after := (response.headers.dropWhile other).filter other
  { response with headers := before ++ (name, value) :: after }

/-- A request with the clock reading of the limiter, whether that reaches Redis, and the identifier
that is drawn for it. -/
structure Arrival where
  request : HttpRequest
  now : ℚ
  redisUp : Bool
  uuid4 : UUID

/-- What Redis holds under the rate keys, and whatever the routes work on. -/
structure GatewayState (σ : Type) where
  rates : String → RateKey
  routes : σ

/-- An application: the response, or none where an exception gets out. -/
abbrev Handler (σ : Type) := Arrival → GatewayState σ → Option HttpResponse × GatewayState σ

variable {σ : Type}

namespace RateLimitMiddleware

def rateKey (request : HttpRequest) : String :=
  "rate:" ++ request.xTenantId.getD "anonymous" ++ ":" ++ request.client.getD "unknown"

def rateLimited (retryAfter : Int) : HttpResponse where
  status := 429
  content := .obj [("error", .str "rate_limited"), ("detail", .str "Too many requests")]
  headers := [("Retry-After", toString retryAfter), ("Content-Type", "application/json")]

def dispatch (limiter : RedisRateLimiter) (callNext : Handler σ) : Handler σ := fun arrival state =>
  let key := rateKey arrival.request
  let ((allowed, retryAfter), after) := limiter.isAllowed arrival.redisUp arrival.now (state.rates key)
  let state := { state with rates := Function.update state.rates key after }
  if !allowed then (some (rateLimited retryAfter), state) else callNext arrival state

end RateLimitMiddleware

def IdempotencyMiddleware.handle (callNext : Handler σ) : Handler σ := fun arrival state =>
  match dispatch arrival.request.head with
  | .respond status detail => (some ⟨status, .obj [("detail", .str detail)], []⟩, state)
  | .callNext => callNext arrival state

namespace RequestIDMiddleware

def requestId (arrival : Arrival) : String := arrival.request.xRequestId.getD arrival.uuid4.str

def dispatch (callNext : Handler σ) : Handler σ := fun arrival state =>
  let (response, state) := callNext arrival state
  (response.map (HttpResponse.setHeader "X-Request-ID" (requestId arrival)), state)

end RequestIDMiddleware

/-- The handler of exceptions that nothing else handles, outside of all middleware. -/
def internalError : HttpResponse where
  status := 500
  content := .obj [("error", .str "internal_error"), ("detail", .str "An unexpected error occurred")]
  headers := []

section

variable (limiter : RedisRateLimiter) (router : HttpRequest → σ → Option HttpResponse × σ)

/-- The routes, with the handlers of their own exceptions. -/
def routed : Handler σ := fun arrival state =>
  let (response, routes) := router arrival.request state.routes
  (response, { state with routes })

def createApp (arrival : Arrival) (state : GatewayState σ) : HttpResponse × GatewayState σ :=
  let app := RequestIDMiddleware.dispatch (IdempotencyMiddleware.handle (RateLimitMiddleware.dispatch limiter (routed router)))
  let (response, state) := app arrival state
  (response.getD internalError, state)

def gateway : Machine Arrival (GatewayState σ) where
  step arrival state := some (createApp limiter router arrival state).2

end

end MeteringBilling
