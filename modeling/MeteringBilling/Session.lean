import MeteringBilling.Library.Effect
import MeteringBilling.Models

/-! A request runs on one database session. Everything it does not decide itself is in
its environment: clocks, fresh identifiers, Stripe's answers, whether Redis answers, and
a fault for any statement it executes. -/

namespace MeteringBilling

structure Settings where
  stripePriceIdPro : String := "price_..."
  stripePriceIdFree : String := "price_..."
  frontendUrl : String := "http://localhost:3000"
  priceApiCallPerThousand : Int := 1000000
  priceInputTokenPerThousand : Int := 150
  priceCachedInputTokenPerThousand : Int := 75
  priceOutputTokenPerThousand : Int := 600
  priceReasoningTokenPerThousand : Int := 600

/-- The statements a request sends to the database, by their place in the source. -/
inductive Statement where
  | selectActiveSubscription | selectPlan | sumMonthlyUsage | sumMonthlyUsageBreakdown | sumMonthlyCost
  | insertUsageEvent | selectUsageEvent
  | selectTenant | selectCurrentTenant | insertTenant | updateTenant | commitTenant | refreshTenant
  | selectSubscription | insertSubscription | updateSubscription | refreshSubscription | upsertSubscription
  | selectProcessedEvent | insertProcessedEvent | commitProcessedEvent | refreshProcessedEvent
  | commitRequest
deriving DecidableEq

/-- The places where the source calls `datetime.now`. -/
inductive Clock where
  | checkQuota | usageCacheKey | getAllQuotas | usagePeriod | periodStart | periodEnd | upsert | canceledAt
deriving DecidableEq

/-- The models whose `id` column defaults to `uuid4`. -/
inductive Row where
  | tenant | subscription | usageEvent | processedStripeEvent
deriving DecidableEq

inductive CacheOperation where
  | get | set | delete
deriving DecidableEq

/-- What a request finds around it. A retried call is a new attempt: it reads the clocks
again and meets its own faults. `transactionStart` is the server's `now()`. -/
structure Env where
  settings : Settings
  attempt : Nat
  transactionStart : Int
  now : Nat → Clock → DateTime
  uuid4 : Nat → Row → UUID
  fault : Nat → Statement → Option String
  redisUp : CacheOperation → String → Bool
  customer : Except String Customer
  apiKey : String × String

namespace Env

/-- The same surroundings with a database that never fails. -/
def calm (env : Env) : Env := { env with fault := fun _ _ => none }

def Quiet (env : Env) : Prop := ∀ attempt place, env.fault attempt place = none

theorem calm_quiet (env : Env) : env.calm.Quiet := fun _ _ => rfl

theorem Quiet.calm {env : Env} (quiet : env.Quiet) : env.calm = env := by
  have same : (fun _ _ => none) = env.fault := by funext attempt place; exact (quiet attempt place).symm
  rw [Env.calm, same]

def retry (attempt : Nat) (env : Env) : Env := { env with attempt }

end Env

structure CacheEntry where
  value : Json
  ttlSeconds : Nat
deriving DecidableEq

abbrev Redis := String → Option CacheEntry

/-- `working` is what the transaction sees: the committed rows and its own writes. After a
failed statement the transaction is aborted until it is rolled back. -/
structure Session where
  committed : Database
  working : Database
  aborted : Bool
  redis : Redis

abbrev Request (α : Type) := Effect Env PyError Session α

def inFailedTransaction : PyError :=
  .database "current transaction is aborted, commands ignored until end of transaction block"

variable {α : Type}

/-- Execute one statement. A fault of the environment, or an error of the statement
itself, aborts the transaction. -/
def statement (place : Statement) (run : Database → Except PyError (α × Database)) : Request α := fun env session =>
  if session.aborted then (.error inFailedTransaction, session)
  else match env.fault env.attempt place with
    | some message => (.error (.database message), { session with aborted := true })
    | none => match run session.working with
      | .ok (value, working) => (.ok value, { session with working })
      | .error error => (.error error, { session with aborted := true })

def query (place : Statement) (read : Database → α) : Request α :=
  statement place fun database => .ok (read database, database)

def execute (place : Statement) (write : Database → Except PyError Database) : Request Unit :=
  statement place fun database => (write database).map fun after => ((), after)

def commit (place : Statement) : Request Unit := fun env session =>
  if session.aborted then (.error inFailedTransaction, session)
  else match env.fault env.attempt place with
    | some message => (.error (.database message), { session with aborted := true })
    | none => (.ok (), { session with committed := session.working })

def rollback : Request Unit :=
  Effect.modify fun session => { session with working := session.committed, aborted := false }

/-- `result.scalar_one_or_none()`. Raised by the driver, it does not abort the transaction. -/
def scalarOneOrNone : List α → Request (Option α)
  | [] => pure none
  | [row] => pure (some row)
  | _ => Effect.raise .multipleResultsFound

def now (place : Clock) : Request DateTime := Effect.ask fun env => env.now env.attempt place

def uuid4 (row : Row) : Request UUID := Effect.ask fun env => env.uuid4 env.attempt row

structure Store where
  database : Database
  redis : Redis

def Store.open (store : Store) : Session where
  committed := store.database
  working := store.database
  aborted := false
  redis := store.redis

/-- `get_db` after its `yield`: commit what the endpoint did, or roll back and raise. -/
def getDb : Except PyError Unit → Request Unit
  | .ok _ => Effect.handle (commit .commitRequest) fun error => do rollback; Effect.raise error
  | .error error => do rollback; Effect.raise error

/-- Serve one request on a session of its own. The reply is the endpoint's: the code after
`yield` runs when the endpoint has returned or raised. -/
def serve (endpoint : Request α) (env : Env) (store : Store) : Except PyError α × Store :=
  let (reply, session) := endpoint env store.open
  let (_, session) := getDb (reply.map fun _ => ()) env session
  (reply, ⟨session.committed, session.redis⟩)

end MeteringBilling
