import MeteringBilling.Runs

/-! What an event does to the tables, as a value: a handler reads first and then writes one
change. The handlers are proved to compute these. -/

namespace MeteringBilling

inductive Change where
  | nothing
  | upsert (row : Subscription)
  | enroll (tenant : Tenant) (row : Subscription)
  | create (row : Subscription)
  | assign (time : Int) (loaded assigned : Subscription)
deriving DecidableEq

namespace Change

/-- The tables after a change; none when a constraint rejects it. -/
def applied? : Change → Database → Option Database
  | .nothing, database => some database
  | .upsert row, database => (database.upsertSubscription row).toOption
  | .enroll tenant row, database => do
    let enrolled ← (database.insertTenant tenant).toOption
    (enrolled.upsertSubscription row).toOption
  | .create row, database => (database.insertSubscription row).toOption
  | .assign time loaded assigned, database => (database.updateSubscription time loaded assigned).toOption

/-- The tenant whose cached subscription the handler drops. -/
def tenantId? : Change → Option UUID
  | .nothing => none
  | .upsert row | .enroll _ row | .create row => some row.tenantId
  | .assign _ loaded _ => some loaded.tenantId

def invalidated (env : Env) (change : Change) (redis : Redis) : Redis :=
  match change.tenantId? with
  | none => redis
  | some tenantId =>
    if env.redisUp .delete (subscriptionCacheKey tenantId) then
      Function.update redis (subscriptionCacheKey tenantId) none
    else redis

end Change

namespace Database

def tenant? (database : Database) (tenantId : UUID) : Option Tenant := database.tenants.find? (·.id == tenantId)

def subscription? (database : Database) (id : String) : Option Subscription :=
  database.subscriptions.find? (·.stripeSubscriptionId == some id)

def processedRows (database : Database) (eventId : String) : List ProcessedStripeEvent :=
  database.processedStripeEvents.select (·.eventId == eventId)

end Database

def CheckoutSession.row (session : CheckoutSession) (env : Env) (tenantId : UUID) : Subscription where
  id := env.uuid4 env.attempt .subscription
  tenantId := tenantId
  planId := checkoutTier env.settings session
  stripeSubscriptionId := session.subscription
  status := .active
  currentPeriodStart := some (env.now env.attempt .periodStart).timestamp
  currentPeriodEnd := some ((env.now env.attempt .periodEnd).timestamp + 30 * microsecondsPerDay)
  cancelAtPeriodEnd := false
  canceledAt := none
  updatedAt := (env.now env.attempt .upsert).timestamp

/-- The tenant a checkout without a tenant enrolls. -/
def Customer.tenant (customer : Customer) (env : Env) (email : String) : Tenant where
  id := env.uuid4 env.attempt .tenant
  name := if email = "" then "New Tenant" else localPart email
  email := email
  apiKeyHash := some env.apiKey.2
  stripeCustomerId := some customer.id
  createdAt := env.transactionStart

/-- A checkout without a subscription looks for a row without one, and several are too many. -/
def CheckoutSession.Ambiguous (session : CheckoutSession) (database : Database) : Prop :=
  1 < (database.subscriptionsOf session.subscription).length

instance (session : CheckoutSession) (database : Database) : Decidable (session.Ambiguous database) :=
  inferInstanceAs (Decidable (1 < _))

/-- The tenant a checkout names, if there is such a tenant. The outer none is a checkout that
names no tenant. -/
def CheckoutSession.named? (session : CheckoutSession) (database : Database) : Option (Option UUID) :=
  ((session.metadata.bind Metadata.tenantId).filter (· ≠ "")).map fun text =>
    (UUID.parse? text).filter fun tenantId => (database.tenant? tenantId).isSome

def CheckoutSession.HasGet (session : CheckoutSession) : Prop := ∀ metadata ∈ session.metadata, metadata.hasGet = true

instance (session : CheckoutSession) : Decidable session.HasGet :=
  inferInstanceAs (Decidable (∀ metadata ∈ session.metadata, metadata.hasGet = true))

def CheckoutSession.change? (session : CheckoutSession) (env : Env) (database : Database) : Option Change :=
  if ¬ session.HasGet then none else match session.named? database with
  | some none => some .nothing
  | some (some tenantId) =>
    if session.Ambiguous database then none else some (.upsert (session.row env tenantId))
  | none => do
    let customer ← env.customer.toOption
    let email ← customer.email
    let tenant := customer.tenant env email
    if session.Ambiguous database then none else some (.enroll tenant (session.row env tenant.id))

/-- An invoice sets the status of its subscription's row. -/
def Invoice.change? (invoice : Invoice) (status : SubscriptionStatus) (env : Env) (database : Database) :
    Option Change := do
  let subscription ← (invoiceSubscription invoice).toOption
  pure (match subscription.bind database.subscription? with
    | none => .nothing
    | some row => .assign env.transactionStart row { row with status })

namespace StripeSubscription

def created? (subscription : StripeSubscription) (env : Env) (database : Database) : Option Change :=
  match database.subscription? subscription.id with
  | some row => do
    let status ← (subscriptionStatus subscription.status).toOption
    pure (.assign env.transactionStart row { row with status })
  | none => do
    let row ← (newSubscription env.settings (env.uuid4 env.attempt .subscription) env.transactionStart
      subscription).toOption
    row.map .create

def updated? (subscription : StripeSubscription) (env : Env) (database : Database) : Option Change :=
  match database.subscription? subscription.id with
  | none => some .nothing
  | some row => do
    let assigned ← (assignUpdate env.settings subscription row).toOption
    pure (.assign env.transactionStart row assigned)

def cancellationTime? (subscription : StripeSubscription) (env : Env) : Option Int :=
  match canceledAtSeconds subscription with
  | some seconds => (fromTimestamp (some seconds)).toOption
  | none => some (env.now env.attempt .canceledAt).timestamp

def deleted? (subscription : StripeSubscription) (env : Env) (database : Database) : Option Change :=
  match database.subscription? subscription.id with
  | none => some .nothing
  | some row => do
    let canceledAt ← subscription.cancellationTime? env
    pure (.assign env.transactionStart row { row with status := .canceled, canceledAt := some canceledAt })

end StripeSubscription

/-- The change an event asks for; none when its handler raises before it writes. -/
def EventData.change? (data : EventData) (env : Env) (database : Database) : Option Change :=
  match data with
  | .checkoutCompleted session => session.change? env database
  | .paymentSucceeded invoice => invoice.change? .active env database
  | .paymentFailed invoice => invoice.change? .pastDue env database
  | .subscriptionCreated subscription => subscription.created? env database
  | .subscriptionUpdated subscription => subscription.updated? env database
  | .subscriptionDeleted subscription => subscription.deleted? env database
  | .subscriptionTrialWillEnd subscription => do
    let metadata ← subscription.metadata
    let _tenantId ← metadata.getTenantId.toOption
    pure .nothing
  | .invoiceUpcoming invoice => do
    let _id ← invoice.id
    let _amountDue ← invoice.amountDue
    pure .nothing
  | .unhandled _ => some .nothing

/-- The tables after a handler; none when it raises. -/
def EventData.process? (data : EventData) (env : Env) (database : Database) : Option Database :=
  (data.change? env database).bind fun change => change.applied? database

/-- The row that marks an event processed. -/
def StripeEvent.mark (event : StripeEvent) (env : Env) : ProcessedStripeEvent where
  id := env.uuid4 env.attempt .processedStripeEvent
  eventId := event.id
  eventType := event.data.type
  payload := event.payload
  tenantId := none

/-- Everything a delivery commits: the writes of the handler and the mark, or nothing. -/
def StripeEvent.applied? (event : StripeEvent) (env : Env) (database : Database) : Option Database := do
  let after ← event.data.process? env database
  (after.insertProcessedEvent (event.mark env)).toOption

/-- The delivery marks its event, which was not marked before. -/
def Delivery.Commits (delivery : Delivery) (store : Store) : Prop :=
  store.database.processedRows delivery.event.id = [] ∧
    (delivery.after store).database.processedRows delivery.event.id ≠ []

instance (delivery : Delivery) (store : Store) : Decidable (delivery.Commits store) :=
  inferInstanceAs (Decidable (_ ∧ _))

end MeteringBilling
