import Mathlib.Algebra.Ring.Int.Defs
import MeteringBilling.Session

/-! The repositories: one function for each method, one statement for each round trip. The
queries themselves are functions of a database, so that a proof can speak about them
without running a session. -/

namespace MeteringBilling

namespace Database

def hasTenant (database : Database) (tenantId : UUID) : Bool := database.tenants.rows.any (·.id == tenantId)

def hasPlan (database : Database) (planId : PlanTier) : Bool := database.plans.rows.any (·.id == planId)

def subscriptionsOf (database : Database) (stripeSubscriptionId : Option String) : List Subscription :=
  database.subscriptions.select (·.stripeSubscriptionId == stripeSubscriptionId)

def activeSubscriptions (database : Database) (tenantId : UUID) : List Subscription :=
  database.subscriptions.select fun row => row.tenantId == tenantId && row.status.meters

def eventsOf (database : Database) (key : UsageKey) : List UsageEvent :=
  database.usageEvents.select (·.key == key)

/-- The rows of the billing month that starts at an instant. There is no upper bound. -/
def monthlyEvents (database : Database) (tenantId : UUID) (start : Int) : List UsageEvent :=
  database.usageEvents.select fun row => row.tenantId == tenantId && decide (start ≤ row.createdAt)

def monthlyUsage (database : Database) (tenantId : UUID) (usageType : UsageType) (start : Int) : Int :=
  (((database.monthlyEvents tenantId start).filter (·.usageType == usageType)).map UsageEvent.quantity).sum

/-- `GROUP BY usage_type`: a type without rows has no group. -/
def monthlyUsageBreakdown (database : Database) (tenantId : UUID) (start : Int) : List (UsageType × Int) :=
  (UsageType.all.filter fun type => (database.monthlyEvents tenantId start).any (·.usageType == type)).map
    fun type => (type, database.monthlyUsage tenantId type start)

def monthlyCost (database : Database) (tenantId : UUID) (start : Int) : Int :=
  ((database.monthlyEvents tenantId start).map UsageEvent.costMicrounits).sum

/-- `INSERT .. ON CONFLICT (tenant_id, idempotency_key, usage_type) DO NOTHING RETURNING`. The
values must fit their columns before a conflict is looked for. -/
def insertUsageEvent (event : UsageEvent) (database : Database) : Except PyError (Option UsageEvent × Database) :=
  if ¬ event.Storable then .error (.database "value too long or out of range for its column")
  else if database.usageEvents.rows.any (·.key == event.key) then .ok (none, database)
  else if !database.hasTenant event.tenantId then .error (.integrity "usage_events_tenant_id_fkey")
  else match database.usageEvents.insert? event with
    | some usageEvents => .ok (some event, { database with usageEvents })
    | none => .error (.integrity "usage_events_pkey")

def insertTenant (tenant : Tenant) (database : Database) : Except PyError Database :=
  if ¬ tenant.Storable then .error (.database "value too long for type character varying(255)")
  else match database.tenants.insert? tenant with
  | some tenants => .ok { database with tenants }
  | none => .error (.integrity "ix_tenants_stripe_customer_id")

def insertSubscription (row : Subscription) (database : Database) : Except PyError Database :=
  if !database.hasTenant row.tenantId then .error (.integrity "subscriptions_tenant_id_fkey")
  else if !database.hasPlan row.planId then .error (.integrity "subscriptions_plan_id_fkey")
  else match database.subscriptions.insert? row with
    | some subscriptions => .ok { database with subscriptions }
    | none => .error (.integrity "ix_subscriptions_tenant_id")

/-- The columns `upsert_from_stripe` sets on a row it finds. -/
def refreshed (row stored : Subscription) : Subscription :=
  { stored with
    status := row.status
    currentPeriodStart := row.currentPeriodStart
    currentPeriodEnd := row.currentPeriodEnd
    planId := row.planId
    cancelAtPeriodEnd := row.cancelAtPeriodEnd
    updatedAt := row.updatedAt }

theorem refreshed_keeps (row first second : Subscription) :
    Keyed.Clash (refreshed row first) second ↔ Keyed.Clash first second := Iff.rfl

/-- `ON CONFLICT (stripe_subscription_id) DO UPDATE`. The other unique column, `tenant_id`, is
no arbiter: a row that clashes on it alone makes the statement fail. -/
def upsertSubscription (row : Subscription) (database : Database) : Except PyError Database :=
  if row.stripeSubscriptionId ≠ none ∧ database.subscriptionsOf row.stripeSubscriptionId ≠ [] then
    if !database.hasPlan row.planId then .error (.integrity "subscriptions_plan_id_fkey")
    else .ok { database with
      subscriptions := database.subscriptions.update (·.stripeSubscriptionId == row.stripeSubscriptionId)
        (refreshed row) (refreshed_keeps row) }
  else database.insertSubscription row

/-- The columns an `UPDATE` of the mapper carries: those whose value differs from the loaded
one, and `updated_at`, if there are any. -/
def flushed (time : Int) (loaded assigned stored : Subscription) : Subscription :=
  if assigned = loaded then stored
  else { stored with
    planId := if assigned.planId = loaded.planId then stored.planId else assigned.planId
    status := if assigned.status = loaded.status then stored.status else assigned.status
    currentPeriodStart := if assigned.currentPeriodStart = loaded.currentPeriodStart then stored.currentPeriodStart
      else assigned.currentPeriodStart
    currentPeriodEnd := if assigned.currentPeriodEnd = loaded.currentPeriodEnd then stored.currentPeriodEnd
      else assigned.currentPeriodEnd
    cancelAtPeriodEnd := if assigned.cancelAtPeriodEnd = loaded.cancelAtPeriodEnd then stored.cancelAtPeriodEnd
      else assigned.cancelAtPeriodEnd
    canceledAt := if assigned.canceledAt = loaded.canceledAt then stored.canceledAt else assigned.canceledAt
    updatedAt := time }

theorem flushed_keeps (time : Int) (loaded assigned first second : Subscription) :
    Keyed.Clash (flushed time loaded assigned first) second ↔ Keyed.Clash first second := by
  unfold flushed; split <;> exact Iff.rfl

def updateSubscription (time : Int) (loaded assigned : Subscription) (database : Database) : Except PyError Database :=
  if assigned.planId ≠ loaded.planId ∧ !database.hasPlan assigned.planId then
    .error (.integrity "subscriptions_plan_id_fkey")
  else .ok { database with
    subscriptions := database.subscriptions.update (·.id == loaded.id) (flushed time loaded assigned)
      (flushed_keeps time loaded assigned) }

def insertProcessedEvent (row : ProcessedStripeEvent) (database : Database) : Except PyError Database :=
  if row.payload = none then .error (.database "(builtins.TypeError) Object is not JSON serializable")
  else match database.processedStripeEvents.insert? row with
  | some processedStripeEvents => .ok { database with processedStripeEvents }
  | none => .error (.integrity "processed_stripe_events_pkey")

end Database

namespace UsageRepository

def recordUsage (tenantId : UUID) (idempotencyKey : String) (usageType : UsageType) (quantity costMicrounits : Int)
    (requestIp userAgent : Option String) : Request (Option UsageEvent) := do
  let id ← uuid4 .usageEvent
  let createdAt ← Effect.ask Env.transactionStart
  let inserted ← statement .insertUsageEvent (Database.insertUsageEvent
    { id, tenantId, idempotencyKey, usageType, quantity, costMicrounits, requestIp, userAgent, createdAt })
  match inserted with
  | some event => pure (some event)
  | none => do
    let existing ← query .selectUsageEvent (·.eventsOf ⟨tenantId, idempotencyKey, usageType⟩)
    scalarOneOrNone existing

def getMonthlyUsage (tenantId : UUID) (usageType : UsageType) (startOfMonth : DateTime) : Request Int :=
  query .sumMonthlyUsage (·.monthlyUsage tenantId usageType startOfMonth.timestamp)

def getMonthlyUsageBreakdown (tenantId : UUID) (startOfMonth : DateTime) : Request (List (UsageType × Int)) :=
  query .sumMonthlyUsageBreakdown (·.monthlyUsageBreakdown tenantId startOfMonth.timestamp)

def getMonthlyCost (tenantId : UUID) (startOfMonth : DateTime) : Request Int :=
  query .sumMonthlyCost (·.monthlyCost tenantId startOfMonth.timestamp)

end UsageRepository

def PlanRepository.getById (planTier : PlanTier) : Request (Option Plan) := do
  scalarOneOrNone (← query .selectPlan (·.plans.select (·.id == planTier)))

namespace TenantRepository

def create (name email apiKeyHash : String) (stripeCustomerId : Option String) : Request Tenant := do
  let id ← uuid4 .tenant
  let createdAt ← Effect.ask Env.transactionStart
  let tenant := { id, name, email, apiKeyHash := some apiKeyHash, stripeCustomerId, createdAt : Tenant }
  execute .insertTenant (Database.insertTenant tenant)
  query .refreshTenant fun _ => ()
  pure tenant

def get (tenantId : UUID) : Request (Option Tenant) := do
  scalarOneOrNone (← query .selectTenant (·.tenants.select (·.id == tenantId)))

end TenantRepository

namespace SubscriptionRepository

def getActiveByTenant (tenantId : UUID) : Request (Option Subscription) := do
  scalarOneOrNone (← query .selectActiveSubscription (·.activeSubscriptions tenantId))

/-- Comparing the column with `None` asks for null, which any number of rows may hold. -/
def getByStripeId (stripeSubscriptionId : Option String) : Request (Option Subscription) := do
  scalarOneOrNone (← query .selectSubscription (·.subscriptionsOf stripeSubscriptionId))

def create (row : Subscription) : Request Unit := do
  execute .insertSubscription (Database.insertSubscription row)
  query .refreshSubscription fun _ => ()

/-- Flush the attributes assigned to a loaded row. -/
def update (loaded assigned : Subscription) : Request Unit := do
  let time ← Effect.ask Env.transactionStart
  execute .updateSubscription (Database.updateSubscription time loaded assigned)
  query .refreshSubscription fun _ => ()

def upsertFromStripe (tenantId : UUID) (stripeSubscriptionId : Option String) (status : SubscriptionStatus)
    (currentPeriodStart currentPeriodEnd : Int) (planId : PlanTier) (cancelAtPeriodEnd : Bool) : Request Unit := do
  let id ← uuid4 .subscription
  let updatedAt := (← now .upsert).timestamp
  execute .upsertSubscription (Database.upsertSubscription
    { id, tenantId, planId, stripeSubscriptionId, status, currentPeriodStart := some currentPeriodStart,
      currentPeriodEnd := some currentPeriodEnd, cancelAtPeriodEnd, canceledAt := none, updatedAt })

end SubscriptionRepository

namespace StripeEventRepository

def isProcessed (eventId : String) : Request Bool := do
  let row ← scalarOneOrNone (← query .selectProcessedEvent (·.processedStripeEvents.select (·.eventId == eventId)))
  pure row.isSome

/-- Flush, commit and refresh: whatever the session wrote before is committed with the row. -/
def markProcessed (eventId eventType : String) (payload : Option String) (tenantId : Option UUID) : Request Unit := do
  let id ← uuid4 .processedStripeEvent
  execute .insertProcessedEvent (Database.insertProcessedEvent { id, eventId, eventType, payload, tenantId })
  commit .commitProcessedEvent
  query .refreshProcessedEvent fun _ => ()

end StripeEventRepository

end MeteringBilling
