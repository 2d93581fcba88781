import MeteringBilling.Metering

/-! What a metering request is admitted for and what it does to the tables, as functions of
the tables alone. The services are proved to compute these. -/

namespace MeteringBilling

namespace Database

def activeSubscription? (database : Database) (tenantId : UUID) : Option Subscription :=
  database.subscriptions.find? fun row => row.tenantId == tenantId && row.status.meters

def plan? (database : Database) (planId : PlanTier) : Option Plan := database.plans.find? (·.id == planId)

/-- The limit in force for a tenant; none without an active subscription to a stored plan. -/
def limit? (database : Database) (tenantId : UUID) (usageType : UsageType) : Option Int := do
  let subscription ← database.activeSubscription? tenantId
  let plan ← database.plan? subscription.planId
  pure (QuotaService.limit plan usageType)

def tokenPool (database : Database) (tenantId : UUID) (start : Int) : Int :=
  ((UsageType.all.filter (· != .apiCall)).map fun type => database.monthlyUsage tenantId type start).sum

def eventOf? (database : Database) (key : UsageKey) : Option UsageEvent :=
  database.usageEvents.find? (·.key == key)

end Database

namespace RecordCall

/-- The quota information and the cost of a call that passes the check. -/
def admission? (call : RecordCall) (settings : Settings) (start : Int) (database : Database) :
    Option (QuotaInfo × Int) := do
  let limit ← database.limit? call.tenantId call.usageType
  let used := database.monthlyUsage call.tenantId call.usageType start
  if limit < used + call.qty then none
  else do
    let cost ← (CostService.calculate settings call.usageType call.qty).toOption
    pure (QuotaService.quotaInfo call.usageType used limit call.qty, cost)

def event (call : RecordCall) (id : UUID) (createdAt cost : Int) : UsageEvent where
  id := id
  tenantId := call.tenantId
  idempotencyKey := call.idempotencyKey
  usageType := call.usageType
  quantity := call.qty
  costMicrounits := cost
  requestIp := call.reqIp
  userAgent := call.userAgent
  createdAt := createdAt

end RecordCall

/-- The instant from which the first attempt of a request counts usage. -/
def Env.monthStart (env : Env) : Int := (env.now 0 .checkQuota).startOfMonth.timestamp

def RecordCall.fresh (call : RecordCall) (env : Env) (cost : Int) : UsageEvent :=
  call.event (env.uuid4 0 .usageEvent) env.transactionStart cost

namespace Database

/-- What an admitted call does: nothing when its key is taken, an insert otherwise. Its row
must fit the columns in either case. -/
def recordAdmitted (database : Database) (env : Env) (call : RecordCall) (cost : Int) : Option (UsageEvent × Database) :=
  if ¬ (call.fresh env cost).Storable then none
  else match database.eventOf? call.key with
    | some existing => some (existing, database)
    | none =>
      if database.hasTenant call.tenantId then
        (database.usageEvents.insert? (call.fresh env cost)).map fun usageEvents =>
          (call.fresh env cost, { database with usageEvents })
      else none

/-- What a call returns and the tables after it; none when it raises. -/
def record (database : Database) (env : Env) (call : RecordCall) : Option ((UsageEvent × QuotaInfo) × Database) := do
  let (info, cost) ← call.admission? env.settings env.monthStart database
  let (event, after) ← database.recordAdmitted env call cost
  pure ((event, info), after)

end Database

/-- The call passes the check, and its row is new to the tables. -/
structure RecordCall.Inserts (call : RecordCall) (env : Env) (database : Database) (cost : Int) : Prop where
  admitted : ∃ info, call.admission? env.settings env.monthStart database = some (info, cost)
  storable : (call.fresh env cost).Storable
  tenant : database.hasTenant call.tenantId = true
  fits : database.usageEvents.Fits (call.fresh env cost)

end MeteringBilling
