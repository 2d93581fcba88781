import MeteringBilling.Cache
import MeteringBilling.Pricing
import MeteringBilling.Repositories
import MeteringBilling.Retry

/-! `POST /meter`: the quota check, the recording of an event, and the endpoint. The
authentication dependency and the middleware run before it and are left out. -/

namespace MeteringBilling

/-- The dictionary `check_quota` returns. -/
structure QuotaInfo where
  usageType : String
  used : Int
  limit : Int
  requested : Int
  remaining : Int
  willExceed : Bool
deriving DecidableEq

/-- The dictionary `record` returns. -/
structure UpdatedQuotaInfo where
  usageType : String
  used : Int
  limit : Int
  remaining : Int
deriving DecidableEq

namespace QuotaService

/-- The status gate of `check_quota`. -/
def checkStatus : SubscriptionStatus → Except PyError Unit
  | .active | .trialing | .incomplete => .ok ()
  | .pastDue => .error (.paymentRequired "Subscription past due - payment required")
  | .canceled => .error (.paymentRequired "Subscription canceled")

def limit (plan : Plan) (usageType : UsageType) : Int :=
  if usageType = .apiCall then plan.apiCallQuota else plan.aiTokenQuota

def quotaInfo (usageType : UsageType) (currentUsed limit requestedQuantity : Int) : QuotaInfo where
  usageType := usageType.value
  used := currentUsed
  limit := limit
  requested := requestedQuantity
  remaining := max 0 (limit - currentUsed)
  willExceed := decide (limit < currentUsed + requestedQuantity)

def checkQuota (tenantId : UUID) (usageType : UsageType) (requestedQuantity : Int) : Request (Bool × QuotaInfo) := do
  match ← SubscriptionRepository.getActiveByTenant tenantId with
  | none => Effect.raise (.paymentRequired "No active subscription found")
  | some subscription => do
    Effect.ofExcept (checkStatus subscription.status)
    match ← PlanRepository.getById subscription.planId with
    | none => Effect.raise (.paymentRequired "Plan not found")
    | some plan => do
      let startOfMonth := (← now .checkQuota).startOfMonth
      let currentUsed ← UsageRepository.getMonthlyUsage tenantId usageType startOfMonth
      let info := quotaInfo usageType currentUsed (limit plan usageType) requestedQuantity
      pure (!info.willExceed, info)

structure Quota where
  used : Int
  limit : Int
  remaining : Int
deriving DecidableEq

def quota (used limit : Int) : Quota := ⟨used, limit, max 0 (limit - used)⟩

structure AllQuotas where
  plan : String
  apiCalls : Quota
  aiTokens : Quota
  breakdown : List (String × Int)
deriving DecidableEq

def tokenUsage (breakdown : List (UsageType × Int)) : List (UsageType × Int) :=
  breakdown.filter fun entry => entry.1 != .apiCall

def allQuotas (plan : Plan) (breakdown : List (UsageType × Int)) : AllQuotas where
  plan := plan.name
  apiCalls := quota ((breakdown.lookup .apiCall).getD 0) plan.apiCallQuota
  aiTokens := quota ((tokenUsage breakdown).map Prod.snd).sum plan.aiTokenQuota
  breakdown := (tokenUsage breakdown).map fun entry => (entry.1.value, entry.2)

/-- The result is the report, or the text of its `error` entry. -/
def getAllQuotas (tenantId : UUID) : Request (Except String AllQuotas) := do
  match ← SubscriptionRepository.getActiveByTenant tenantId with
  | none => pure (.error "No active subscription")
  | some subscription => do
    match ← PlanRepository.getById subscription.planId with
    | none => pure (.error "Plan not found")
    | some plan => do
      let startOfMonth := (← now .getAllQuotas).startOfMonth
      let breakdown ← UsageRepository.getMonthlyUsageBreakdown tenantId startOfMonth
      pure (.ok (allQuotas plan breakdown))

end QuotaService

structure RecordCall where
  tenantId : UUID
  usageType : UsageType
  qty : Int
  idempotencyKey : String
  reqIp : Option String
  userAgent : Option String
deriving DecidableEq

def RecordCall.key (call : RecordCall) : UsageKey := ⟨call.tenantId, call.idempotencyKey, call.usageType⟩

namespace MeterService

def quotaExceeded (call : RecordCall) (info : QuotaInfo) : PyError :=
  .quotaExceeded call.usageType info.used info.limit call.qty

def updatedQuotaInfo (call : RecordCall) (info : QuotaInfo) : UpdatedQuotaInfo where
  usageType := call.usageType.value
  used := info.used + call.qty
  limit := info.limit
  remaining := max 0 (info.limit - (info.used + call.qty))

/-- The part of `record` before its insert: the quota check and the cost. -/
def authorize (call : RecordCall) : Request (QuotaInfo × Int) := do
  let (allowed, info) ← QuotaService.checkQuota call.tenantId call.usageType call.qty
  if !allowed then Effect.raise (quotaExceeded call info)
  else do
    let settings ← Effect.ask Env.settings
    let costMicrounits ← Effect.ofExcept (CostService.calculate settings call.usageType call.qty)
    pure (info, costMicrounits)

def recordOnce (call : RecordCall) : Request (UsageEvent × UpdatedQuotaInfo) := do
  let (info, costMicrounits) ← authorize call
  match ← UsageRepository.recordUsage call.tenantId call.idempotencyKey call.usageType call.qty costMicrounits
    call.reqIp call.userAgent with
  | none => Effect.raise (quotaExceeded call info)
  | some event => pure (event, updatedQuotaInfo call info)

/-- `with_db_retry(max_retries=3, base_delay=0.05, max_delay=0.5)`. -/
def recordPolicy : RetryPolicy where
  maxRetries := 3
  baseDelay := 1 / 20
  maxDelay := 1 / 2

def record (call : RecordCall) : Request (UsageEvent × UpdatedQuotaInfo) :=
  withDbRetry recordPolicy isTransientError (fun _ => pure ⟨⟩)
    (fun attempt => Effect.within (Env.retry attempt) (recordOnce call)) .noException

end MeterService

/-- The body of a request, as the schema admits it. -/
structure MeterRequest where
  usageType : UsageType
  qty : Int
  valid : 0 < qty ∧ qty ≤ 10000000
deriving DecidableEq

structure MeterResponse where
  recorded : Bool := true
  usageEventId : UUID
  usageType : UsageType
  quantity : Int
  costMicrounits : Int
  remainingQuota : List (String × Int)
deriving DecidableEq

/-- `model_dump(mode="json")`. -/
def MeterResponse.modelDump (response : MeterResponse) : Json := .obj
  [("recorded", .bool response.recorded),
    ("usage_event_id", .str response.usageEventId.str),
    ("usage_type", .str response.usageType.value),
    ("quantity", .num response.quantity),
    ("cost_microunits", .num response.costMicrounits),
    ("remaining_quota", .obj (response.remainingQuota.map fun entry => (entry.1, .num entry.2)))]

def quotaEntries? : Json → Option (List (String × Int))
  | .obj fields => fields.mapM fun entry => entry.2.num?.map fun value => (entry.1, value)
  | _ => none

/-- `_cached_to_response`. A value the strict schema refuses raises. -/
def cachedToResponse (cached : Json) : Except PyError MeterResponse :=
  let response := do
    let usageEventId ← UUID.parse? (← (← cached.get? "usage_event_id").str?)
    let usageType ← UsageType.ofValue? (← (← cached.get? "usage_type").str?)
    let quantity ← (← cached.get? "quantity").num?
    let costMicrounits ← (← cached.get? "cost_microunits").num?
    let remainingQuota ← quotaEntries? (← cached.get? "remaining_quota")
    let recorded ← ((cached.get? "recorded").getD (.bool true)).bool?
    pure { recorded, usageEventId, usageType, quantity, costMicrounits, remainingQuota : MeterResponse }
  match response with
  | some response => .ok response
  | none => .error (.valueError "validation error for MeterResponse")

structure MeterCall where
  tenantId : UUID
  idempotencyKey : String
  request : MeterRequest
  reqIp : Option String
  userAgent : Option String
deriving DecidableEq

namespace MeterCall

def record (call : MeterCall) : RecordCall where
  tenantId := call.tenantId
  usageType := call.request.usageType
  qty := call.request.qty
  idempotencyKey := call.idempotencyKey
  reqIp := call.reqIp
  userAgent := call.userAgent

def key (call : MeterCall) : UsageKey := call.record.key

end MeterCall

/-- The two `except` clauses of the endpoint. -/
def meterError : PyError → PyError
  | exc@(.quotaExceeded usageType used limit requested) => .http 429
    (.obj [("error", .str "quota_exceeded"), ("message", .str exc.message), ("usage_type", .str usageType.value),
      ("used", .num used), ("limit", .num limit), ("requested", .num requested), ("retry_after_seconds", .num 86400)])
    [("Retry-After", "86400")]
  | exc@(.paymentRequired _) => .http 402
    (.obj [("error", .str "payment_required"), ("message", .str exc.message)]) []
  | exc => exc

def meterResponse (event : UsageEvent) (quotaInfo : UpdatedQuotaInfo) (usageType : UsageType) : MeterResponse where
  usageEventId := event.id
  usageType := event.usageType
  quantity := event.quantity
  costMicrounits := event.costMicrounits
  remainingQuota :=
    [("api_calls", if usageType = .apiCall then quotaInfo.remaining else 0),
      ("ai_tokens", if usageType ≠ .apiCall then quotaInfo.remaining else 0)]

def recordUsage (call : MeterCall) : Request MeterResponse := do
  match ← checkIdempotencyKey call.key with
  | some cached => Effect.ofExcept (cachedToResponse cached)
  | none => do
    let (event, quotaInfo) ← Effect.handle (MeterService.record call.record) fun exc => Effect.raise (meterError exc)
    let response := meterResponse event quotaInfo call.request.usageType
    storeIdempotencyResponse call.key response.modelDump
    pure response

end MeteringBilling
