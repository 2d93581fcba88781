import MeteringBilling.Metering

/-! `GET /usage`: the rollup of the current month, which Redis keeps for half a minute. The
authentication dependency runs before it. -/

namespace MeteringBilling

/-- Python's floor division. -/
def microunitsToCents (microunits : Int) : Int := microunits / 10000

/-- The result of `calculate_token_breakdown`. -/
structure TokenCosts where
  inputTokens : Int
  cachedInputTokens : Int
  outputTokens : Int
deriving DecidableEq

def TokenCosts.sum (costs : TokenCosts) : Int := costs.inputTokens + costs.cachedInputTokens + costs.outputTokens

/-- Reasoning tokens are priced as output tokens. -/
def CostService.calculateTokenBreakdown (settings : Settings) (inputTokens cachedInputTokens outputTokens
    reasoningTokens : Int) : Except PyError TokenCosts := do
  let combinedOutput := outputTokens + reasoningTokens
  let inputTokens ← CostService.calculate settings .inputTokens inputTokens
  let cachedInputTokens ← CostService.calculate settings .cachedInputTokens cachedInputTokens
  let outputTokens ← CostService.calculate settings .outputTokens combinedOutput
  pure { inputTokens, cachedInputTokens, outputTokens }

structure TokenBreakdown where
  inputTokens : Int
  cachedInputTokens : Int
  outputTokens : Int
  reasoningTokens : Int
  inputCostCents : Int
  cachedInputCostCents : Int
  outputCostCents : Int
  valid : 0 ≤ inputTokens ∧ 0 ≤ cachedInputTokens ∧ 0 ≤ outputTokens ∧ 0 ≤ reasoningTokens ∧
    0 ≤ inputCostCents ∧ 0 ≤ cachedInputCostCents ∧ 0 ≤ outputCostCents
deriving DecidableEq

structure UsageDetail where
  used : Int
  limit : Int
  remaining : Int
  costCents : Int
  breakdown : Option TokenBreakdown
  valid : 0 ≤ used ∧ 0 ≤ limit ∧ 0 ≤ remaining ∧ 0 ≤ costCents
deriving DecidableEq

structure UsageResponse where
  periodStart : String
  periodEnd : String
  plan : String
  apiCalls : UsageDetail
  aiTokens : UsageDetail
  totalCostCents : Int
  valid : 0 ≤ totalCostCents
deriving DecidableEq

def validated {α : Type} (model : String) (valid : Prop) [Decidable valid] (build : valid → α) : Except PyError α :=
  if holds : valid then .ok (build holds) else .error (.valueError ("validation error for " ++ model))

/-- `breakdown.get(usage_type, 0)`. -/
def usedOf (breakdown : List (UsageType × Int)) (usageType : UsageType) : Int := (breakdown.lookup usageType).getD 0

/-- The output tokens of the response, reasoning included. -/
def combinedOutput (breakdown : List (UsageType × Int)) : Int :=
  usedOf breakdown .outputTokens + usedOf breakdown .reasoningTokens

def tokenBreakdown (breakdown : List (UsageType × Int)) (costs : TokenCosts) : Except PyError TokenBreakdown :=
  validated "TokenBreakdown" _ fun valid =>
    { inputTokens := usedOf breakdown .inputTokens
      cachedInputTokens := usedOf breakdown .cachedInputTokens
      outputTokens := combinedOutput breakdown
      reasoningTokens := usedOf breakdown .reasoningTokens
      inputCostCents := microunitsToCents costs.inputTokens
      cachedInputCostCents := microunitsToCents costs.cachedInputTokens
      outputCostCents := microunitsToCents costs.outputTokens
      valid }

def usageDetail (quota : QuotaService.Quota) (costCents : Int) (breakdown : Option TokenBreakdown) :
    Except PyError UsageDetail :=
  validated "UsageDetail" _ fun valid =>
    { used := quota.used, limit := quota.limit, remaining := quota.remaining, costCents, breakdown, valid }

def periodEnd (startOfMonth : DateTime) : Except PyError DateTime :=
  let next := if startOfMonth.month < 12 then startOfMonth.replace? startOfMonth.year (startOfMonth.month + 1)
    else startOfMonth.replace? (startOfMonth.year + 1) 1
  match next with
  | some time => .ok time
  | none => .error (.valueError "year 10000 is out of range")

def usageResponse (settings : Settings) (quotas : QuotaService.AllQuotas) (startOfMonth : DateTime)
    (totalCostMicrounits : Int) (usageBreakdown : List (UsageType × Int)) : Except PyError UsageResponse := do
  let tokenCosts ← CostService.calculateTokenBreakdown settings (usedOf usageBreakdown .inputTokens)
    (usedOf usageBreakdown .cachedInputTokens) (combinedOutput usageBreakdown) 0
  let periodEnd ← periodEnd startOfMonth
  let apiCost ← CostService.calculate settings .apiCall quotas.apiCalls.used
  let apiCalls ← usageDetail quotas.apiCalls (microunitsToCents apiCost) none
  let breakdown ← tokenBreakdown usageBreakdown tokenCosts
  let aiTokens ← usageDetail quotas.aiTokens (microunitsToCents tokenCosts.sum) (some breakdown)
  validated "UsageResponse" _ fun valid =>
    { periodStart := startOfMonth.isoformat
      periodEnd := periodEnd.isoformat
      plan := quotas.plan
      apiCalls
      aiTokens
      totalCostCents := microunitsToCents totalCostMicrounits
      valid }

def TokenBreakdown.modelDump (breakdown : TokenBreakdown) : Json := .obj
  [("input_tokens", .num breakdown.inputTokens),
    ("cached_input_tokens", .num breakdown.cachedInputTokens),
    ("output_tokens", .num breakdown.outputTokens),
    ("reasoning_tokens", .num breakdown.reasoningTokens),
    ("input_cost_cents", .num breakdown.inputCostCents),
    ("cached_input_cost_cents", .num breakdown.cachedInputCostCents),
    ("output_cost_cents", .num breakdown.outputCostCents)]

def UsageDetail.modelDump (detail : UsageDetail) : Json := .obj
  [("used", .num detail.used),
    ("limit", .num detail.limit),
    ("remaining", .num detail.remaining),
    ("cost_cents", .num detail.costCents),
    ("breakdown", (detail.breakdown.map TokenBreakdown.modelDump).getD .null)]

/-- `model_dump(mode="json")`. -/
def UsageResponse.modelDump (response : UsageResponse) : Json := .obj
  [("period", .obj [("start", .str response.periodStart), ("end", .str response.periodEnd)]),
    ("plan", .str response.plan),
    ("api_calls", response.apiCalls.modelDump),
    ("ai_tokens", response.aiTokens.modelDump),
    ("total_cost_cents", .num response.totalCostCents)]

def usageCacheTtl : Nat := 30

def usageCacheKey (tenantId : UUID) (time : DateTime) : String := "usage:" ++ tenantId.str ++ ":" ++ time.yearMonth

/-- The two ways in which the endpoint returns. -/
inductive UsageReply where
  | cached (content : Json)
  | response (report : UsageResponse)
deriving DecidableEq

/-- The body that the client receives. -/
def UsageReply.body : UsageReply → Json
  | cached content => content
  | response report => report.modelDump

def getUsage (tenantId : UUID) : Request UsageReply := do
  let cacheKey := usageCacheKey tenantId (← now .usageCacheKey)
  match ← cacheGet cacheKey with
  | some cached => pure (.cached cached)
  | none => do
    match ← QuotaService.getAllQuotas tenantId with
    | .error message => Effect.raise (.http 404 (.str message) [])
    | .ok quotas => do
      let startOfMonth := (← now .usagePeriod).startOfMonth
      let totalCostMicrounits ← UsageRepository.getMonthlyCost tenantId startOfMonth
      -- The breakdown is read a second time, by a statement that can fail on its own.
      let usageBreakdown ← Effect.within (fun env => env.retry (env.attempt + 1))
        (UsageRepository.getMonthlyUsageBreakdown tenantId startOfMonth)
      let settings ← Effect.ask Env.settings
      let response ← Effect.ofExcept (usageResponse settings quotas startOfMonth totalCostMicrounits usageBreakdown)
      cacheSet cacheKey response.modelDump usageCacheTtl
      pure (.response response)

end MeteringBilling
