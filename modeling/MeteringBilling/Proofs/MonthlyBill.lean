import MeteringBilling.Proofs.CostRounding
import MeteringBilling.Proofs.Faults
import MeteringBilling.Proofs.Reporting
import MeteringBilling.Runs
import MeteringBilling.Seed

/-! The lines of a monthly report against its total. The total adds costs that were rounded
event by event, a line prices the summed quantity and rounds once. -/

namespace MeteringBilling.MonthlyBill

open CostRounding

/-- The two lines add up to the total, but for the division into cents. -/
def AddsUp (report : UsageResponse) : Prop :=
  report.apiCalls.costCents + report.aiTokens.costCents ≤ report.totalCostCents ∧
    report.totalCostCents ≤ report.apiCalls.costCents + report.aiTokens.costCents + 1

def pricePerThousand (settings : Settings) : UsageType → Int
  | .apiCall => settings.priceApiCallPerThousand
  | .inputTokens => settings.priceInputTokenPerThousand
  | .cachedInputTokens => settings.priceCachedInputTokenPerThousand
  | .outputTokens => settings.priceOutputTokenPerThousand
  | .reasoningTokens => settings.priceReasoningTokenPerThousand

/-- The exact price of a quantity in thousandths of a microunit. Nothing is paid for a type with
a negative price. -/
def amount (settings : Settings) (usageType : UsageType) (quantity : Int) : Int :=
  quantity * max 0 (pricePerThousand settings usageType)

/-- What rounding an amount half up to microunits adds to it, in the same thousandths. An amount of
more than 28 digits loses the others before that. -/
def rounding (amount : Int) : Int := significant amount - amount + (500 - (significant amount + 500) % 1000)

def cent : Int := 10000000

/-- What the report is about: the used quantities of a month, and its events. -/
structure Month where
  used : UsageType → Int
  events : List UsageEvent

def monthOf (database : Database) (tenantId : UUID) (start : Int) : Month where
  used type := database.monthlyUsage tenantId type start
  events := database.monthlyEvents tenantId start

namespace Month

variable (month : Month) (settings : Settings)

def output : Int := month.used .outputTokens + month.used .reasoningTokens

def apiAmount : Int := amount settings .apiCall (month.used .apiCall)

def apiLine : Int := month.apiAmount settings + rounding (month.apiAmount settings)

def tokenAmount : Int :=
  amount settings .inputTokens (month.used .inputTokens) +
    amount settings .cachedInputTokens (month.used .cachedInputTokens) + amount settings .outputTokens month.output

def tokenRounding : Int :=
  rounding (amount settings .inputTokens (month.used .inputTokens)) +
    rounding (amount settings .cachedInputTokens (month.used .cachedInputTokens)) +
      rounding (amount settings .outputTokens month.output)

def tokenLine : Int := month.tokenAmount settings + month.tokenRounding settings

def eventRounding : Int :=
  (month.events.map fun event => rounding (amount settings event.usageType event.quantity)).sum

/-- What rounding the events adds over rounding the lines. -/
def drift : Int :=
  month.eventRounding settings - rounding (month.apiAmount settings) - month.tokenRounding settings

/-- With the fractions of a cent that the lines drop, the drift makes no negative amount, and
less than two cents. -/
def Balanced : Prop :=
  0 ≤ month.apiLine settings % cent + month.tokenLine settings % cent + month.drift settings ∧
    month.apiLine settings % cent + month.tokenLine settings % cent + month.drift settings < 2 * cent

end Month

def Priced (settings : Settings) (store : Store) : Prop :=
  ∀ event ∈ store.database.usageEvents,
    CostService.calculate settings event.usageType event.quantity = .ok event.costMicrounits

variable {settings : Settings} {store : Store} {tenantId : UUID} {start : Int}

def Counted (store : Store) : Prop := ∀ event ∈ store.database.usageEvents, 1 ≤ event.quantity

theorem calculate_eq (settings : Settings) (usageType : UsageType) (quantity : Int) :
    CostService.calculate settings usageType quantity =
      calculateCostMicrounits quantity (pricePerThousand settings usageType) := by
  cases usageType <;> rfl

theorem rounding_of_cost {usageType : UsageType} {quantity cost : Int} (counted : 0 ≤ quantity)
    (priced : CostService.calculate settings usageType quantity = .ok cost) :
    1000 * cost = amount settings usageType quantity + rounding (amount settings usageType quantity) := by
  rw [calculate_eq] at priced
  unfold rounding amount
  by_cases charged : 0 < quantity ∧ 0 < pricePerThousand settings usageType
  · rw [max_eq_right charged.2.le, cost_significant charged priced]
    omega
  · have nothing : quantity * max 0 (pricePerThousand settings usageType) = 0 := by
      rcases not_and_or.mp charged with empty | free
      · rw [show quantity = 0 by omega, Int.zero_mul]
      · rw [max_eq_left (Int.not_lt.mp free), Int.mul_zero]
    rw [cost_nothing (by omega)] at priced
    rw [← Except.ok.inj priced, nothing, significant_of_fits (le_refl 0) (by decide)]
    decide

theorem amount_add (usageType : UsageType) (first second : Int) :
    amount settings usageType (first + second) = amount settings usageType first + amount settings usageType second :=
  Int.add_mul ..

theorem amount_reasoning (equal : settings.priceOutputTokenPerThousand = settings.priceReasoningTokenPerThousand)
    (quantity : Int) : amount settings .reasoningTokens quantity = amount settings .outputTokens quantity := by
  rw [amount, amount, pricePerThousand, pricePerThousand, equal]

theorem amount_sum (events : List UsageEvent) :
    (events.map fun event => amount settings event.usageType event.quantity).sum =
      (UsageType.all.map fun type => amount settings type
        ((events.filter (·.usageType == type)).map UsageEvent.quantity).sum).sum := by
  induction events with
  | nil => simp [UsageType.all, amount]
  | cons event events ih =>
    rw [List.map_cons, List.sum_cons, ih]
    simp only [UsageType.all, List.map_cons, List.map_nil, List.sum_cons, List.sum_nil]
    cases type : event.usageType <;> simp [type, amount_add] <;> omega

theorem cost_sum {events : List UsageEvent} (counted : ∀ event ∈ events, 1 ≤ event.quantity)
    (priced : ∀ event ∈ events, CostService.calculate settings event.usageType event.quantity = .ok event.costMicrounits) :
    1000 * (events.map UsageEvent.costMicrounits).sum =
      (events.map fun event => amount settings event.usageType event.quantity).sum +
        (events.map fun event => rounding (amount settings event.usageType event.quantity)).sum := by
  induction events with
  | nil => rfl
  | cons event events ih =>
    obtain ⟨one, others⟩ := List.forall_mem_cons.mp counted
    obtain ⟨here, rest⟩ := List.forall_mem_cons.mp priced
    have cost := rounding_of_cost ((by decide : (0 : Int) ≤ 1).trans one) here
    have later := ih others rest
    simp only [List.map_cons, List.sum_cons]
    omega

theorem amount_total (equal : settings.priceOutputTokenPerThousand = settings.priceReasoningTokenPerThousand)
    (database : Database) : ((database.monthlyEvents tenantId start).map fun event =>
        amount settings event.usageType event.quantity).sum =
      amount settings .apiCall ((monthOf database tenantId start).used .apiCall) +
        (monthOf database tenantId start).tokenAmount settings := by
  rw [amount_sum]
  simp only [UsageType.all, List.map_cons, List.map_nil, List.sum_cons, List.sum_nil, Month.tokenAmount, Month.output,
    amount_add, monthOf, Database.monthlyUsage]
  rw [amount_reasoning equal]
  omega

theorem monthlyCost_eq (equal : settings.priceOutputTokenPerThousand = settings.priceReasoningTokenPerThousand)
    (counted : Counted store) (priced : Priced settings store) (tenantId : UUID) (start : Int) :
    1000 * store.database.monthlyCost tenantId start =
      (monthOf store.database tenantId start).apiLine settings + (monthOf store.database tenantId start).tokenLine settings +
        (monthOf store.database tenantId start).drift settings := by
  have monthly : ∀ event ∈ store.database.monthlyEvents tenantId start,
      CostService.calculate settings event.usageType event.quantity = .ok event.costMicrounits :=
    fun event member => priced event (List.mem_of_mem_filter member)
  have several : ∀ event ∈ store.database.monthlyEvents tenantId start, 1 ≤ event.quantity :=
    fun event member => counted event (List.mem_of_mem_filter member)
  have costs := cost_sum several monthly
  rw [amount_total equal] at costs
  unfold Month.apiLine Month.tokenLine Month.drift Month.apiAmount Month.eventRounding Database.monthlyCost
  simp only [monthOf] at costs ⊢
  omega

theorem priced_invariant : meterRuns.Invariant (fun action => action.1.settings = settings) (Priced settings) := by
  intro action store next configured priced taken
  obtain rfl := Option.some.inj taken
  apply metered_all priced
  intro cost inserts
  obtain ⟨_, admitted⟩ := inserts.admitted
  obtain ⟨_, _, _, computed, _⟩ := admission?_eq_some.mp admitted
  exact configured ▸ computed

theorem counts_invariant : meterRuns.Invariant (fun _ => True) Counted := by
  intro action store next _ counted taken
  obtain rfl := Option.some.inj taken
  exact metered_all counted fun _ _ => action.2.request.valid.1

theorem Counted.monthlyUsage (counted : Counted store) (tenantId : UUID) (usageType : UsageType) (start : Int) :
    0 ≤ store.database.monthlyUsage tenantId usageType start := by
  refine List.sum_nonneg (List.forall_mem_map.mpr fun event member => ?_)
  have stored : event ∈ store.database.usageEvents := List.mem_of_mem_filter (List.mem_of_mem_filter member)
  exact (by decide : (0 : Int) ≤ 1).trans (counted event stored)

theorem report_lines (counted : Counted store) {plan : Plan} {quotaTime periodTime : DateTime}
    (within : quotaTime.SameMonth periodTime) {report : UsageResponse} (built : store.database.rollup settings tenantId plan quotaTime periodTime = .ok report) :
    ∃ apiCost tokenCost,
      1000 * apiCost = (monthOf store.database tenantId periodTime.startOfMonth.timestamp).apiLine settings ∧
      1000 * tokenCost = (monthOf store.database tenantId periodTime.startOfMonth.timestamp).tokenLine settings ∧
      report.apiCalls.costCents = microunitsToCents apiCost ∧
      report.aiTokens.costCents = microunitsToCents tokenCost ∧
      report.totalCostCents =
        microunitsToCents (store.database.monthlyCost tenantId periodTime.startOfMonth.timestamp) := by
  unfold Database.rollup at built
  rw [within.startOfMonth] at built
  obtain ⟨tokenCosts, apiCost, priced, charged, shows⟩ := usageResponse_ok built
  obtain ⟨input, inputPriced, priced⟩ := except_bind_ok.mp priced
  obtain ⟨cached, cachedPriced, priced⟩ := except_bind_ok.mp priced
  obtain ⟨output, outputPriced, priced⟩ := except_bind_ok.mp priced
  obtain rfl := Except.ok.inj priced
  change CostService.calculate settings .apiCall (usedOf _ .apiCall) = _ at charged
  simp only [combinedOutput, usedOf_breakdown, Int.add_zero] at charged inputPriced cachedPriced outputPriced
  have used (usageType : UsageType) := counted.monthlyUsage tenantId usageType periodTime.startOfMonth.timestamp
  have api := rounding_of_cost (used .apiCall) charged
  have inputLine := rounding_of_cost (used .inputTokens) inputPriced
  have cachedLine := rounding_of_cost (used .cachedInputTokens) cachedPriced
  have outputLine := rounding_of_cost (Int.add_nonneg (used .outputTokens) (used .reasoningTokens)) outputPriced
  refine ⟨apiCost, _, api, ?_, shows.apiCost, shows.tokensCost, shows.total⟩
  unfold Month.tokenLine Month.tokenAmount Month.tokenRounding Month.output TokenCosts.sum
  simp only [monthOf]
  omega

/-- A report of a month whose events were recorded under one price list adds up exactly if the
drift of the rounding stays within what the lines drop. -/
theorem bill_adds_up_iff (equal : settings.priceOutputTokenPerThousand = settings.priceReasoningTokenPerThousand)
    {calls : List (Env × MeterCall)} (configured : ∀ action ∈ calls, action.1.settings = settings) {fresh : Store}
    (unused : fresh.database.usageEvents.rows = []) (ran : meterRuns.run calls fresh = some store) {reader : Env}
    (reading : reader.settings = settings)
    (within : (reader.now reader.attempt .getAllQuotas).SameMonth (reader.now reader.attempt .usagePeriod))
    {report : UsageResponse} (reported : (serve (getUsage tenantId) reader store).1 = .ok (.response report)) :
    AddsUp report ↔ (monthOf store.database tenantId
      (reader.now reader.attempt .usagePeriod).startOfMonth.timestamp).Balanced settings := by
  have none := Table.not_mem_of_empty unused
  have counted := counts_invariant.run (fun _ _ => trivial) (fun event member => (none event member).elim) ran
  have priced := priced_invariant.run configured (fun event member => (none event member).elim) ran
  obtain ⟨plan, _, built⟩ := usageReport_ok.mp (served_report reported)
  rw [reading] at built
  obtain ⟨apiCost, tokenCost, apiLine, tokenLine, api, tokens, total⟩ := report_lines counted within built
  have cost := monthlyCost_eq equal counted priced tenantId
    (reader.now reader.attempt .usagePeriod).startOfMonth.timestamp
  rw [← apiLine, ← tokenLine] at cost
  unfold AddsUp Month.Balanced
  rw [api, tokens, total, ← apiLine, ← tokenLine]
  unfold microunitsToCents cent
  omega

def outputTokens (id : Nat) (key : String) (qty : Int) (valid : 0 < qty ∧ qty ≤ 10000000) : Env × MeterCall :=
  (Seed.env id, { Seed.apiCall key with request := ⟨.outputTokens, qty, valid⟩ })

/-- Two requests of 1.2 microunits each and one of 9997.2: the costs are 1, 1 and 9997. -/
def rounded : List (Env × MeterCall) :=
  [outputTokens 20 "first" 2 (by decide), outputTokens 21 "second" 2 (by decide), outputTokens 22 "third" 16662 (by decide)]

def billed : Store := ((meterRuns.run rounded Seed.store).getD Seed.store)

/-- The line prices 16666 tokens at 9999.6 microunits, which rounds to a cent. -/
def bill : UsageResponse where
  periodStart := "2025-06-01T00:00:00+00:00"
  periodEnd := "2025-07-01T00:00:00+00:00"
  plan := "Free Plan"
  apiCalls := ⟨0, 5000, 5000, 0, none, by decide⟩
  aiTokens := ⟨16666, 500000, 483334, 1, some ⟨0, 0, 16666, 0, 0, 0, 1, by decide⟩, by decide⟩
  totalCostCents := 0
  valid := by decide

theorem rounded_configured : ∀ action ∈ rounded, action.1.settings = {} := by
  intro action member
  simp only [rounded, outputTokens, List.mem_cons, List.not_mem_nil, or_false] at member
  rcases member with rfl | rfl | rfl <;> rfl

theorem billed_run : meterRuns.run rounded Seed.store = some billed := rfl

theorem billed_report : (serve (getUsage Seed.tenant.id) (Seed.env 23) billed).1 = .ok (.response bill) := by decide

theorem lines_exceed_total : meterRuns.run rounded Seed.store = some billed ∧
    (serve (getUsage Seed.tenant.id) (Seed.env 23) billed).1 = .ok (.response bill) ∧ ¬ AddsUp bill :=
  ⟨billed_run, billed_report, by unfold AddsUp; decide⟩

theorem rounded_adds_up_iff : AddsUp bill ↔
    (monthOf billed.database Seed.tenant.id Seed.time.startOfMonth.timestamp).Balanced {} :=
  @bill_adds_up_iff {} billed Seed.tenant.id rfl rounded rounded_configured Seed.store rfl billed_run (Seed.env 23) rfl
    ⟨rfl, rfl⟩ bill billed_report

end MeteringBilling.MonthlyBill
