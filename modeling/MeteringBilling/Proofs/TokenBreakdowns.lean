import MeteringBilling.Proofs.Reporting
import MeteringBilling.Runs
import MeteringBilling.Seed

/-! The token breakdown of a report against its total. The output field holds the output and the
reasoning tokens together, and the reasoning field holds the reasoning tokens once more. -/

namespace MeteringBilling.TokenBreakdowns

variable {store : Store} {tenantId : UUID} {start : Int}

/-- The four counts add up to the total, and each is what its category recorded. -/
def Itemizes (database : Database) (tenantId : UUID) (start : Int) (report : UsageResponse) : Prop :=
  ∃ breakdown, report.aiTokens.breakdown = some breakdown ∧
    breakdown.inputTokens + breakdown.cachedInputTokens + breakdown.outputTokens + breakdown.reasoningTokens =
      report.aiTokens.used ∧
    breakdown.inputTokens = database.monthlyUsage tenantId .inputTokens start ∧
    breakdown.cachedInputTokens = database.monthlyUsage tenantId .cachedInputTokens start ∧
    breakdown.outputTokens = database.monthlyUsage tenantId .outputTokens start ∧
    breakdown.reasoningTokens = database.monthlyUsage tenantId .reasoningTokens start

theorem report_tokens {settings : Settings} {plan : Plan} {quotaTime periodTime : DateTime} {database : Database}
    {report : UsageResponse} (within : quotaTime.SameMonth periodTime)
    (built : database.rollup settings tenantId plan quotaTime periodTime = .ok report) :
    report.aiTokens.used = database.tokenPool tenantId periodTime.startOfMonth.timestamp ∧
    ∃ breakdown, report.aiTokens.breakdown = some breakdown ∧
      breakdown.inputTokens = database.monthlyUsage tenantId .inputTokens periodTime.startOfMonth.timestamp ∧
      breakdown.cachedInputTokens = database.monthlyUsage tenantId .cachedInputTokens periodTime.startOfMonth.timestamp ∧
      breakdown.outputTokens = database.monthlyUsage tenantId .outputTokens periodTime.startOfMonth.timestamp +
        database.monthlyUsage tenantId .reasoningTokens periodTime.startOfMonth.timestamp ∧
      breakdown.reasoningTokens = database.monthlyUsage tenantId .reasoningTokens periodTime.startOfMonth.timestamp := by
  unfold Database.rollup at built
  rw [within.startOfMonth] at built
  obtain ⟨_, _, _, _, shows⟩ := usageResponse_ok built
  obtain ⟨breakdown, listed, shown⟩ := shows.breakdown
  obtain ⟨_, rfl⟩ := validated_ok.mp listed
  refine ⟨?_, _, shown, ?_⟩
  · rw [shows.tokensUsed, allQuotas_tokens]
    rfl
  · simp only [combinedOutput, usedOf_breakdown, and_self]

/-- A report itemizes its tokens exactly if the month has no reasoning tokens. -/
theorem itemizes_iff_no_reasoning {reader : Env} {report : UsageResponse}
    (within : (reader.now reader.attempt .getAllQuotas).SameMonth (reader.now reader.attempt .usagePeriod))
    (reported : (serve (getUsage tenantId) reader store).1 = .ok (.response report)) :
    Itemizes store.database tenantId (reader.now reader.attempt .usagePeriod).startOfMonth.timestamp report ↔
      store.database.monthlyUsage tenantId .reasoningTokens
        (reader.now reader.attempt .usagePeriod).startOfMonth.timestamp = 0 := by
  obtain ⟨plan, _, built⟩ := usageReport_ok.mp (served_report reported)
  obtain ⟨total, breakdown, shown, input, cached, output, reasoning⟩ := report_tokens within built
  rw [Database.tokenPool_parts] at total
  constructor
  · intro itemizes
    obtain ⟨other, same, _, _, _, listed, _⟩ := itemizes
    obtain rfl := Option.some.inj (shown.symm.trans same)
    omega
  · intro none
    exact ⟨breakdown, shown, by omega, input, cached, by omega, reasoning⟩

def tokens (id : Nat) (key : String) (usageType : UsageType) (qty : Int) (valid : 0 < qty ∧ qty ≤ 10000000) :
    Env × MeterCall := (Seed.env id, { Seed.apiCall key with request := ⟨usageType, qty, valid⟩ })

theorem five_valid : (0 : Int) < 5 ∧ (5 : Int) ≤ 10000000 := by decide

theorem seven_valid : (0 : Int) < 7 ∧ (7 : Int) ≤ 10000000 := by decide

def reasoned : Store :=
  (meterRuns.run [tokens 20 "first" .outputTokens 5 five_valid, tokens 21 "second" .reasoningTokens 7 seven_valid]
    Seed.store).getD Seed.store

theorem noCalls_valid : (0 : Int) ≤ 0 ∧ (0 : Int) ≤ 5000 ∧ (0 : Int) ≤ 5000 ∧ (0 : Int) ≤ 0 := by decide

theorem counts_valid : (0 : Int) ≤ 0 ∧ (0 : Int) ≤ 0 ∧ (0 : Int) ≤ 12 ∧ (0 : Int) ≤ 7 ∧ (0 : Int) ≤ 0 ∧ (0 : Int) ≤ 0 ∧
    (0 : Int) ≤ 0 := by
  decide

theorem twelve_valid : (0 : Int) ≤ 12 ∧ (0 : Int) ≤ 500000 ∧ (0 : Int) ≤ 499988 ∧ (0 : Int) ≤ 0 := by decide

theorem noCost_valid : (0 : Int) ≤ 0 := by decide

def overstated : UsageResponse where
  periodStart := "2025-06-01T00:00:00+00:00"
  periodEnd := "2025-07-01T00:00:00+00:00"
  plan := "Free Plan"
  apiCalls := ⟨0, 5000, 5000, 0, none, noCalls_valid⟩
  aiTokens := ⟨12, 500000, 499988, 0, some ⟨0, 0, 12, 7, 0, 0, 0, counts_valid⟩, twelve_valid⟩
  totalCostCents := 0
  valid := noCost_valid

theorem overstated_report : (serve (getUsage Seed.tenant.id) (Seed.env 22) reasoned).1 = .ok (.response overstated) := by
  decide

theorem reasoning_counted_twice :
    (serve (getUsage Seed.tenant.id) (Seed.env 22) reasoned).1 = .ok (.response overstated) ∧
      ¬ Itemizes reasoned.database Seed.tenant.id Seed.time.startOfMonth.timestamp overstated := by
  refine ⟨overstated_report, ?_⟩
  intro itemizes
  obtain ⟨breakdown, shown, total, _⟩ := itemizes
  obtain rfl := Option.some.inj shown
  revert total
  decide

theorem overstated_itemizes_iff : Itemizes reasoned.database Seed.tenant.id Seed.time.startOfMonth.timestamp overstated ↔
    reasoned.database.monthlyUsage Seed.tenant.id .reasoningTokens Seed.time.startOfMonth.timestamp = 0 :=
  @itemizes_iff_no_reasoning reasoned Seed.tenant.id (Seed.env 22) overstated ⟨rfl, rfl⟩ overstated_report

end MeteringBilling.TokenBreakdowns
