import Mathlib.Algebra.Order.BigOperators.Group.List
import MeteringBilling.ConcurrentReport
import MeteringBilling.Proofs.Requests

/-! A report whose quotas, total and breakdown come from three sets of tables, each with all the
events of the one before: when it is the report of one of them. -/

namespace MeteringBilling.ReportSnapshot

open Effect

/-- Tables that metering has made of others: events were appended, and nothing else changed. -/
structure Later (before after : Database) : Prop where
  plans : after.plans = before.plans
  subscriptions : after.subscriptions = before.subscriptions
  events : ∃ added, after.usageEvents.rows = before.usageEvents.rows ++ added ∧ ∀ event ∈ added, 0 < event.quantity

def tokenEvents (database : Database) (tenantId : UUID) (start : Int) : List UsageEvent :=
  (database.monthlyEvents tenantId start).filter (·.usageType != .apiCall)

/-- The report that one set of tables gives for the month of one instant. -/
def Snapshot (reader : Env) (tenantId : UUID) (report : UsageResponse) (database : Database) : Prop :=
  ∃ plan time, database.reportedPlan tenantId = .ok plan ∧
    database.rollup reader.settings tenantId plan time time = .ok report

def quotaStart (reader : Env) : Int := (reader.now 0 .getAllQuotas).startOfMonth.timestamp

def period (reader : Env) : DateTime := (reader.now 0 .usagePeriod).startOfMonth

/-- A report whose quotas, total and breakdown come from three sets of tables. -/
def Assembled (reader : Env) (tenantId : UUID) (report : UsageResponse) (first second third : Database) : Prop :=
  ∃ plan, first.reportedPlan tenantId = .ok plan ∧
    usageResponse reader.settings (QuotaService.allQuotas plan (first.monthlyUsageBreakdown tenantId (quotaStart reader)))
      (period reader) (second.monthlyCost tenantId (period reader).timestamp)
      (third.monthlyUsageBreakdown tenantId (period reader).timestamp) = .ok report

/-- From the first read to the third no token event of the month is committed, and from the
first to the second the month's costs stay within their cent. -/
structure Undisturbed (tenantId : UUID) (start : Int) (first second third : Database) : Prop where
  tokens : tokenEvents third tenantId start = tokenEvents first tenantId start
  cents : microunitsToCents (second.monthlyCost tenantId start) = microunitsToCents (first.monthlyCost tenantId start)

section

variable {before after first second third database : Database} {tenantId : UUID} {start : Int} {reader : Env}
  {report : UsageResponse}

namespace Later

theorem refl (database : Database) : Later database database := ⟨rfl, rfl, [], (List.append_nil _).symm, nofun⟩

theorem trans (left : Later first second) (right : Later second third) : Later first third := by
  obtain ⟨added, rows, positive⟩ := left.events
  obtain ⟨more, appended, also⟩ := right.events
  refine ⟨right.plans.trans left.plans, right.subscriptions.trans left.subscriptions, added ++ more, ?_, ?_⟩
  · rw [appended, rows, List.append_assoc]
  · intro event member
    rcases List.mem_append.mp member with old | new
    · exact positive event old
    · exact also event new

theorem reportedPlan (later : Later before after) (tenantId : UUID) :
    after.reportedPlan tenantId = before.reportedPlan tenantId := by
  unfold Database.reportedPlan Database.activeSubscription? Database.plan?
  rw [later.plans, later.subscriptions]

private theorem eq_nil_of_sum {events : List UsageEvent} (positive : ∀ event ∈ events, 0 < event.quantity)
    (none : (events.map UsageEvent.quantity).sum = 0) : events = [] := by
  cases events with
  | nil => rfl
  | cons event events =>
    obtain ⟨here, rest⟩ := List.forall_mem_cons.mp positive
    have others : 0 ≤ (events.map UsageEvent.quantity).sum := by
      apply List.sum_nonneg
      intro quantity member
      obtain ⟨other, inside, rfl⟩ := List.mem_map.mp member
      exact (rest other inside).le
    rw [List.map_cons, List.sum_cons] at none
    omega

theorem kept (later : Later before after) {selected : UsageEvent → Bool}
    (same : (((after.monthlyEvents tenantId start).filter selected).map UsageEvent.quantity).sum =
      (((before.monthlyEvents tenantId start).filter selected).map UsageEvent.quantity).sum) :
    (after.monthlyEvents tenantId start).filter selected = (before.monthlyEvents tenantId start).filter selected := by
  obtain ⟨added, rows, positive⟩ := later.events
  simp only [Database.monthlyEvents, Table.select, rows, List.filter_append, List.map_append, List.sum_append] at same ⊢
  have none : (((added.filter fun row => row.tenantId == tenantId && decide (start ≤ row.createdAt)).filter selected).map
      UsageEvent.quantity).sum = 0 := by omega
  rw [eq_nil_of_sum ?_ none, List.append_nil]
  intro event member
  exact positive event (List.mem_of_mem_filter (List.mem_of_mem_filter member))

end Later

theorem tokenPool_eq (database : Database) (tenantId : UUID) (start : Int) :
    database.tokenPool tenantId start = ((tokenEvents database tenantId start).map UsageEvent.quantity).sum := by
  rw [Database.tokenPool_parts]
  unfold Database.monthlyUsage tokenEvents
  induction database.monthlyEvents tenantId start with
  | nil => rfl
  | cons event events ih => cases type : event.usageType <;> simp [type] <;> omega

theorem quantities_eq (database : Database) (tenantId : UUID) (start : Int) :
    ((database.monthlyEvents tenantId start).map UsageEvent.quantity).sum =
      database.monthlyUsage tenantId .apiCall start + database.tokenPool tenantId start := by
  rw [tokenPool_eq]
  unfold Database.monthlyUsage tokenEvents
  induction database.monthlyEvents tenantId start with
  | nil => rfl
  | cons event events ih =>
    rw [List.map_cons, List.sum_cons, ih]
    cases type : event.usageType <;> simp [type] <;> omega

theorem tokenUsage_eq (database : Database) (tenantId : UUID) (start : Int) {usageType : UsageType}
    (token : usageType ≠ .apiCall) : database.monthlyUsage tenantId usageType start =
      (((tokenEvents database tenantId start).filter (·.usageType == usageType)).map UsageEvent.quantity).sum := by
  unfold Database.monthlyUsage tokenEvents
  rw [List.filter_filter]
  congr 3
  funext event
  cases same : event.usageType == usageType with
  | false => rfl
  | true => rw [eq_of_beq same, Bool.true_and, bne_iff_ne.mpr token]

theorem usageResponse_same {settings : Settings} {quotas : QuotaService.AllQuotas} {startOfMonth : DateTime}
    {cost other : Int} {breakdown instead : List (UsageType × Int)} (cents : microunitsToCents cost = microunitsToCents other)
    (used : ∀ usageType ≠ .apiCall, usedOf breakdown usageType = usedOf instead usageType) :
    usageResponse settings quotas startOfMonth cost breakdown = usageResponse settings quotas startOfMonth other instead := by
  unfold usageResponse tokenBreakdown combinedOutput
  rw [cents, used .inputTokens (by decide), used .cachedInputTokens (by decide), used .outputTokens (by decide),
    used .reasoningTokens (by decide)]

theorem snapshot_of_undisturbed (within : (reader.now 0 .getAllQuotas).SameMonth (reader.now 0 .usagePeriod))
    (assembled : Assembled reader tenantId report first second third)
    (undisturbed : Undisturbed tenantId (period reader).timestamp first second third) :
    Snapshot reader tenantId report first := by
  obtain ⟨plan, planned, built⟩ := assembled
  refine ⟨plan, reader.now 0 .usagePeriod, planned, ?_⟩
  rw [← built, quotaStart, within.startOfMonth]
  apply usageResponse_same undisturbed.cents.symm
  intro usageType token
  rw [usedOf_breakdown, usedOf_breakdown, tokenUsage_eq _ _ _ token, tokenUsage_eq _ _ _ token]
  exact congrArg (fun events => ((events.filter (·.usageType == usageType)).map UsageEvent.quantity).sum)
    undisturbed.tokens.symm

theorem Later.unchanged (later : Later before after)
    (api : after.monthlyUsage tenantId .apiCall start = before.monthlyUsage tenantId .apiCall start)
    (pool : after.tokenPool tenantId start = before.tokenPool tenantId start) :
    after.monthlyEvents tenantId start = before.monthlyEvents tenantId start := by
  have same := @Later.kept before after tenantId start later (fun _ => true)
  rw [List.filter_true, List.filter_true, quantities_eq, quantities_eq, api, pool] at same
  exact same rfl

theorem shown_tokens {quotas : QuotaService.AllQuotas} {startOfMonth : DateTime} {cost apiCost : Int}
    {tokenCosts : TokenCosts} (shows : Shows quotas startOfMonth cost (database.monthlyUsageBreakdown tenantId start) apiCost
      tokenCosts report) : ∃ breakdown, report.aiTokens.breakdown = some breakdown ∧
        breakdown.inputTokens + breakdown.cachedInputTokens + breakdown.outputTokens = database.tokenPool tenantId start := by
  obtain ⟨breakdown, built, shown⟩ := shows.breakdown
  obtain ⟨_, rfl⟩ := validated_ok.mp built
  refine ⟨_, shown, ?_⟩
  simp only [combinedOutput, usedOf_breakdown, Database.tokenPool_parts]
  omega

theorem undisturbed_of_snapshot (within : (reader.now 0 .getAllQuotas).SameMonth (reader.now 0 .usagePeriod))
    (assembled : Assembled reader tenantId report first second third) (ordered : Later first third)
    (comparable : Later first database ∨ Later database first) (snapshot : Snapshot reader tenantId report database) :
    Undisturbed tenantId (period reader).timestamp first second third := by
  obtain ⟨plan, _, built⟩ := assembled
  rw [quotaStart, within.startOfMonth] at built
  obtain ⟨_, _, _, _, shows⟩ := usageResponse_ok built
  obtain ⟨other, time, _, rolled⟩ := snapshot
  obtain ⟨_, _, _, _, again⟩ := usageResponse_ok rolled
  have month : time.startOfMonth = period reader :=
    (DateTime.sameMonth_of_isoformat (again.periodStart.symm.trans shows.periodStart)).startOfMonth
  rw [month] at again
  have api : database.monthlyUsage tenantId .apiCall (period reader).timestamp =
      first.monthlyUsage tenantId .apiCall (period reader).timestamp := by
    rw [← usedOf_breakdown, ← usedOf_breakdown]
    exact again.apiUsed.symm.trans shows.apiUsed
  have pool : database.tokenPool tenantId (period reader).timestamp = first.tokenPool tenantId (period reader).timestamp := by
    have used := again.tokensUsed.symm.trans shows.tokensUsed
    rw [allQuotas_tokens, period, allQuotas_tokens] at used
    exact used
  have tokens : third.tokenPool tenantId (period reader).timestamp = database.tokenPool tenantId (period reader).timestamp := by
    obtain ⟨breakdown, shown, sum⟩ := shown_tokens shows
    obtain ⟨same, also, total⟩ := shown_tokens again
    obtain rfl := Option.some.inj (shown.symm.trans also)
    exact sum.symm.trans total
  have events : database.monthlyEvents tenantId (period reader).timestamp =
      first.monthlyEvents tenantId (period reader).timestamp := by
    rcases comparable with later | earlier
    · exact later.unchanged api pool
    · exact (earlier.unchanged api.symm pool.symm).symm
  constructor
  · apply ordered.kept
    exact (tokenPool_eq ..).symm.trans ((tokens.trans pool).trans (tokenPool_eq ..))
  · have total := shows.total.symm.trans again.total
    unfold Database.monthlyCost at total ⊢
    rw [total, events]

end

end MeteringBilling.ReportSnapshot
