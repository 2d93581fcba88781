import MeteringBilling.Proofs.Usage
import MeteringBilling.UsageReport

/-! What `GET /usage` answers: what Redis holds, or the rollup of the tables. -/

namespace MeteringBilling

open Effect

/-- The report of one set of tables: the quotas of the month of one instant, the costs and the
period of the month of another. -/
def Database.rollup (database : Database) (settings : Settings) (tenantId : UUID) (plan : Plan)
    (quotaTime periodTime : DateTime) : Except PyError UsageResponse :=
  let period := periodTime.startOfMonth
  usageResponse settings
    (QuotaService.allQuotas plan (database.monthlyUsageBreakdown tenantId quotaTime.startOfMonth.timestamp)) period
    (database.monthlyCost tenantId period.timestamp) (database.monthlyUsageBreakdown tenantId period.timestamp)

def Database.reportedPlan (database : Database) (tenantId : UUID) : Except String Plan :=
  match database.activeSubscription? tenantId with
  | none => .error "No active subscription"
  | some subscription =>
    match database.plan? subscription.planId with
    | none => .error "Plan not found"
    | some plan => .ok plan

def Database.usageReport (database : Database) (env : Env) (tenantId : UUID) : Except PyError UsageResponse :=
  match database.reportedPlan tenantId with
  | .error message => .error (.http 404 (.str message) [])
  | .ok plan => database.rollup env.settings tenantId plan (env.now env.attempt .getAllQuotas)
      (env.now env.attempt .usagePeriod)

def Env.usageKey (env : Env) (tenantId : UUID) : String :=
  usageCacheKey tenantId (env.now env.attempt .usageCacheKey)

def Env.cachedReport? (env : Env) (tenantId : UUID) (redis : Redis) : Option Json :=
  if env.redisUp .get (env.usageKey tenantId) then (redis (env.usageKey tenantId)).map CacheEntry.value else none

def Env.reported (env : Env) (tenantId : UUID) (report : UsageResponse) (redis : Redis) : Redis :=
  if env.redisUp .set (env.usageKey tenantId) then
    Function.update redis (env.usageKey tenantId) (some ⟨report.modelDump, usageCacheTtl⟩)
  else redis

variable {env : Env} {session after : Session} {tenantId : UUID}

theorem getUsage_hit {cached : Json} (held : env.cachedReport? tenantId session.redis = some cached) :
    getUsage tenantId env session = (.ok (.cached cached), session) := by
  have looked : cacheGet (env.usageKey tenantId) env session = (.ok (some cached), session) :=
    congrArg (fun answer => (Except.ok answer, session)) held
  rw [getUsage, bind_ok (now_apply _)]
  exact bind_ok looked

theorem getUsage_miss (missed : env.cachedReport? tenantId session.redis = none) :
    getUsage tenantId env session = (do
      match ← QuotaService.getAllQuotas tenantId with
      | .error message => Effect.raise (.http 404 (.str message) [])
      | .ok quotas => do
        let startOfMonth := (← now .usagePeriod).startOfMonth
        let totalCostMicrounits ← UsageRepository.getMonthlyCost tenantId startOfMonth
        let usageBreakdown ← Effect.within (fun env => env.retry (env.attempt + 1))
          (UsageRepository.getMonthlyUsageBreakdown tenantId startOfMonth)
        let settings ← Effect.ask Env.settings
        let response ← Effect.ofExcept (usageResponse settings quotas startOfMonth totalCostMicrounits usageBreakdown)
        cacheSet (env.usageKey tenantId) response.modelDump usageCacheTtl
        pure (UsageReply.response response) : Request UsageReply) env session := by
  have looked : cacheGet (env.usageKey tenantId) env session = (.ok none, session) :=
    congrArg (fun answer => (Except.ok answer, session)) missed
  rw [getUsage, bind_ok (now_apply _)]
  exact bind_ok looked

theorem getAllQuotas_refused (quiet : env.Quiet) (live : session.aborted = false) {message : String}
    (refused : session.working.reportedPlan tenantId = .error message) :
    QuotaService.getAllQuotas tenantId env session = (.ok (.error message), session) := by
  unfold Database.reportedPlan at refused
  rw [QuotaService.getAllQuotas, bind_ok (getActiveByTenant_quiet quiet live tenantId)]
  cases active : session.working.activeSubscription? tenantId with
  | none =>
    rw [active] at refused
    rw [← Except.error.inj refused]
    rfl
  | some subscription =>
    rw [active] at refused
    dsimp only at refused ⊢
    rw [bind_ok (getById_quiet quiet live subscription.planId)]
    cases stored : session.working.plan? subscription.planId with
    | none =>
      rw [stored] at refused
      rw [← Except.error.inj refused]
      rfl
    | some plan =>
      rw [stored] at refused
      cases refused

theorem reportedPlan_ok {database : Database} {plan : Plan} : database.reportedPlan tenantId = .ok plan ↔
    ∃ subscription, database.activeSubscription? tenantId = some subscription ∧
      database.plan? subscription.planId = some plan := by
  unfold Database.reportedPlan
  cases database.activeSubscription? tenantId with
  | none => exact ⟨nofun, fun found => by obtain ⟨_, same, _⟩ := found; cases same⟩
  | some subscription =>
    simp only [Option.some.injEq, exists_eq_left']
    cases database.plan? subscription.planId with
    | none => exact ⟨nofun, nofun⟩
    | some other => exact ⟨fun same => congrArg some (Except.ok.inj same), fun same => congrArg Except.ok (Option.some.inj same)⟩

theorem storeReport_apply (report : UsageResponse) :
    cacheSet (env.usageKey tenantId) report.modelDump usageCacheTtl env session =
      (.ok (), { session with redis := env.reported tenantId report session.redis }) := by
  unfold cacheSet Env.reported
  split <;> rfl

theorem getUsage_quiet (quiet : env.Quiet) (live : session.aborted = false)
    (missed : env.cachedReport? tenantId session.redis = none) :
    getUsage tenantId env session = match session.working.usageReport env tenantId with
      | .ok report => (.ok (.response report), { session with redis := env.reported tenantId report session.redis })
      | .error exc => (.error exc, session) := by
  rw [getUsage_miss missed, Database.usageReport]
  cases planned : session.working.reportedPlan tenantId with
  | error message => exact bind_ok (getAllQuotas_refused quiet live planned)
  | ok plan =>
    obtain ⟨subscription, active, stored⟩ := reportedPlan_ok.mp planned
    rw [bind_ok (getAllQuotas_quiet quiet live active stored)]
    dsimp only
    rw [bind_ok (now_apply _), UsageRepository.getMonthlyCost, bind_ok (query_quiet quiet live _ _)]
    have again : Effect.within (fun env => env.retry (env.attempt + 1)) (UsageRepository.getMonthlyUsageBreakdown tenantId
        (env.now env.attempt .usagePeriod).startOfMonth) env session = (.ok (session.working.monthlyUsageBreakdown tenantId
          (env.now env.attempt .usagePeriod).startOfMonth.timestamp), session) :=
      query_quiet (quiet.retry (env.attempt + 1)) live .sumMonthlyUsageBreakdown
        (·.monthlyUsageBreakdown tenantId (env.now env.attempt .usagePeriod).startOfMonth.timestamp)
    rw [bind_ok again, bind_ok (ask_apply _ _ _), Database.rollup]
    cases usageResponse env.settings _ _ _ _ with
    | error exc => rfl
    | ok report =>
      rw [bind_ok (ofExcept_apply _ _ _)]
      exact bind_ok (storeReport_apply report)

theorem getUsage_agrees (tenantId : UUID) : Agrees Env.calm (getUsage tenantId) := by
  refine .bind (Agrees.now _) fun _ => .bind (Agrees.cacheGet _) ?_
  intro cached
  cases cached with
  | some cached => exact .pure _
  | none =>
    have quotas : Agrees Env.calm (QuotaService.getAllQuotas tenantId) := by
      apply Agrees.bind (.bind (Agrees.query _ _) fun _ => Agrees.scalarOneOrNone _)
      intro subscription
      cases subscription with
      | none => exact .pure _
      | some subscription =>
        apply Agrees.bind (.bind (Agrees.query _ _) fun _ => Agrees.scalarOneOrNone _)
        intro plan
        cases plan with
        | none => exact .pure _
        | some plan => exact .bind (Agrees.now _) fun _ => .bind (Agrees.query _ _) fun _ => .pure _
    apply Agrees.bind quotas
    intro answer
    cases answer with
    | error message => exact .raise _
    | ok quotas =>
      refine .bind (Agrees.now _) fun _ => .bind (Agrees.query _ _) fun _ => .bind ?_ ?_
      · exact .within (fun _ => rfl) (Agrees.query _ _)
      · intro breakdown
        refine .bind (.ask fun _ => rfl) fun _ => .bind (.ofExcept _) fun _ => .bind (Agrees.cacheSet _ _ _) fun _ => .pure _

/-- A request that returns gives what Redis holds, or the report of the tables it saw, whatever
fails elsewhere. -/
theorem getUsage_returned (live : session.aborted = false) {answer : UsageReply}
    (returned : getUsage tenantId env session = (.ok answer, after)) :
    match answer with
    | .cached content => env.cachedReport? tenantId session.redis = some content ∧ after = session
    | .response report => session.working.usageReport env tenantId = .ok report ∧
        after = { session with redis := env.reported tenantId report session.redis } := by
  cases missed : env.cachedReport? tenantId session.redis with
  | some cached =>
    rw [getUsage_hit missed] at returned
    obtain ⟨same, rfl⟩ := Prod.mk.inj returned
    obtain rfl := Except.ok.inj same
    exact ⟨rfl, rfl⟩
  | none =>
    have calm := getUsage_agrees tenantId env session _ _ returned
    rw [getUsage_quiet env.calm_quiet live missed] at calm
    change (match session.working.usageReport env tenantId with
      | .ok report => (Except.ok (UsageReply.response report),
          { session with redis := env.reported tenantId report session.redis })
      | .error exc => (.error exc, session)) = _ at calm
    cases computed : session.working.usageReport env tenantId with
    | error exc =>
      rw [computed] at calm
      cases (Prod.mk.inj calm).1
    | ok report =>
      rw [computed] at calm
      obtain ⟨same, rfl⟩ := Prod.mk.inj calm
      obtain rfl := Except.ok.inj same
      exact ⟨rfl, rfl⟩

def Session.contents (session : Session) : Database × Database × Redis := (session.committed, session.working, session.redis)

theorem getAllQuotas_contents (tenantId : UUID) : Keeps Session.contents (QuotaService.getAllQuotas tenantId) := by
  have reads {α : Type} (place : Statement) (read : Database → List α) :
      Keeps Session.contents (do scalarOneOrNone (← query place read)) :=
    .bind (query_reads (fun _ _ => rfl) _ _) fun _ => scalarOneOrNone_keeps _
  apply Keeps.bind (reads _ _)
  intro subscription
  cases subscription with
  | none => exact .pure _
  | some subscription =>
    apply Keeps.bind (reads _ _)
    intro plan
    cases plan with
    | none => exact .pure _
    | some plan => exact .bind (.ask _) fun _ => .bind (query_reads (fun _ _ => rfl) _ _) fun _ => .pure _

theorem getUsage_spares (tenantId : UUID) : Spares Session.contents (getUsage tenantId) := by
  apply Spares.bind (.ask _)
  intro time
  apply Spares.bind (fun _ _ => rfl)
  intro cached
  cases cached with
  | some cached => exact .pure _
  | none =>
    apply Spares.bind (getAllQuotas_contents tenantId)
    intro answer
    cases answer with
    | error message => exact .of_keeps (.raise _)
    | ok quotas =>
      apply Spares.bind (.ask _)
      intro period
      apply Spares.bind (query_reads (fun _ _ => rfl) _ _)
      intro cost
      apply Spares.bind (.within _ (query_reads (fun _ _ => rfl) _ _))
      intro breakdown
      apply Spares.bind (.ask _)
      intro settings
      apply Spares.bind (.ofExcept _)
      intro report
      exact .of_returns fun _ _ => ⟨_, _, rfl⟩

theorem served_report {store : Store} {report : UsageResponse}
    (reported : (serve (getUsage tenantId) env store).1 = .ok (.response report)) :
    store.database.usageReport env tenantId = .ok report := by
  rcases answered : getUsage tenantId env store.open with ⟨reply, session⟩
  obtain ⟨same, _⟩ := serve_database answered
  rw [reported] at same
  rw [← same] at answered
  exact (getUsage_returned rfl answered).1

theorem usageReport_ok {database : Database} {report : UsageResponse} :
    database.usageReport env tenantId = .ok report ↔ ∃ plan, database.reportedPlan tenantId = .ok plan ∧
      database.rollup env.settings tenantId plan (env.now env.attempt .getAllQuotas)
        (env.now env.attempt .usagePeriod) = .ok report := by
  unfold Database.usageReport
  cases database.reportedPlan tenantId with
  | error message => exact ⟨nofun, nofun⟩
  | ok plan => simp only [Except.ok.injEq, exists_eq_left']

theorem validated_ok {α : Type} {model : String} {valid : Prop} [Decidable valid] {build : valid → α} {value : α} :
    validated model valid build = .ok value ↔ ∃ holds, build holds = value := by
  unfold validated
  split
  · next holds => exact ⟨fun same => ⟨holds, Except.ok.inj same⟩, fun ⟨_, same⟩ => congrArg Except.ok same⟩
  · next fails => exact ⟨nofun, fun ⟨holds, _⟩ => (fails holds).elim⟩

structure Shows (quotas : QuotaService.AllQuotas) (startOfMonth : DateTime) (totalCostMicrounits : Int)
    (usageBreakdown : List (UsageType × Int)) (apiCost : Int) (tokenCosts : TokenCosts) (report : UsageResponse) : Prop where
  periodStart : report.periodStart = startOfMonth.isoformat
  apiUsed : report.apiCalls.used = quotas.apiCalls.used
  apiLimit : report.apiCalls.limit = quotas.apiCalls.limit
  apiCost : report.apiCalls.costCents = microunitsToCents apiCost
  tokensUsed : report.aiTokens.used = quotas.aiTokens.used
  tokensLimit : report.aiTokens.limit = quotas.aiTokens.limit
  tokensCost : report.aiTokens.costCents = microunitsToCents tokenCosts.sum
  breakdown : ∃ breakdown, tokenBreakdown usageBreakdown tokenCosts = .ok breakdown ∧
    report.aiTokens.breakdown = some breakdown
  total : report.totalCostCents = microunitsToCents totalCostMicrounits

theorem usageResponse_ok {settings : Settings} {quotas : QuotaService.AllQuotas} {startOfMonth : DateTime}
    {totalCostMicrounits : Int} {usageBreakdown : List (UsageType × Int)} {report : UsageResponse}
    (built : usageResponse settings quotas startOfMonth totalCostMicrounits usageBreakdown = .ok report) :
    ∃ tokenCosts apiCost,
      CostService.calculateTokenBreakdown settings (usedOf usageBreakdown .inputTokens)
        (usedOf usageBreakdown .cachedInputTokens) (combinedOutput usageBreakdown) 0 = .ok tokenCosts ∧
      CostService.calculate settings .apiCall quotas.apiCalls.used = .ok apiCost ∧
      Shows quotas startOfMonth totalCostMicrounits usageBreakdown apiCost tokenCosts report := by
  obtain ⟨tokenCosts, priced, built⟩ := except_bind_ok.mp built
  obtain ⟨_, _, built⟩ := except_bind_ok.mp built
  obtain ⟨apiCost, charged, built⟩ := except_bind_ok.mp built
  obtain ⟨apiCalls, api, built⟩ := except_bind_ok.mp built
  obtain ⟨breakdown, shown, built⟩ := except_bind_ok.mp built
  obtain ⟨aiTokens, tokens, built⟩ := except_bind_ok.mp built
  obtain ⟨_, rfl⟩ := validated_ok.mp api
  obtain ⟨_, rfl⟩ := validated_ok.mp tokens
  obtain ⟨_, rfl⟩ := validated_ok.mp built
  exact ⟨tokenCosts, apiCost, priced, charged, rfl, rfl, rfl, rfl, rfl, rfl, rfl, ⟨breakdown, shown, rfl⟩, rfl⟩

theorem usedOf_breakdown (database : Database) (tenantId : UUID) (start : Int) (usageType : UsageType) :
    usedOf (database.monthlyUsageBreakdown tenantId start) usageType = database.monthlyUsage tenantId usageType start := by
  have found (types : List UsageType) (member : usageType ∈ types) {occurs : UsageType → Bool} {used : UsageType → Int}
      (ungrouped : occurs usageType = false → used usageType = 0) :
      (((types.filter occurs).map fun type => (type, used type)).lookup usageType).getD 0 = used usageType := by
    cases present : occurs usageType with
    | true =>
      have grouped : usageType ∈ types.filter occurs := List.mem_filter.mpr ⟨member, present⟩
      generalize types.filter occurs = groups at grouped
      induction groups with
      | nil => exact (List.not_mem_nil grouped).elim
      | cons type groups ih =>
        rw [List.map_cons, List.lookup_cons]
        by_cases same : usageType = type
        · simp [same]
        · rw [beq_eq_false_iff_ne.mpr same]
          exact ih ((List.mem_cons.mp grouped).resolve_left same)
    | false =>
      have ungroupedKeys : ((types.filter occurs).map fun type => (type, used type)).lookup usageType = none := by
        rw [List.lookup_eq_none_iff]
        intro entry inside
        obtain ⟨type, grouped, rfl⟩ := List.mem_map.mp inside
        have apart : usageType ≠ type := by
          intro same
          subst same
          exact Bool.false_ne_true (present.symm.trans (List.mem_filter.mp grouped).2)
        exact bne_iff_ne.mpr apart
      rw [ungroupedKeys, ungrouped present]
      rfl
  exact found UsageType.all (by cases usageType <;> decide) Database.monthlyUsage_ungrouped

end MeteringBilling
