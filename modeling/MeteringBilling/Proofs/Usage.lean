import MeteringBilling.Proofs.Serving

/-! How an inserted event changes the sums that quotas are compared with, and what the
quota report says about them. -/

namespace MeteringBilling

namespace Database

def contribution (tenantId : UUID) (usageType : UsageType) (start : Int) (event : UsageEvent) : Int :=
  if event.tenantId = tenantId ∧ event.usageType = usageType ∧ start ≤ event.createdAt then event.quantity else 0

theorem monthlyUsage_eq (database : Database) (tenantId : UUID) (usageType : UsageType) (start : Int) :
    database.monthlyUsage tenantId usageType start =
      (database.usageEvents.rows.map (contribution tenantId usageType start)).sum := by
  simp only [monthlyUsage, monthlyEvents, Table.select]
  induction database.usageEvents.rows with
  | nil => rfl
  | cons event rows ih =>
    rw [List.map_cons, List.sum_cons, ← ih, contribution]
    by_cases tenant : event.tenantId = tenantId
    · by_cases month : start ≤ event.createdAt
      · by_cases type : event.usageType = usageType <;> simp [tenant, month, type]
      · simp [month]
    · simp [tenant]

theorem monthlyUsage_append {before after : Database} {event : UsageEvent}
    (rows : after.usageEvents.rows = before.usageEvents.rows ++ [event]) (tenantId : UUID) (usageType : UsageType)
    (start : Int) : after.monthlyUsage tenantId usageType start =
      before.monthlyUsage tenantId usageType start + contribution tenantId usageType start event := by
  simp [monthlyUsage_eq, rows]

theorem tokenPool_parts (database : Database) (tenantId : UUID) (start : Int) : database.tokenPool tenantId start =
    database.monthlyUsage tenantId .inputTokens start + database.monthlyUsage tenantId .cachedInputTokens start +
      database.monthlyUsage tenantId .outputTokens start + database.monthlyUsage tenantId .reasoningTokens start := by
  rw [tokenPool, show UsageType.all.filter (· != .apiCall) =
    [.inputTokens, .cachedInputTokens, .outputTokens, .reasoningTokens] by decide]
  simp only [List.map_cons, List.map_nil, List.sum_cons, List.sum_nil]
  omega

theorem tokenPool_append {before after : Database} {event : UsageEvent}
    (rows : after.usageEvents.rows = before.usageEvents.rows ++ [event]) (tenantId : UUID) (start : Int) :
    after.tokenPool tenantId start = before.tokenPool tenantId start +
      if event.tenantId = tenantId ∧ event.usageType ≠ .apiCall ∧ start ≤ event.createdAt then event.quantity else 0 := by
  simp only [tokenPool, monthlyUsage_append rows, contribution]
  by_cases counted : event.tenantId = tenantId ∧ start ≤ event.createdAt
  · cases type : event.usageType <;> simp [UsageType.all, counted] <;> omega
  · have never (usageType : UsageType) :
        ¬ (event.tenantId = tenantId ∧ event.usageType = usageType ∧ start ≤ event.createdAt) :=
      fun counts => counted ⟨counts.1, counts.2.2⟩
    have uncounted : ¬ (event.tenantId = tenantId ∧ event.usageType ≠ .apiCall ∧ start ≤ event.createdAt) :=
      fun counts => counted ⟨counts.1, counts.2.2⟩
    simp [never, uncounted]

private theorem tokenUsage_sum (types : List UsageType) {occurs : UsageType → Bool} {used : UsageType → Int}
    (ungrouped : ∀ type, occurs type = false → used type = 0) :
    ((QuotaService.tokenUsage ((types.filter occurs).map fun type => (type, used type))).map Prod.snd).sum =
      ((types.filter (· != .apiCall)).map used).sum := by
  induction types with
  | nil => rfl
  | cons type types ih =>
    cases present : occurs type <;> cases token : type != .apiCall <;>
      simp_all [QuotaService.tokenUsage]

theorem monthlyUsage_ungrouped {database : Database} {tenantId : UUID} {start : Int} {usageType : UsageType}
    (absent : ((database.monthlyEvents tenantId start).any (·.usageType == usageType)) = false) :
    database.monthlyUsage tenantId usageType start = 0 := by
  have none : (database.monthlyEvents tenantId start).filter (·.usageType == usageType) = [] := by
    rw [List.filter_eq_nil_iff]
    exact fun event member counts => List.any_eq_false.mp absent event member counts
  rw [monthlyUsage, none]
  rfl

theorem breakdown_sum (database : Database) (tenantId : UUID) (start : Int) :
    ((QuotaService.tokenUsage (database.monthlyUsageBreakdown tenantId start)).map Prod.snd).sum =
      database.tokenPool tenantId start :=
  tokenUsage_sum UsageType.all fun _ => monthlyUsage_ungrouped

end Database

theorem getAllQuotas_quiet {env : Env} {session : Session} (quiet : env.Quiet) (live : session.aborted = false)
    {tenantId : UUID} {subscription : Subscription} {plan : Plan}
    (subscribed : session.working.activeSubscription? tenantId = some subscription)
    (planned : session.working.plan? subscription.planId = some plan) :
    QuotaService.getAllQuotas tenantId env session = (.ok (.ok (QuotaService.allQuotas plan
      (session.working.monthlyUsageBreakdown tenantId
        (env.now env.attempt .getAllQuotas).startOfMonth.timestamp))), session) := by
  have found := getActiveByTenant_quiet quiet live tenantId
  have stored := getById_quiet quiet live subscription.planId
  rw [subscribed] at found
  rw [planned] at stored
  rw [QuotaService.getAllQuotas, Effect.bind_ok found]
  exact (Effect.bind_ok stored).trans ((Effect.bind_ok (now_apply _)).trans
    (Effect.bind_ok (query_quiet quiet live _ _)))

theorem allQuotas_tokens (plan : Plan) (database : Database) (tenantId : UUID) (start : Int) :
    (QuotaService.allQuotas plan (database.monthlyUsageBreakdown tenantId start)).aiTokens =
      QuotaService.quota (database.tokenPool tenantId start) plan.aiTokenQuota := by
  rw [QuotaService.allQuotas, Database.breakdown_sum]

end MeteringBilling
