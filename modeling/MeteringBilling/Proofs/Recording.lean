import MeteringBilling.Admission
import MeteringBilling.Proofs.Retrying

/-! The services compute the admission and the recording of `Admission`. -/

namespace MeteringBilling

open Effect

variable {env : Env} {session : Session}

theorem clash_of_tenant {first second : Subscription} {tenantId : UUID} (left : first.tenantId == tenantId)
    (right : second.tenantId == tenantId) : Keyed.Clash first second :=
  Or.inr (Or.inl ((eq_of_beq left).trans (eq_of_beq right).symm))

theorem activeSubscriptions_eq (database : Database) (tenantId : UUID) :
    database.activeSubscriptions tenantId = (database.activeSubscription? tenantId).toList := by
  apply Table.select_eq
  intro first second left right
  rw [Bool.and_eq_true] at left right
  exact clash_of_tenant left.1 right.1

theorem selectPlan_eq (database : Database) (planId : PlanTier) :
    database.plans.select (·.id == planId) = (database.plan? planId).toList := by
  apply Table.select_eq
  intro first second left right
  exact (eq_of_beq left).trans (eq_of_beq right).symm

theorem eventsOf_eq (database : Database) (key : UsageKey) :
    database.eventsOf key = (database.eventOf? key).toList := by
  apply Table.select_eq
  intro first second left right
  exact Or.inr ((eq_of_beq left).trans (eq_of_beq right).symm)

theorem checkStatus_of_active {database : Database} {tenantId : UUID} {subscription : Subscription}
    (active : database.activeSubscription? tenantId = some subscription) :
    QuotaService.checkStatus subscription.status = .ok () := by
  have meters := List.find?_some active
  rw [Bool.and_eq_true] at meters
  cases status : subscription.status <;> simp_all [SubscriptionStatus.meters, QuotaService.checkStatus]

theorem getActiveByTenant_quiet (quiet : env.Quiet) (live : session.aborted = false) (tenantId : UUID) :
    SubscriptionRepository.getActiveByTenant tenantId env session =
      (.ok (session.working.activeSubscription? tenantId), session) := by
  rw [SubscriptionRepository.getActiveByTenant, bind_ok (query_quiet quiet live _ _), activeSubscriptions_eq,
    scalarOneOrNone_toList]

theorem getById_quiet (quiet : env.Quiet) (live : session.aborted = false) (planId : PlanTier) :
    PlanRepository.getById planId env session = (.ok (session.working.plan? planId), session) := by
  rw [PlanRepository.getById, bind_ok (query_quiet quiet live _ _), selectPlan_eq, scalarOneOrNone_toList]

theorem checkQuota_quiet (quiet : env.Quiet) (first : env.attempt = 0) (live : session.aborted = false) (call : RecordCall) :
    match session.working.limit? call.tenantId call.usageType with
    | some limit =>
      QuotaService.checkQuota call.tenantId call.usageType call.qty env session =
        (.ok (decide (session.working.monthlyUsage call.tenantId call.usageType env.monthStart + call.qty ≤ limit),
          QuotaService.quotaInfo call.usageType
            (session.working.monthlyUsage call.tenantId call.usageType env.monthStart) limit call.qty), session)
    | none => ∃ exc, QuotaService.checkQuota call.tenantId call.usageType call.qty env session = (.error exc, session) ∧
        isTransientError exc = false := by
  rw [QuotaService.checkQuota, bind_ok (getActiveByTenant_quiet quiet live call.tenantId), Database.limit?]
  cases active : session.working.activeSubscription? call.tenantId with
  | none => exact ⟨_, rfl, by decide⟩
  | some subscription =>
    have admitted : Effect.ofExcept (QuotaService.checkStatus subscription.status) env session = (.ok (), session) := by
      rw [ofExcept_apply, checkStatus_of_active active]
    simp only [Option.bind_eq_bind, Option.bind_some]
    rw [bind_ok admitted, bind_ok (getById_quiet quiet live subscription.planId)]
    cases session.working.plan? subscription.planId with
    | none => exact ⟨_, rfl, by decide⟩
    | some plan =>
      simp only [Option.bind_some, Option.pure_def]
      rw [bind_ok (now_apply .checkQuota), UsageRepository.getMonthlyUsage, bind_ok (query_quiet quiet live _ _)]
      rw [first]
      have allowed (used limit : Int) : (!decide (limit < used)) = decide (used ≤ limit) := by
        rw [← decide_not]; simp only [Int.not_lt]
      exact congrArg (fun allowed => (Except.ok (allowed, _), session)) (allowed _ _)

theorem calculateCostMicrounits_final {quantity price : Int} {exc : PyError}
    (failed : calculateCostMicrounits quantity price = .error exc) : exc = .invalidOperation := by
  unfold calculateCostMicrounits at failed
  split at failed
  · cases failed
  · dsimp only at failed
    split at failed
    · cases failed
    · exact (Except.error.inj failed).symm

theorem calculate_final {settings : Settings} {usageType : UsageType} {quantity : Int} {exc : PyError}
    (failed : CostService.calculate settings usageType quantity = .error exc) : isTransientError exc = false := by
  unfold CostService.calculate at failed
  split at failed
  · rw [calculateCostMicrounits_final failed]; decide
  · split at failed
    · rw [← Except.error.inj failed]; decide
    · rw [calculateCostMicrounits_final failed]; decide

theorem authorize_quiet (quiet : env.Quiet) (first : env.attempt = 0) (live : session.aborted = false) (call : RecordCall) :
    match call.admission? env.settings env.monthStart session.working with
    | some admitted => MeterService.authorize call env session = (.ok admitted, session)
    | none => ∃ exc, MeterService.authorize call env session = (.error exc, session) ∧ isTransientError exc = false := by
  have checked := checkQuota_quiet quiet first live call
  rw [RecordCall.admission?, MeterService.authorize]
  cases limited : session.working.limit? call.tenantId call.usageType with
  | none =>
    rw [limited] at checked
    obtain ⟨exc, raised, final⟩ := checked
    exact ⟨exc, bind_error raised, final⟩
  | some limit =>
    rw [limited] at checked
    simp only [Option.bind_eq_bind, Option.bind_some]
    rw [bind_ok checked]
    by_cases exceeds : limit < session.working.monthlyUsage call.tenantId call.usageType env.monthStart + call.qty
    · simp only [exceeds, if_true, Int.not_le.mpr exceeds, decide_false]
      exact ⟨_, rfl, quotaExceeded_final _ _ _ _⟩
    · simp only [exceeds, if_false, Int.not_lt.mp exceeds, decide_true, Bool.not_true, Bool.false_eq_true]
      rw [bind_ok (ask_apply _ _ _)]
      cases cost : CostService.calculate env.settings call.usageType call.qty with
      | error exc => exact ⟨exc, rfl, calculate_final cost⟩
      | ok cost => rfl

theorem eventOf?_isSome (database : Database) (event : UsageEvent) :
    database.usageEvents.rows.any (·.key == event.key) = (database.eventOf? event.key).isSome := by
  rw [Database.eventOf?, Table.find?, Bool.eq_iff_iff, List.find?_isSome, List.any_eq_true]

theorem recordUsage_quiet (quiet : env.Quiet) (first : env.attempt = 0) (live : session.aborted = false)
    (call : RecordCall) (cost : Int) :
    match session.working.recordAdmitted env call cost with
    | some (event, after) =>
      UsageRepository.recordUsage call.tenantId call.idempotencyKey call.usageType call.qty cost call.reqIp
        call.userAgent env session = (.ok (some event), { session with working := after })
    | none => ∃ exc after,
      UsageRepository.recordUsage call.tenantId call.idempotencyKey call.usageType call.qty cost call.reqIp
        call.userAgent env session = (.error exc, after) ∧ isTransientError exc = false := by
  let event := call.fresh env cost
  have taken := eventOf?_isSome session.working event
  have inserted := statement_quiet quiet live .insertUsageEvent (Database.insertUsageEvent event)
  rw [Database.insertUsageEvent, taken] at inserted
  rw [Database.recordAdmitted, UsageRepository.recordUsage, bind_ok (uuid4_apply _), bind_ok (ask_apply _ _ _), first]
  by_cases storable : event.Storable
  case neg =>
    rw [if_pos storable] at inserted
    rw [if_pos storable]
    exact ⟨_, _, bind_error inserted, by decide⟩
  rw [if_neg (not_not_intro storable)] at inserted
  rw [if_neg (not_not_intro storable)]
  cases stored : session.working.eventOf? call.key with
  | some existing =>
    have key : session.working.eventOf? event.key = some existing := stored
    rw [key] at inserted
    refine (bind_ok inserted).trans ((bind_ok (query_quiet quiet live _ _)).trans ?_)
    rw [eventsOf_eq]
    exact (congrArg (fun row : Option UsageEvent => scalarOneOrNone row.toList env session) stored).trans
      (scalarOneOrNone_toList _)
  | none =>
    have key : session.working.eventOf? event.key = none := stored
    rw [key] at inserted
    by_cases tenant : session.working.hasTenant call.tenantId = true
    · have known : session.working.hasTenant event.tenantId = true := tenant
      simp only [Option.isSome_none, Bool.false_eq_true, if_false, known, Bool.not_true] at inserted
      simp only [tenant, if_true]
      cases added : session.working.usageEvents.insert? event with
      | some usageEvents =>
        rw [added] at inserted
        exact bind_ok inserted
      | none =>
        rw [added] at inserted
        exact ⟨_, _, bind_error inserted, by decide⟩
    · have unknown : session.working.hasTenant event.tenantId = false := Bool.eq_false_iff.mpr tenant
      simp only [Option.isSome_none, Bool.false_eq_true, if_false, unknown, Bool.not_false, if_true] at inserted
      simp only [tenant, Bool.false_eq_true, if_false]
      exact ⟨_, _, bind_error inserted, by decide⟩

theorem recordOnce_quiet (quiet : env.Quiet) (first : env.attempt = 0) (live : session.aborted = false) (call : RecordCall) :
    match session.working.record env call with
    | some ((event, info), after) =>
      MeterService.recordOnce call env session =
        (.ok (event, MeterService.updatedQuotaInfo call info), { session with working := after })
    | none => ∃ exc after, MeterService.recordOnce call env session = (.error exc, after) ∧
        isTransientError exc = false := by
  have admitted := authorize_quiet quiet first live call
  rw [Database.record, MeterService.recordOnce]
  cases admission : call.admission? env.settings env.monthStart session.working with
  | none =>
    rw [admission] at admitted
    obtain ⟨exc, raised, final⟩ := admitted
    exact ⟨exc, session, bind_error raised, final⟩
  | some pair =>
    obtain ⟨info, cost⟩ := pair
    rw [admission] at admitted
    have recorded := recordUsage_quiet quiet first live call cost
    simp only [Option.bind_eq_bind, Option.bind_some]
    rw [bind_ok admitted]
    cases stored : session.working.recordAdmitted env call cost with
    | none =>
      rw [stored] at recorded
      obtain ⟨exc, after, raised, final⟩ := recorded
      exact ⟨exc, after, bind_error raised, final⟩
    | some result =>
      rw [stored] at recorded
      exact bind_ok recorded

theorem Env.Quiet.retry (quiet : env.Quiet) (attempt : Nat) : (env.retry attempt).Quiet := quiet

/-- `record` computes `Database.record`: where the database does not fail, the first attempt
is the last. -/
theorem record_quiet (quiet : env.Quiet) (live : session.aborted = false) (call : RecordCall) :
    match session.working.record env call with
    | some ((event, info), after) =>
      MeterService.record call env session =
        (.ok (event, MeterService.updatedQuotaInfo call info), { session with working := after })
    | none => ∃ exc after, MeterService.record call env session = (.error exc, after) := by
  have once := recordOnce_quiet (quiet.retry 0) rfl live call
  have same : session.working.record (env.retry 0) call = session.working.record env call := rfl
  rw [same] at once
  cases recorded : session.working.record env call with
  | none =>
    rw [recorded] at once
    obtain ⟨exc, after, raised, final⟩ := once
    exact ⟨exc, after, withDbRetry_final (by decide) raised final⟩
  | some result =>
    rw [recorded] at once
    exact withDbRetry_ok (by decide) once

end MeteringBilling
