import MeteringBilling.Proofs.Recording

/-! Serving a request: what is committed and what is rolled back. -/

namespace MeteringBilling

open Effect

variable {α : Type} {env : Env} {store : Store} {endpoint : Request α} {session : Session}

theorem serve_ok (quiet : env.Quiet) {value : α} (returned : endpoint env store.open = (.ok value, session))
    (live : session.aborted = false) : serve endpoint env store = (.ok value, ⟨session.working, session.redis⟩) := by
  simp only [serve, returned, getDb, Except.map, Effect.handle, commit_quiet quiet live]

theorem serve_error {exc : PyError} (raised : endpoint env store.open = (.error exc, session))
    (kept : session.committed = store.database) :
    serve endpoint env store = (.error exc, ⟨store.database, session.redis⟩) := by
  simp only [serve, raised, getDb, Except.map, rollback, bind_apply, modify_apply, raise_apply, kept]

/-- After a failing last commit the tables are those committed before it. -/
theorem serve_database {endpoint : Request α} {reply : Except PyError α}
    (served : endpoint env store.open = (reply, session)) :
    (serve endpoint env store).1 = reply ∧
      ((serve endpoint env store).2.database = session.committed ∨
        (∃ value, reply = .ok value) ∧ (serve endpoint env store).2.database = session.working) := by
  cases reply with
  | error exc => exact ⟨by simp only [serve, served], Or.inl (by simp only [serve, served]; rfl)⟩
  | ok value =>
    refine ⟨by simp only [serve, served], ?_⟩
    simp only [serve, served, Except.map, getDb, Effect.handle]
    rcases commit_cases .commitRequest env session with committed | ⟨exc, after, failed, kept⟩
    · rw [committed]
      exact Or.inr ⟨⟨value, rfl⟩, rfl⟩
    · rw [failed]
      exact Or.inl kept

theorem serve_redis {endpoint : Request α} {reply : Except PyError α}
    (served : endpoint env store.open = (reply, session)) : (serve endpoint env store).2.redis = session.redis := by
  cases reply with
  | error exc =>
    simp only [serve, served]
    rfl
  | ok value =>
    simp only [serve, served, Except.map, getDb, Effect.handle, commit]
    split
    · next committed =>
      split at committed
      · cases (Prod.mk.inj committed).1
      · split at committed
        · cases (Prod.mk.inj committed).1
        · rw [← (Prod.mk.inj committed).2]
    · next failed =>
      split at failed
      · rw [← (Prod.mk.inj failed).2]
        rfl
      · split at failed
        · rw [← (Prod.mk.inj failed).2]
          rfl
        · cases (Prod.mk.inj failed).1

def Session.saved (session : Session) : Database × Redis := (session.committed, session.redis)

private theorem saved_kept (session : Session) (working : Database) (aborted : Bool) :
    Session.saved { session with working, aborted } = session.saved := rfl

theorem getActiveByTenant_keeps (tenantId : UUID) :
    Effect.Keeps Session.saved (SubscriptionRepository.getActiveByTenant tenantId) :=
  .bind (query_keeps saved_kept _ _) fun _ => scalarOneOrNone_keeps _

theorem getById_keeps (planId : PlanTier) : Effect.Keeps Session.saved (PlanRepository.getById planId) :=
  .bind (query_keeps saved_kept _ _) fun _ => scalarOneOrNone_keeps _

theorem checkQuota_keeps (tenantId : UUID) (usageType : UsageType) (qty : Int) :
    Effect.Keeps Session.saved (QuotaService.checkQuota tenantId usageType qty) := by
  apply Effect.Keeps.bind (getActiveByTenant_keeps tenantId)
  intro subscription
  cases subscription with
  | none => exact .raise _
  | some subscription =>
    refine .bind (.ofExcept _) fun _ => .bind (getById_keeps _) fun plan => ?_
    cases plan with
    | none => exact .raise _
    | some plan => exact .bind (.ask _) fun _ => .bind (query_keeps saved_kept _ _) fun _ => .pure _

theorem authorize_keeps (call : RecordCall) : Effect.Keeps Session.saved (MeterService.authorize call) := by
  apply Effect.Keeps.bind (checkQuota_keeps _ _ _)
  intro answer
  obtain ⟨allowed, info⟩ := answer
  dsimp only
  split
  · exact .raise _
  · exact .bind (.ask _) fun _ => .bind (.ofExcept _) fun _ => .pure _

theorem repositoryRecordUsage_keeps (tenantId : UUID) (idempotencyKey : String) (usageType : UsageType) (qty cost : Int)
    (reqIp userAgent : Option String) : Effect.Keeps Session.saved
      (UsageRepository.recordUsage tenantId idempotencyKey usageType qty cost reqIp userAgent) := by
  refine .bind (.ask _) fun _ => .bind (.ask _) fun _ => .bind (statement_keeps saved_kept _ _) fun inserted => ?_
  cases inserted with
  | some event => exact .pure _
  | none => exact .bind (query_keeps saved_kept _ _) fun _ => scalarOneOrNone_keeps _

theorem recordOnce_keeps (call : RecordCall) : Effect.Keeps Session.saved (MeterService.recordOnce call) := by
  apply Effect.Keeps.bind (authorize_keeps call)
  intro admitted
  apply Effect.Keeps.bind (repositoryRecordUsage_keeps _ _ _ _ _ _ _)
  intro event
  cases event with
  | none => exact .raise _
  | some event => exact .pure _

theorem record_keeps (call : RecordCall) : Effect.Keeps Session.saved (MeterService.record call) :=
  withDbRetry_keeps (fun _ => .pure _) fun attempt => .within (Env.retry attempt) (recordOnce_keeps call)

/-- Serving a call of `record` commits what `Database.record` says, or nothing. -/
theorem serve_record (store : Store) (quiet : env.Quiet) (call : RecordCall) :
    match store.database.record env call with
    | some ((event, info), after) =>
      serve (MeterService.record call) env store =
        (.ok (event, MeterService.updatedQuotaInfo call info), ⟨after, store.redis⟩)
    | none => ∃ exc, serve (MeterService.record call) env store = (.error exc, store) := by
  have computed : match store.open.working.record env call with
      | some ((event, info), after) =>
        MeterService.record call env store.open =
          (.ok (event, MeterService.updatedQuotaInfo call info), { store.open with working := after })
      | none => ∃ exc after, MeterService.record call env store.open = (.error exc, after) := record_quiet quiet rfl call
  have same : store.open.working = store.database := rfl
  rw [same] at computed
  cases recorded : store.database.record env call with
  | some result =>
    rw [recorded] at computed
    exact serve_ok quiet computed rfl
  | none =>
    rw [recorded] at computed
    obtain ⟨exc, after, raised⟩ := computed
    have kept := record_keeps call env store.open
    rw [raised] at kept
    obtain ⟨committed, redis⟩ := Prod.mk.inj kept
    refine ⟨exc, ?_⟩
    rw [serve_error raised committed, redis]
    rfl

theorem admission?_eq_some {call : RecordCall} {settings : Settings} {start : Int} {database : Database}
    {info : QuotaInfo} {cost : Int} : call.admission? settings start database = some (info, cost) ↔
      ∃ limit, database.limit? call.tenantId call.usageType = some limit ∧
        database.monthlyUsage call.tenantId call.usageType start + call.qty ≤ limit ∧
        CostService.calculate settings call.usageType call.qty = .ok cost ∧
        info = QuotaService.quotaInfo call.usageType (database.monthlyUsage call.tenantId call.usageType start) limit
          call.qty := by
  rw [RecordCall.admission?]
  cases database.limit? call.tenantId call.usageType with
  | none => simp
  | some limit =>
    by_cases exceeds : limit < database.monthlyUsage call.tenantId call.usageType start + call.qty
    · simp [exceeds]
    · cases CostService.calculate settings call.usageType call.qty with
      | error exc => simp [Except.toOption]
      | ok price =>
        have within := Int.not_lt.mp exceeds
        simp [exceeds, within, Except.toOption]
        tauto

theorem eventOf?_eq_none_of_fits {database : Database} {event : UsageEvent} (fits : database.usageEvents.Fits event) :
    database.eventOf? event.key = none := by
  rw [Database.eventOf?, Table.find?, List.find?_eq_none]
  intro stored member same
  exact fits stored member (Or.inr (eq_of_beq same))

theorem recordAdmitted_of_fits {database : Database} (env : Env) (call : RecordCall) {cost : Int}
    (storable : (call.fresh env cost).Storable) (tenant : database.hasTenant call.tenantId = true)
    (fits : database.usageEvents.Fits (call.fresh env cost)) : database.recordAdmitted env call cost =
      some (call.fresh env cost, { database with usageEvents := database.usageEvents.add _ fits }) := by
  have absent : database.eventOf? call.key = none := eventOf?_eq_none_of_fits fits
  simp only [Database.recordAdmitted, storable, not_true_eq_false, if_false, absent, tenant, if_true, Table.insert?_of_fits fits, Option.map_some]

theorem recordAdmitted_storable {database : Database} {call : RecordCall} {cost : Int} {result : UsageEvent × Database}
    (recorded : database.recordAdmitted env call cost = some result) : (call.fresh env cost).Storable := by
  by_contra unstorable
  rw [Database.recordAdmitted, if_pos unstorable] at recorded
  cases recorded

/-- An admitted call that returns found the event of its key, or inserted one. -/
theorem recordAdmitted_cases {database after : Database} {call : RecordCall} {cost : Int} {event : UsageEvent}
    (recorded : database.recordAdmitted env call cost = some (event, after)) :
    database.eventOf? call.key = some event ∧ after = database ∨
      (call.fresh env cost).Storable ∧ database.hasTenant call.tenantId = true ∧ event = call.fresh env cost ∧
        ∃ fits : database.usageEvents.Fits (call.fresh env cost),
          after = { database with usageEvents := database.usageEvents.add _ fits } := by
  have storable := recordAdmitted_storable recorded
  rw [Database.recordAdmitted, if_neg (not_not_intro storable)] at recorded
  cases stored : database.eventOf? call.key with
  | some existing =>
    rw [stored] at recorded
    obtain ⟨rfl, rfl⟩ := Prod.mk.inj (Option.some.inj recorded)
    exact Or.inl ⟨rfl, rfl⟩
  | none =>
    simp only [stored] at recorded
    split at recorded
    · next tenant =>
      by_cases fits : database.usageEvents.Fits (call.fresh env cost)
      · rw [Table.insert?_of_fits fits] at recorded
        obtain ⟨rfl, rfl⟩ := Prod.mk.inj (Option.some.inj recorded)
        exact Or.inr ⟨storable, tenant, rfl, fits, rfl⟩
      · rw [Table.insert?_eq_none.mpr fits] at recorded
        cases recorded
    · cases recorded

theorem record_of_inserts {database : Database} {call : RecordCall} {cost : Int} (inserts : call.Inserts env database cost) :
    ∃ info, database.record env call = some ((call.fresh env cost, info),
      { database with usageEvents := database.usageEvents.add _ inserts.fits }) := by
  obtain ⟨info, admitted⟩ := inserts.admitted
  refine ⟨info, ?_⟩
  simp only [Database.record, admitted, Option.bind_eq_bind, Option.bind_some,
    recordAdmitted_of_fits env call inserts.storable inserts.tenant inserts.fits, Option.pure_def]

/-- What serving a call of `record` does to the stores: it inserts one event, or nothing. -/
theorem recorded_cases (quiet : env.Quiet) (call : RecordCall) :
    (∃ cost, ∃ inserts : call.Inserts env store.database cost,
      (serve (MeterService.record call) env store).2 =
        ⟨{ store.database with usageEvents := store.database.usageEvents.add _ inserts.fits }, store.redis⟩) ∨
    (∀ cost, ¬ call.Inserts env store.database cost) ∧ (serve (MeterService.record call) env store).2 = store := by
  have served := serve_record store quiet call
  by_cases inserting : ∃ cost, call.Inserts env store.database cost
  · obtain ⟨cost, inserts⟩ := inserting
    obtain ⟨info, recorded⟩ := record_of_inserts inserts
    rw [recorded] at served
    exact Or.inl ⟨cost, inserts, by rw [served]⟩
  · refine Or.inr ⟨not_exists.mp inserting, ?_⟩
    cases recorded : store.database.record env call with
    | none =>
      rw [recorded] at served
      obtain ⟨exc, served⟩ := served
      rw [served]
    | some result =>
      obtain ⟨⟨event, info⟩, after⟩ := result
      rw [recorded] at served
      rw [served]
      obtain ⟨⟨_, cost⟩, admitted, finished⟩ := Option.bind_eq_some_iff.mp recorded
      obtain ⟨⟨_, _⟩, stored, same⟩ := Option.bind_eq_some_iff.mp finished
      obtain ⟨_, rfl⟩ := Prod.mk.inj (Option.some.inj same)
      rcases recordAdmitted_cases stored with ⟨_, rfl⟩ | ⟨storable, tenant, _, fits, _⟩
      · rfl
      · exact (inserting ⟨cost, ⟨_, admitted⟩, storable, tenant, fits⟩).elim

end MeteringBilling
