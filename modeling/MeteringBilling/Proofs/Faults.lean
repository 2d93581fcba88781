import MeteringBilling.Proofs.Endpoint

/-! Metering on a database that may fail. Whatever fails, a request that returns has done what
it does on a database that does not: an attempt is repeated only in a transaction that is
aborted, and there nothing succeeds. -/

namespace MeteringBilling

open Effect

variable {α β : Type} {env : Env} {session : Session} {store : Store}

/-- A program whose transient errors leave the transaction aborted. -/
def Aborts (program : Request α) : Prop :=
  ∀ env session exc after, program env session = (.error exc, after) → isTransientError exc = true → after.aborted = true

namespace Aborts

theorem pure (value : α) : Aborts (pure value) := fun _ _ _ _ raised => by cases raised

theorem ask (read : Env → α) : Aborts (Effect.ask read) := fun _ _ _ _ raised => by cases raised

theorem statement (place : Statement) (run : Database → Except PyError (α × Database)) :
    Aborts (MeteringBilling.statement place run) := by
  intro env session exc after raised _
  unfold MeteringBilling.statement at raised
  split at raised
  · next aborted =>
    rw [← (Prod.mk.inj raised).2]
    exact aborted
  · split at raised
    · rw [← (Prod.mk.inj raised).2]
    · split at raised
      · cases raised
      · rw [← (Prod.mk.inj raised).2]

theorem query (place : Statement) (read : Database → α) : Aborts (MeteringBilling.query place read) :=
  .statement place _

theorem ofExcept {result : Except PyError α} (final : ∀ exc, result = .error exc → isTransientError exc = false) :
    Aborts (Effect.ofExcept result) := by
  intro env session exc after raised again
  rw [final exc (Prod.mk.inj raised).1] at again
  cases again

theorem raise {exc : PyError} (final : isTransientError exc = false) : Aborts (Effect.raise exc : Request α) := by
  intro env session raisedExc after raised again
  rw [← Except.error.inj (Prod.mk.inj raised).1, final] at again
  cases again

theorem bind {program : Request α} {next : α → Request β} (first : Aborts program) (rest : ∀ value, Aborts (next value)) :
    Aborts (program >>= next) := by
  intro env session exc after raised again
  rw [Effect.bind_apply] at raised
  rcases outcome : program env session with ⟨error | value, middle⟩
  · rw [outcome] at raised
    obtain ⟨same, rfl⟩ := Prod.mk.inj raised
    exact first env session exc middle (by rw [outcome, Except.error.inj same]) again
  · rw [outcome] at raised
    exact rest value env middle exc after raised again

theorem scalarOneOrNone (rows : List α) : Aborts (MeteringBilling.scalarOneOrNone rows) := by
  match rows with
  | [] => exact .pure _
  | [_] => exact .pure _
  | _ :: _ :: _ => exact .raise (by decide)

end Aborts

theorem checkStatus_final {status : SubscriptionStatus} {exc : PyError}
    (refused : QuotaService.checkStatus status = .error exc) : isTransientError exc = false := by
  cases status with
  | active | trialing | incomplete => cases refused
  | pastDue | canceled =>
    rw [← Except.error.inj refused]
    decide

theorem checkQuota_aborts (tenantId : UUID) (usageType : UsageType) (qty : Int) :
    Aborts (QuotaService.checkQuota tenantId usageType qty) := by
  apply Aborts.bind (.bind (.query _ _) fun _ => .scalarOneOrNone _)
  intro subscription
  cases subscription with
  | none => exact .raise (by decide)
  | some subscription =>
    apply Aborts.bind (.ofExcept fun _ => checkStatus_final)
    intro _
    apply Aborts.bind (.bind (.query _ _) fun _ => .scalarOneOrNone _)
    intro plan
    cases plan with
    | none => exact .raise (by decide)
    | some plan => exact .bind (.ask _) fun _ => .bind (.query _ _) fun _ => .pure _

theorem recordOnce_aborts (call : RecordCall) : Aborts (MeterService.recordOnce call) := by
  have authorized : Aborts (MeterService.authorize call) := by
    apply Aborts.bind (checkQuota_aborts _ _ _)
    intro answer
    obtain ⟨allowed, info⟩ := answer
    dsimp only
    split
    · exact .raise (quotaExceeded_final _ _ _ _)
    · exact .bind (.ask _) fun _ => .bind (.ofExcept fun _ => calculate_final) fun _ => .pure _
  apply Aborts.bind authorized
  intro admitted
  have recorded : Aborts (UsageRepository.recordUsage call.tenantId call.idempotencyKey call.usageType call.qty
      admitted.2 call.reqIp call.userAgent) := by
    refine .bind (.ask _) fun _ => .bind (.ask _) fun _ => .bind (.statement _ _) fun inserted => ?_
    cases inserted with
    | some event => exact .pure _
    | none => exact .bind (.query _ _) fun _ => .scalarOneOrNone _
  apply Aborts.bind recorded
  intro event
  cases event with
  | none => exact .raise (quotaExceeded_final _ _ _ _)
  | some event => exact .pure _

theorem recordOnce_refused (aborted : session.aborted = true) (call : RecordCall) :
    MeterService.recordOnce call env session = (.error inFailedTransaction, session) := by
  have refused : query .selectActiveSubscription (·.activeSubscriptions call.tenantId) env session =
      (.error inFailedTransaction, session) := by
    rw [query, statement, if_pos aborted]
  exact bind_error (bind_error (bind_error (bind_error refused)))

theorem recordOnce_agrees (call : RecordCall) : Agrees Env.calm (MeterService.recordOnce call) := by
  have checked : Agrees Env.calm (QuotaService.checkQuota call.tenantId call.usageType call.qty) := by
    apply Agrees.bind (.bind (Agrees.query _ _) fun _ => Agrees.scalarOneOrNone _)
    intro subscription
    cases subscription with
    | none => exact .raise _
    | some subscription =>
      apply Agrees.bind (.ofExcept _)
      intro _
      apply Agrees.bind (.bind (Agrees.query _ _) fun _ => Agrees.scalarOneOrNone _)
      intro plan
      cases plan with
      | none => exact .raise _
      | some plan => exact .bind (Agrees.now _) fun _ => .bind (Agrees.query _ _) fun _ => .pure _
  have authorized : Agrees Env.calm (MeterService.authorize call) := by
    apply Agrees.bind checked
    intro answer
    obtain ⟨allowed, info⟩ := answer
    dsimp only
    split
    · exact .raise _
    · exact .bind (.ask fun _ => rfl) fun _ => .bind (.ofExcept _) fun _ => .pure _
  apply Agrees.bind authorized
  intro admitted
  have recorded : Agrees Env.calm (UsageRepository.recordUsage call.tenantId call.idempotencyKey call.usageType call.qty
      admitted.2 call.reqIp call.userAgent) := by
    refine .bind (Agrees.uuid4 _) fun _ => .bind (.ask fun _ => rfl) fun _ => .bind (Agrees.statement _ _) ?_
    intro inserted
    cases inserted with
    | some event => exact .pure _
    | none => exact .bind (Agrees.query _ _) fun _ => Agrees.scalarOneOrNone _
  apply Agrees.bind recorded
  intro event
  cases event with
  | none => exact .raise _
  | some event => exact .pure _

theorem retryAttempts_refused (aborted : session.aborted = true) (call : RecordCall) (attempts : List Nat)
    (lastExc : PyError) : ∃ exc, retryAttempts MeterService.recordPolicy isTransientError (fun _ => pure ⟨⟩)
      (fun attempt => within (Env.retry attempt) (MeterService.recordOnce call)) attempts lastExc env session =
        (.error exc, session) := by
  induction attempts generalizing lastExc with
  | nil => exact ⟨lastExc, rfl⟩
  | cons attempt rest ih =>
    have refused : within (Env.retry attempt) (MeterService.recordOnce call) env session =
        (.error inFailedTransaction, session) := recordOnce_refused aborted call
    rw [retryAttempts, handle, refused]
    dsimp only
    split
    · exact ⟨_, rfl⟩
    · exact ih _

/-- A call that returns did so at its first attempt, as on a database that does not fail. -/
theorem record_returned (live : session.aborted = false) {call : RecordCall} {event : UsageEvent}
    {info : UpdatedQuotaInfo} {after : Session} (returned : MeterService.record call env session = (.ok (event, info), after)) :
    ∃ checked working, session.working.record env call = some ((event, checked), working) ∧
      info = MeterService.updatedQuotaInfo call checked ∧ after = { session with working } := by
  have first : MeterService.recordOnce call (env.retry 0) session = (.ok (event, info), after) := by
    have range : List.range MeterService.recordPolicy.maxRetries = [0, 1, 2] := rfl
    rw [MeterService.record, withDbRetry, range, retryAttempts, handle] at returned
    rcases outcome : within (Env.retry 0) (MeterService.recordOnce call) env session with ⟨exc | value, middle⟩
    · rw [outcome] at returned
      dsimp only at returned
      split at returned
      · cases returned
      · next again =>
        have transient : isTransientError exc = true := by
          by_contra final
          exact again (by simp [final])
        have aborted := recordOnce_aborts call _ _ _ _ outcome transient
        obtain ⟨exc, refused⟩ := @retryAttempts_refused env middle aborted call [1, 2] exc
        have raised : retryAttempts MeterService.recordPolicy isTransientError (fun _ => pure ⟨⟩)
            (fun attempt => within (Env.retry attempt) (MeterService.recordOnce call)) [1, 2] _ env middle =
              (.ok (event, info), after) := returned
        rw [refused] at raised
        cases raised
    · rw [outcome] at returned
      exact outcome.trans returned
  have calm := recordOnce_agrees call _ _ _ _ first
  have once := recordOnce_quiet (env.retry 0).calm_quiet rfl live call
  have same : session.working.record (env.retry 0).calm call = session.working.record env call := rfl
  rw [same] at once
  cases recorded : session.working.record env call with
  | none =>
    rw [recorded] at once
    obtain ⟨exc, failed, raised, _⟩ := once
    rw [calm] at raised
    cases raised
  | some result =>
    obtain ⟨⟨stored, checked⟩, working⟩ := result
    rw [recorded] at once
    obtain ⟨answer, rfl⟩ := Prod.mk.inj (once.symm.trans calm)
    obtain ⟨rfl, rfl⟩ := Prod.mk.inj (Except.ok.inj answer)
    exact ⟨checked, working, rfl, rfl, rfl⟩

/-- What a request that posts usage leaves, whatever fails: nothing new, or what its call records. -/
theorem metered_cases (call : MeterCall) (env : Env) (store : Store) :
    (serve (recordUsage call) env store).2.database = store.database ∨
      ∃ event info after, store.database.record env call.record = some ((event, info), after) ∧
        (serve (recordUsage call) env store).2.database = after := by
  rcases ran : recordUsage call env store.open with ⟨reply, session⟩
  obtain ⟨_, kept⟩ := serve_database ran
  have outcome : session.committed = store.database ∧ (session.working = store.database ∨ (∀ value, reply ≠ .ok value) ∨
      ∃ event info, store.database.record env call.record = some ((event, info), session.working)) := by
    rcases recordUsage_cases ran with rfl | ⟨saved, exc, rfl⟩ | ⟨event, _, middle, response, recorded, _, rfl⟩
    · exact ⟨rfl, Or.inl rfl⟩
    · exact ⟨(Prod.mk.inj saved).1, Or.inr (Or.inl fun value same => by cases same)⟩
    · obtain ⟨checked, working, computed, _, rfl⟩ := record_returned rfl recorded
      exact ⟨rfl, Or.inr (Or.inr ⟨event, checked, computed⟩)⟩
  obtain ⟨committed, working⟩ := outcome
  rcases kept with same | ⟨⟨value, answered⟩, same⟩
  · exact Or.inl (same.trans committed)
  · rcases working with unchanged | refused | ⟨event, info, computed⟩
    · exact Or.inl (same.trans unchanged)
    · exact (refused value answered).elim
    · exact Or.inr ⟨event, info, session.working, computed, same⟩

theorem metered_rows (call : MeterCall) (env : Env) (store : Store) :
    (serve (recordUsage call) env store).2.database = store.database ∨
      ∃ cost, ∃ inserts : call.record.Inserts env store.database cost,
        (serve (recordUsage call) env store).2.database =
          { store.database with usageEvents := store.database.usageEvents.add _ inserts.fits } := by
  rcases metered_cases call env store with same | ⟨event, info, after, recorded, final⟩
  · exact Or.inl same
  · obtain ⟨⟨checked, cost⟩, admitted, finished⟩ := Option.bind_eq_some_iff.mp recorded
    obtain ⟨⟨_, _⟩, stored, same⟩ := Option.bind_eq_some_iff.mp finished
    obtain ⟨_, rfl⟩ := Prod.mk.inj (Option.some.inj same)
    rcases recordAdmitted_cases stored with ⟨_, rfl⟩ | ⟨storable, tenant, _, fits, rfl⟩
    · exact Or.inl final
    · exact Or.inr ⟨cost, ⟨⟨checked, admitted⟩, storable, tenant, fits⟩, final⟩

/-- What holds of the stored events and of each row that a request inserts stays so. -/
theorem metered_all {call : MeterCall} {env : Env} {predicate : UsageEvent → Prop}
    (stored : ∀ event ∈ store.database.usageEvents, predicate event)
    (inserted : ∀ cost, call.record.Inserts env store.database cost → predicate (call.record.fresh env cost)) :
    ∀ event ∈ (serve (recordUsage call) env store).2.database.usageEvents, predicate event := by
  intro event member
  rcases metered_rows call env store with same | ⟨cost, inserts, final⟩
  · rw [same] at member
    exact stored event member
  · rw [final] at member
    rcases List.mem_append.mp member with old | added
    · exact stored event old
    · rw [List.mem_singleton.mp added]
      exact inserted cost inserts

theorem metered_hit {call : MeterCall} {cached : Json} (hit : call.cached? env store.redis = some cached) :
    (serve (recordUsage call) env store).2.database = store.database := by
  rcases (serve_database (recordUsage_hit (by exact hit))).2 with same | ⟨_, same⟩
  · exact same
  · exact same

end MeteringBilling
