import MeteringBilling.Proofs.Requests
import MeteringBilling.Proofs.Tenancy
import MeteringBilling.Seed

/-! The requests of a tenant depend on what it sees and on nothing else, and the requests of
others change nothing of it: in any serial run, a tenant is answered as if it were alone. -/

namespace MeteringBilling.Isolation

open Effect Tenancy

variable {verifyApiKey : String → String → Bool} {tenantId : UUID} {drawn : UUID → Prop} {env : Env}

theorem getActiveByTenant_respects :
    Respects (sees tenantId drawn) env (SubscriptionRepository.getActiveByTenant tenantId) :=
  .bind (query_respects fun _ _ same => activeSubscriptions_same same) fun _ => scalarOneOrNone_respects _

theorem getById_respects (planId : PlanTier) : Respects (sees tenantId drawn) env (PlanRepository.getById planId) := by
  refine .bind (query_respects ?_) fun _ => scalarOneOrNone_respects _
  intro first second same
  rw [show first.plans = second.plans from congrArg TableView.plans same]

theorem checkQuota_respects (usageType : UsageType) (qty : Int) :
    Respects (sees tenantId drawn) env (QuotaService.checkQuota tenantId usageType qty) := by
  apply Respects.bind getActiveByTenant_respects
  intro subscription
  cases subscription with
  | none => exact .raise _
  | some subscription =>
    apply Respects.bind (.ofExcept _)
    intro _
    apply Respects.bind (getById_respects _)
    intro plan
    cases plan with
    | none => exact .raise _
    | some plan =>
      apply Respects.bind (.ask _)
      intro time
      exact .bind (query_respects fun _ _ same => monthlyUsage_same same _ _) fun _ => .pure _

def Draws (drawn : UUID → Prop) (env : Env) : Prop := ∀ attempt, drawn (env.uuid4 attempt .usageEvent)

theorem recordOnce_respects (draws : Draws drawn env) {call : RecordCall} (own : call.tenantId = tenantId) :
    Respects (sees tenantId drawn) env (MeterService.recordOnce call) := by
  subst own
  have authorized : Respects (sees call.tenantId drawn) env (MeterService.authorize call) := by
    apply Respects.bind (checkQuota_respects _ _)
    intro answer
    obtain ⟨allowed, info⟩ := answer
    dsimp only
    split
    · exact .raise _
    · exact .bind (.ask _) fun _ => .bind (.ofExcept _) fun _ => .pure _
  apply Respects.bind authorized
  intro admitted
  have recorded : Respects (sees call.tenantId drawn) env (UsageRepository.recordUsage call.tenantId call.idempotencyKey
      call.usageType call.qty admitted.2 call.reqIp call.userAgent) := by
    have insertion : Respects (sees call.tenantId drawn) env (statement .insertUsageEvent (Database.insertUsageEvent
        (call.event (env.uuid4 env.attempt .usageEvent) env.transactionStart admitted.2))) :=
      statement_respects fun _ _ same => insertUsageEvent_alike same rfl (draws env.attempt)
    apply Respects.reading
    apply Respects.reading
    apply Respects.bind insertion
    intro inserted
    cases inserted with
    | some event => exact .pure _
    | none => exact .bind (query_respects fun _ _ same => eventsOf_same same rfl) fun _ => scalarOneOrNone_respects _
  apply Respects.bind recorded
  intro event
  cases event with
  | none => exact .raise _
  | some event => exact .pure _

theorem retryAttempts_respects {τ α : Type} {view : Session → τ} {policy : RetryPolicy} {transient : PyError → Bool}
    {sleep : ℚ → Request PUnit} {func : Nat → Request α} (rests : ∀ delay, Respects view env (sleep delay))
    (respects : ∀ attempt, Respects view env (func attempt)) (attempts : List Nat) (lastExc : PyError) :
    Respects view env (retryAttempts policy transient sleep func attempts lastExc) := by
  induction attempts generalizing lastExc with
  | nil => exact .raise _
  | cons attempt rest ih =>
    apply Respects.handle (respects attempt)
    intro exc
    split
    · exact .raise _
    · exact .bind (rests _) fun _ => ih exc

theorem recordUsage_respects (draws : Draws drawn env) {call : MeterCall} (own : call.tenantId = tenantId) :
    Respects (sees tenantId drawn) env (recordUsage call) := by
  have attempts (attempt : Nat) : Draws drawn (env.retry attempt) := draws
  have record : Respects (sees tenantId drawn) env (MeterService.record call.record) :=
    retryAttempts_respects (fun _ => .pure _) (fun attempt => .within (recordOnce_respects (attempts attempt) own)) _ _
  subst own
  apply Respects.bind (cacheGet_respects (ownKey_idempotency call.key))
  intro cached
  cases cached with
  | some cached => exact .ofExcept _
  | none =>
    apply Respects.bind (.handle record fun _ => .raise _)
    intro recorded
    exact .bind (cacheSet_respects _ _ _) fun _ => .pure _

theorem getAllQuotas_respects : Respects (sees tenantId drawn) env (QuotaService.getAllQuotas tenantId) := by
  apply Respects.bind getActiveByTenant_respects
  intro subscription
  cases subscription with
  | none => exact .pure _
  | some subscription =>
    apply Respects.bind (getById_respects _)
    intro plan
    cases plan with
    | none => exact .pure _
    | some plan =>
      apply Respects.bind (.ask _)
      intro time
      exact .bind (query_respects fun _ _ same => monthlyUsageBreakdown_same same _) fun _ => .pure _

theorem getUsage_respects : Respects (sees tenantId drawn) env (getUsage tenantId) := by
  apply Respects.bind (.ask _)
  intro time
  apply Respects.bind (cacheGet_respects (ownKey_usage tenantId time))
  intro cached
  cases cached with
  | some cached => exact .pure _
  | none =>
    apply Respects.bind getAllQuotas_respects
    intro answer
    cases answer with
    | error message => exact .raise _
    | ok quotas =>
      apply Respects.bind (.ask _)
      intro period
      apply Respects.bind (query_respects fun _ _ same => monthlyCost_same same _)
      intro cost
      apply Respects.bind (.within (query_respects fun _ _ same => monthlyUsageBreakdown_same same _))
      intro breakdown
      apply Respects.bind (.ask _)
      intro settings
      apply Respects.bind (.ofExcept _)
      intro report
      exact .bind (cacheSet_respects _ _ _) fun _ => .pure _

theorem getCurrentTenant_respects {credentials : Credentials} (named : UUID.parse? credentials.xTenantId = some tenantId) :
    Respects (sees tenantId drawn) env (getCurrentTenant verifyApiKey credentials) := by
  unfold getCurrentTenant
  rw [named]
  apply Respects.bind (cacheGet_respects (ownKey_tenant tenantId))
  intro cached
  cases cached.filter Json.truthy with
  | some cached => exact .bind (.ofExcept _) fun _ => .bind (.ofExcept _) fun _ => .pure _
  | none =>
    have rows : Respects (sees tenantId drawn) env (query .selectCurrentTenant (·.tenants.select (·.id == tenantId))) := by
      apply query_respects
      intro first second same
      rw [show first.tenants = second.tenants from congrArg TableView.tenants same]
    apply Respects.bind rows
    intro selected
    apply Respects.bind (scalarOneOrNone_respects selected)
    intro row
    cases row with
    | none => exact .raise _
    | some row => exact .bind (.ofExcept _) fun _ => .bind (cacheSet_respects _ _ _) fun _ => .pure _

variable {store final : Store} {incoming : ApiRequest}

def belongs (tenantId : UUID) (incoming : ApiRequest) : Bool :=
  UUID.parse? incoming.credentials.xTenantId == some tenantId

def concerns (tenantId : UUID) : ApiAction → Bool
  | .request incoming => belongs tenantId incoming
  | .evict key => ownKey tenantId key

theorem authenticated_own {α : Type} {credentials : Credentials} (honest : Honest store.redis)
    (named : UUID.parse? credentials.xTenantId = some tenantId) (endpoint : UUID → Request α) :
    serve (authenticated verifyApiKey credentials endpoint) env store =
      serve (do let _ ← getCurrentTenant verifyApiKey credentials; endpoint tenantId) env store := by
  have same : authenticated verifyApiKey credentials endpoint env store.open =
      (do let _ ← getCurrentTenant verifyApiKey credentials; endpoint tenantId : Request α) env store.open := by
    rcases ran : getCurrentTenant verifyApiKey credentials env store.open with ⟨reply, session⟩
    rcases getCurrentTenant_recognizes (by exact honest) named ran with ⟨⟨exc, rfl⟩, _⟩ | ⟨⟨tenant, rfl, bound⟩, _⟩
    · rw [authenticated, bind_error ran, bind_error ran]
    · rw [authenticated, bind_ok ran, bind_ok ran, bind_apply, ofExcept_apply, bound]
  simp only [serve, same]

theorem own_alike (own : belongs tenantId incoming = true) (draws : Draws drawn incoming.env) {first second : Store}
    (left : Honest first.redis) (right : Honest second.redis)
    (same : seesStore tenantId drawn first = seesStore tenantId drawn second) :
    (incoming.serve verifyApiKey first).1 = (incoming.serve verifyApiKey second).1 ∧
      seesStore tenantId drawn (incoming.serve verifyApiKey first).2 =
        seesStore tenantId drawn (incoming.serve verifyApiKey second).2 := by
  have named := eq_of_beq own
  have alike {α : Type} (endpoint : UUID → Request α)
      (respects : Respects (sees tenantId drawn) incoming.env (endpoint tenantId)) :
      (serve (authenticated verifyApiKey incoming.credentials endpoint) incoming.env first).1 =
          (serve (authenticated verifyApiKey incoming.credentials endpoint) incoming.env second).1 ∧
        seesStore tenantId drawn (serve (authenticated verifyApiKey incoming.credentials endpoint) incoming.env first).2 =
          seesStore tenantId drawn (serve (authenticated verifyApiKey incoming.credentials endpoint) incoming.env second).2 := by
    rw [authenticated_own left named, authenticated_own right named]
    exact serve_respects (.bind (getCurrentTenant_respects named) fun _ => respects) same
  unfold ApiRequest.serve
  cases incoming.endpoint with
  | meter idempotencyKey request reqIp userAgent =>
    obtain ⟨answered, seen⟩ := alike (fun tenantId => recordUsage (meterCall idempotencyKey request reqIp userAgent tenantId))
      (recordUsage_respects draws rfl)
    dsimp only
    exact ⟨congrArg ApiReply.meter answered, seen⟩
  | usage =>
    obtain ⟨answered, seen⟩ := alike getUsage getUsage_respects
    dsimp only
    exact ⟨congrArg ApiReply.usage answered, seen⟩

/-- A request of someone else changes nothing that the tenant sees. -/
theorem foreign_unseen (foreign : belongs tenantId incoming = false) (undrawn : ¬ drawn (incoming.env.uuid4 0 .usageEvent))
    (honest : Honest store.redis) :
    seesStore tenantId drawn (incoming.serve verifyApiKey store).2 = seesStore tenantId drawn store := by
  have apart {other : UUID} (named : UUID.parse? incoming.credentials.xTenantId = some other) : other ≠ tenantId := by
    intro same
    rw [belongs, named, same, beq_self_eq_true] at foreign
    cases foreign
  unfold seesStore
  refine Prod.ext ?_ ?_
  · dsimp only
    rcases serve_rows verifyApiKey incoming honest with same | ⟨event, fits, named, id, final⟩
    · rw [same]
    · rw [final, tables_other (apart named) (id ▸ undrawn) fits]
  · funext key
    dsimp only
    unfold ownRedis
    by_cases own : ownKey tenantId key = true
    · rw [if_pos own, if_pos own]
      rcases serve_entry verifyApiKey incoming honest key with same | ⟨entry, _, stores⟩
      · exact same
      · have unowned : ownKey tenantId key = false := by
          cases stores with
          | tenant named member => exact foreign_tenant (apart named)
          | report named => exact foreign_usage (apart named) _
          | @response triple response asked =>
            unfold ApiRequest.key? at asked
            split at asked
            · obtain ⟨other, named, rfl⟩ := Option.map_eq_some_iff.mp asked
              exact foreign_idempotency (apart named) rfl
            · cases asked
        rw [own] at unowned
        cases unowned
    · rw [if_neg own, if_neg own]

theorem evicted_own {first second : Store} (same : seesStore tenantId drawn first = seesStore tenantId drawn second)
    (key : String) : seesStore tenantId drawn { first with redis := Function.update first.redis key none } =
      seesStore tenantId drawn { second with redis := Function.update second.redis key none } := by
  obtain ⟨tables, redis⟩ := Prod.mk.inj same
  unfold seesStore
  rw [ownRedis_update, ownRedis_update, redis]
  exact congrArg (·, _) tables

theorem evicted_foreign {key : String} (foreign : ownKey tenantId key = false) (store : Store) :
    seesStore tenantId drawn { store with redis := Function.update store.redis key none } =
      seesStore tenantId drawn store := by
  unfold seesStore
  rw [ownRedis_update, foreign]
  rfl

/-- The tenant draws from known identifiers, and the others draw none of them. -/
def Separate (tenantId : UUID) (drawn : UUID → Prop) : ApiAction → Prop
  | .request incoming =>
    if belongs tenantId incoming then Draws drawn incoming.env else ¬ drawn (incoming.env.uuid4 0 .usageEvent)
  | .evict _ => True

theorem replies_alike {schedule : List ApiAction} (separate : ∀ action ∈ schedule, Separate tenantId drawn action)
    {first second : Store} (left : Honest first.redis) (right : Honest second.redis)
    (same : seesStore tenantId drawn first = seesStore tenantId drawn second) :
    repliesTo verifyApiKey (belongs tenantId) schedule first =
      repliesTo verifyApiKey (belongs tenantId) (schedule.filter (concerns tenantId)) second := by
  induction schedule generalizing first second with
  | nil => rfl
  | cons action schedule ih =>
    obtain ⟨here, later⟩ := List.forall_mem_cons.mp separate
    cases action with
    | request incoming =>
      cases own : belongs tenantId incoming with
      | true =>
        rw [List.filter_cons_of_pos (show concerns tenantId (.request incoming) = true from own)]
        simp only [Separate, own, if_true] at here
        obtain ⟨answered, seen⟩ := @own_alike verifyApiKey _ _ _ own here _ _ left right same
        simp only [repliesTo, own, if_true, answered]
        rw [ih later (honest_after verifyApiKey incoming left) (honest_after verifyApiKey incoming right) seen]
      | false =>
        rw [List.filter_cons_of_neg (by simp [concerns, own])]
        simp only [Separate, own, Bool.false_eq_true, if_false] at here
        simp only [repliesTo, own, Bool.false_eq_true, if_false]
        exact ih later (honest_after verifyApiKey incoming left) right ((foreign_unseen own here left).trans same)
    | evict key =>
      cases own : ownKey tenantId key with
      | true =>
        rw [List.filter_cons_of_pos (show concerns tenantId (.evict key) = true from own)]
        exact ih later (honest_evict left key) (honest_evict right key) (evicted_own same key)
      | false =>
        rw [List.filter_cons_of_neg (by simp [concerns, own])]
        exact ih later (honest_evict left key) right ((evicted_foreign own first).trans same)

def Fresh (tenantId : UUID) (schedule : List ApiAction) : Prop :=
  ∀ own other, .request own ∈ schedule → .request other ∈ schedule → belongs tenantId own = true →
    belongs tenantId other = false → ∀ attempt, own.env.uuid4 attempt .usageEvent ≠ other.env.uuid4 0 .usageEvent

def Answered (verifyApiKey : String → String → Bool) (schedule : List ApiAction) (store : Store) (key : UsageKey)
    (value : Json) : Prop :=
  ∃ earlier incoming later middle response, schedule = earlier ++ .request incoming :: later ∧
    (api verifyApiKey).run earlier store = some middle ∧ incoming.key? = some key ∧
    (incoming.serve verifyApiKey middle).1 = .meter (.ok response) ∧ value = response.modelDump

theorem honest_invariant : (api verifyApiKey).Invariant (fun _ => True) fun store => Honest store.redis := by
  intro action store next _ honest taken
  cases action with
  | request incoming =>
    obtain rfl := Option.some.inj taken
    exact honest_after verifyApiKey incoming honest
  | evict key =>
    obtain rfl := Option.some.inj taken
    exact honest_evict honest key

/-- What Redis holds for a triple was the answer to a request about it. -/
theorem cached_answered {schedule : List ApiAction} (honest : Honest store.redis)
    (ran : (api verifyApiKey).run schedule store = some final) {key : UsageKey} {entry : CacheEntry}
    (held : final.redis (idempotencyCacheKey key) = some entry) :
    store.redis (idempotencyCacheKey key) = some entry ∨ Answered verifyApiKey schedule store key entry.value := by
  induction schedule using List.reverseRecOn generalizing final with
  | nil =>
    obtain rfl := Option.some.inj ran
    exact Or.inl held
  | append_singleton earlier action ih =>
    rw [Machine.run_append] at ran
    obtain ⟨middle, started, ran⟩ := Option.bind_eq_some_iff.mp ran
    obtain ⟨next, taken, same⟩ := Machine.run_cons_eq_some ran
    obtain rfl := Option.some.inj same
    have kept (before : middle.redis (idempotencyCacheKey key) = some entry) :
        store.redis (idempotencyCacheKey key) = some entry ∨
          Answered verifyApiKey (earlier ++ [action]) store key entry.value := by
      rcases ih started before with initial | ⟨first, incoming, later, state, response, split, rest⟩
      · exact Or.inl initial
      · refine Or.inr ⟨first, incoming, later ++ [action], state, response, ?_, rest⟩
        rw [split, List.append_assoc, List.cons_append]
    cases action with
    | request incoming =>
      obtain rfl := Option.some.inj taken
      have honest := honest_invariant.run (fun _ _ => trivial) honest started
      rcases serve_entry verifyApiKey incoming honest (idempotencyCacheKey key) with same | ⟨stored, found, stores⟩
      · exact kept (same ▸ held)
      · obtain rfl := Option.some.inj (held.symm.trans found)
        generalize place : idempotencyCacheKey key = cacheKey at stores
        cases stores with
        | tenant => exact (idempotencyCacheKey_ne_tenant _ _ place).elim
        | report => exact (idempotencyCacheKey_ne_usage _ _ _ place).elim
        | response asked answered =>
          obtain rfl := idempotencyCacheKey_injective place
          exact Or.inr ⟨earlier, incoming, [], middle, _, rfl, started, asked, answered, rfl⟩
    | evict lost =>
      obtain rfl := Option.some.inj taken
      by_cases same : idempotencyCacheKey key = lost
      · dsimp only at held
        rw [same, Function.update_self] at held
        cases held
      · dsimp only at held
        rw [Function.update_of_ne same] at held
        exact kept held

/-- A tenant is answered as if it were alone, and from the cache only with what answered a
request about the same triple. -/
theorem tenant_isolated (verifyApiKey : String → String → Bool) (tenantId : UUID) {schedule : List ApiAction}
    (honest : Honest store.redis) (fresh : Fresh tenantId schedule) :
    repliesTo verifyApiKey (belongs tenantId) schedule store =
        repliesTo verifyApiKey (belongs tenantId) (schedule.filter (concerns tenantId)) store ∧
      ∀ final, (api verifyApiKey).run schedule store = some final → ∀ key entry,
        final.redis (idempotencyCacheKey key) = some entry →
          store.redis (idempotencyCacheKey key) = some entry ∨ Answered verifyApiKey schedule store key entry.value := by
  refine ⟨?_, fun final ran key entry held => cached_answered honest ran held⟩
  have separate : ∀ action ∈ schedule, Separate tenantId (fun id => ∃ own, .request own ∈ schedule ∧
      belongs tenantId own = true ∧ ∃ attempt, own.env.uuid4 attempt .usageEvent = id) action := by
    intro action member
    cases action with
    | evict key => trivial
    | request incoming =>
      unfold Separate
      dsimp only
      by_cases own : belongs tenantId incoming = true
      · rw [if_pos own]
        exact fun attempt => ⟨incoming, member, own, attempt, rfl⟩
      · rw [if_neg own]
        intro drawn
        obtain ⟨asking, requested, named, attempt, same⟩ := drawn
        exact fresh asking incoming requested member named (Bool.eq_false_iff.mpr own) attempt same
  exact replies_alike separate honest honest rfl

def neighbour : Tenant := { Seed.tenant with id := .ofInt 3 }

def shared : Store where
  database := { Seed.database with
    tenants := ⟨[Seed.tenant, neighbour], by decide⟩
    subscriptions := ⟨[Seed.subscription, { Seed.subscription with id := .ofInt 4, tenantId := neighbour.id }], by decide⟩ }
  redis := fun _ => none

def posting (id : Nat) (tenantId : UUID) : ApiRequest where
  env := Seed.env id
  credentials := ⟨tenantId.str, none⟩
  endpoint := .meter "urn:uuid:00000000-0000-4000-8000-000000000000" (Seed.apiCall "key").request none none

def together : List ApiAction := [.request (posting 20 neighbour.id), .request (posting 21 Seed.tenant.id)]

theorem together_fresh : Fresh Seed.tenant.id together := by
  intro own other requested also named foreign attempt same
  simp only [together, List.mem_cons, ApiAction.request.injEq, List.not_mem_nil, or_false] at requested also
  rcases requested with rfl | rfl
  · exact absurd named (by decide)
  · rcases also with rfl | rfl
    · have distinct : UUID.ofInt 21 ≠ UUID.ofInt 20 := by decide
      exact distinct same
    · exact absurd foreign (by decide)

theorem together_isolated :
    repliesTo (fun _ _ => true) (belongs Seed.tenant.id) together shared =
        repliesTo (fun _ _ => true) (belongs Seed.tenant.id) (together.filter (concerns Seed.tenant.id)) shared ∧
      ∀ final, (api fun _ _ => true).run together shared = some final → ∀ key entry,
        final.redis (idempotencyCacheKey key) = some entry →
          shared.redis (idempotencyCacheKey key) = some entry ∨
            Answered (fun _ _ => true) together shared key entry.value :=
  @tenant_isolated shared (fun _ _ => true) Seed.tenant.id together (fun _ _ held => by cases held) together_fresh

end MeteringBilling.Isolation
