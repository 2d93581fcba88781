import MeteringBilling.Proofs.CacheKeys
import MeteringBilling.Proofs.Endpoint
import MeteringBilling.Proofs.Faults
import MeteringBilling.Proofs.Handlers
import MeteringBilling.Proofs.Reporting

/-! What serving a request behind authentication does, whatever fails: the endpoint runs for the
tenant that the header names, and Redis gains at most the entries of that tenant. -/

namespace MeteringBilling

open Effect

variable {α : Type} {verifyApiKey : String → String → Bool} {credentials : Credentials} {env : Env} {tenantId : UUID}
  {session : Session} {store : Store}

/-- What Redis holds for a tenant was stored by the authentication of that tenant. -/
def Honest (redis : Redis) : Prop :=
  ∀ tenantId entry, redis (tenantCacheKey tenantId) = some entry →
    ∃ row : Tenant, row.id = tenantId ∧ entry.value = row.cacheData

theorem optionalText?_optionalText (value : Option String) : optionalText? (optionalText value) = some value := by
  cases value <;> rfl

theorem tenantOfCache_cacheData (row : Tenant) :
    tenantOfCache row.cacheData = .ok { row.current with id := .text row.id.str, createdAt := none } := by
  simp [tenantOfCache, Tenant.cacheData, Json.get?, List.lookup_cons, Json.str?, optionalText?_optionalText, Tenant.current]

def Env.cachedTenant? (env : Env) (tenantId : UUID) (redis : Redis) : Option Json :=
  if env.redisUp .get (tenantCacheKey tenantId) then (redis (tenantCacheKey tenantId)).map CacheEntry.value else none

def cachedTenant (row : Tenant) (redis : Redis) : Redis :=
  Function.update redis (tenantCacheKey row.id) (some ⟨row.cacheData, tenantCacheTtl⟩)

theorem currentRows_returned {rows : List Tenant} {after : Session}
    (selected : query .selectCurrentTenant (·.tenants.select (·.id == tenantId)) env session = (.ok rows, after)) :
    after = session ∧ rows = (session.working.tenant? tenantId).toList := by
  obtain ⟨working, read, same⟩ := statement_returned selected
  obtain ⟨found, kept⟩ := Prod.mk.inj (Except.ok.inj read)
  exact ⟨by rw [same, ← kept], by rw [← found]; exact selectTenants_eq _ _⟩

/-- Authentication rejects the request and leaves the stores alone, or returns the tenant that
the header names, which it may have cached. -/
def Recognizes (tenantId : UUID) (session after : Session) (reply : Except PyError CurrentTenant) : Prop :=
  (∃ exc, reply = .error exc) ∧ after.saved = session.saved ∨
    (∃ tenant, reply = .ok tenant ∧ tenant.id.bound = .ok tenantId) ∧
      (after = session ∨ ∃ row ∈ session.working.tenants, row.id = tenantId ∧
        after = { session with redis := cachedTenant row session.redis })

theorem cachedTenant?_entry {redis : Redis} {cached : Json} (found : env.cachedTenant? tenantId redis = some cached) :
    ∃ entry, redis (tenantCacheKey tenantId) = some entry ∧ entry.value = cached := by
  unfold Env.cachedTenant? at found
  split at found
  · exact Option.map_eq_some_iff.mp found
  · cases found

theorem tenantOfCache_held {cached : Json} (honest : Honest session.redis)
    (found : env.cachedTenant? tenantId session.redis = some cached) :
    ∃ tenant, tenantOfCache cached = .ok tenant ∧ tenant.id.bound = .ok tenantId := by
  obtain ⟨entry, stored, rfl⟩ := cachedTenant?_entry found
  obtain ⟨row, rfl, same⟩ := honest tenantId entry stored
  rw [same, tenantOfCache_cacheData]
  refine ⟨_, rfl, ?_⟩
  simp only [TenantId.bound, UUID.parse?_str]

theorem cacheSet_apply (row : Tenant) (env : Env) (session : Session) :
    cacheSet (tenantCacheKey row.id) row.cacheData tenantCacheTtl env session = (.ok (),
      if env.redisUp .set (tenantCacheKey row.id) then { session with redis := cachedTenant row session.redis }
      else session) := rfl

/-- Authentication rejects the request, returns a tenant from the cache, or the stored one, which
it may cache. -/
theorem getCurrentTenant_cases (named : UUID.parse? credentials.xTenantId = some tenantId)
    {reply : Except PyError CurrentTenant} {after : Session}
    (ran : getCurrentTenant verifyApiKey credentials env session = (reply, after)) :
    (∃ exc, reply = .error exc) ∧ after.saved = session.saved ∨
      (∃ cached tenant, (env.cachedTenant? tenantId session.redis).filter Json.truthy = some cached ∧
        tenantOfCache cached = .ok tenant ∧ checkApiKey verifyApiKey credentials.xApiKey tenant.apiKeyHash = .ok () ∧
        reply = .ok tenant ∧ after = session) ∨
      ∃ row, session.working.tenant? tenantId = some row ∧ reply = .ok row.current ∧
        (after = session ∨ after = { session with redis := cachedTenant row session.redis }) := by
  unfold getCurrentTenant at ran
  rw [named] at ran
  dsimp only at ran
  have looked : cacheGet (tenantCacheKey tenantId) env session =
    (.ok (env.cachedTenant? tenantId session.redis), session) := rfl
  rw [bind_ok looked] at ran
  cases hit : (env.cachedTenant? tenantId session.redis).filter Json.truthy with
  | some cached =>
    rw [hit] at ran
    rcases ofExcept_bind_cases ran with ⟨raised, rfl⟩ | ⟨tenant, built, ran⟩
    · exact Or.inl ⟨raised, rfl⟩
    · rcases ofExcept_bind_cases ran with ⟨raised, rfl⟩ | ⟨_, checked, ran⟩
      · exact Or.inl ⟨raised, rfl⟩
      · obtain ⟨rfl, rfl⟩ := Prod.mk.inj ran
        exact Or.inr (Or.inl ⟨cached, tenant, rfl, built, checked, rfl, rfl⟩)
  | none =>
    rw [hit] at ran
    dsimp only at ran
    rw [bind_apply] at ran
    have kept := @query_keeps _ _ Session.saved (fun _ _ _ => rfl) .selectCurrentTenant
      (fun database => database.tenants.select (·.id == tenantId)) env session
    rcases selected : query .selectCurrentTenant (fun database => database.tenants.select (·.id == tenantId)) env session with
      ⟨exc | rows, middle⟩
    · rw [selected] at ran kept
      obtain ⟨rfl, rfl⟩ := Prod.mk.inj ran
      exact Or.inl ⟨⟨exc, rfl⟩, kept⟩
    · obtain ⟨same, rfl⟩ := currentRows_returned selected
      rw [selected] at ran
      dsimp only at ran
      rw [same, bind_ok (scalarOneOrNone_toList _)] at ran
      cases found : session.working.tenant? tenantId with
      | none =>
        rw [found] at ran
        obtain ⟨rfl, rfl⟩ := Prod.mk.inj ran
        exact Or.inl ⟨⟨_, rfl⟩, rfl⟩
      | some row =>
        rw [found] at ran
        obtain rfl := eq_of_beq (Table.find?_mem found).2
        rcases ofExcept_bind_cases ran with ⟨raised, rfl⟩ | ⟨_, _, ran⟩
        · exact Or.inl ⟨raised, rfl⟩
        · rw [bind_ok (cacheSet_apply row env session)] at ran
          obtain ⟨rfl, rfl⟩ := Prod.mk.inj ran
          refine Or.inr (Or.inr ⟨row, rfl, rfl, ?_⟩)
          split
          · exact Or.inr rfl
          · exact Or.inl rfl

theorem getCurrentTenant_recognizes (honest : Honest session.redis)
    (named : UUID.parse? credentials.xTenantId = some tenantId) {reply : Except PyError CurrentTenant} {after : Session}
    (ran : getCurrentTenant verifyApiKey credentials env session = (reply, after)) :
    Recognizes tenantId session after reply := by
  rcases getCurrentTenant_cases named ran with rejected | ⟨cached, tenant, hit, built, _, rfl, same⟩ | ⟨row, found, rfl, kept⟩
  · exact Or.inl rejected
  · obtain ⟨other, also, bound⟩ := tenantOfCache_held honest (Option.filter_eq_some_iff.mp hit).1
    obtain rfl := Except.ok.inj (built.symm.trans also)
    exact Or.inr ⟨⟨tenant, rfl, bound⟩, Or.inl same⟩
  · obtain ⟨member, own⟩ := Table.find?_mem found
    obtain rfl := eq_of_beq own
    exact Or.inr ⟨⟨_, rfl, rfl⟩, kept.imp_right fun same => ⟨row, member, rfl, same⟩⟩

/-- What authentication may do to Redis. -/
def Authenticates (tenantId : UUID) (store : Store) (redis : Redis) : Prop :=
  redis = store.redis ∨ ∃ row ∈ store.database.tenants, row.id = tenantId ∧ redis = cachedTenant row store.redis

theorem accepted_serve (honest : Honest store.redis) (named : UUID.parse? credentials.xTenantId = some tenantId)
    {tenant : CurrentTenant}
    (accepted : getCurrentTenant verifyApiKey credentials env store.open = (.ok tenant, session))
    (endpoint : UUID → Request α) :
    Authenticates tenantId store session.redis ∧ serve (authenticated verifyApiKey credentials endpoint) env store =
      serve (endpoint tenantId) env ⟨store.database, session.redis⟩ := by
  rcases getCurrentTenant_recognizes (by exact honest) named accepted with ⟨⟨_, raised⟩, _⟩ | ⟨⟨_, same, bound⟩, after⟩
  · cases raised
  · obtain rfl := Except.ok.inj same
    have opened : (⟨store.database, session.redis⟩ : Store).open = session := by
      rcases after with rfl | ⟨_, _, _, rfl⟩ <;> rfl
    have continued : authenticated verifyApiKey credentials endpoint env store.open = endpoint tenantId env session := by
      rw [authenticated, bind_ok accepted, bind_apply, ofExcept_apply, bound]
    refine ⟨?_, by simp only [serve, continued, opened]⟩
    rcases after with rfl | ⟨row, member, own, rfl⟩
    · exact Or.inl rfl
    · exact Or.inr ⟨row, member, own, rfl⟩

/-- A request is rejected and leaves the stores alone, or its endpoint is served for the tenant
that the header names. -/
theorem authenticated_serve (verifyApiKey : String → String → Bool) (credentials : Credentials) (env : Env)
    (honest : Honest store.redis) (endpoint : UUID → Request α) :
    (∃ exc, serve (authenticated verifyApiKey credentials endpoint) env store = (.error exc, store)) ∨
      ∃ tenantId redis, UUID.parse? credentials.xTenantId = some tenantId ∧ Authenticates tenantId store redis ∧
        serve (authenticated verifyApiKey credentials endpoint) env store =
          serve (endpoint tenantId) env ⟨store.database, redis⟩ := by
  have rejected {exc : PyError} {session : Session}
      (raised : getCurrentTenant verifyApiKey credentials env store.open = (.error exc, session))
      (kept : session.saved = store.open.saved) :
      serve (authenticated verifyApiKey credentials endpoint) env store = (.error exc, store) := by
    obtain ⟨committed, redis⟩ := Prod.mk.inj kept
    rw [authenticated, serve_error (bind_error raised) committed, redis]
    rfl
  cases named : UUID.parse? credentials.xTenantId with
  | none =>
    have raised : getCurrentTenant verifyApiKey credentials env store.open =
        (.error (unauthorized "Invalid X-Tenant-ID format"), store.open) := by
      rw [getCurrentTenant, named]
      rfl
    exact Or.inl ⟨_, rejected raised rfl⟩
  | some tenantId =>
    rcases ran : getCurrentTenant verifyApiKey credentials env store.open with ⟨exc | tenant, session⟩
    · rcases getCurrentTenant_recognizes (by exact honest) named ran with ⟨_, kept⟩ | ⟨⟨_, returned, _⟩, _⟩
      · exact Or.inl ⟨exc, rejected ran kept⟩
      · cases returned
    · obtain ⟨authenticates, served⟩ := accepted_serve honest named ran endpoint
      exact Or.inr ⟨tenantId, session.redis, rfl, authenticates, served⟩

theorem metered_redis (call : MeterCall) (env : Env) (store : Store) :
    (serve (recordUsage call) env store).2.redis = store.redis ∨
      ∃ response, (serve (recordUsage call) env store).1 = .ok response ∧
        (serve (recordUsage call) env store).2.redis = call.stored env store.redis response := by
  rcases ran : recordUsage call env store.open with ⟨reply, session⟩
  obtain ⟨answered, _⟩ := serve_database ran
  rw [answered, serve_redis ran]
  rcases recordUsage_cases ran with rfl | ⟨saved, _⟩ | ⟨_, _, _, response, _, rfl, rfl⟩
  · exact Or.inl rfl
  · exact Or.inl (Prod.mk.inj saved).2
  · exact Or.inr ⟨response, rfl, rfl⟩

theorem reported_cases (tenantId : UUID) (env : Env) (store : Store) :
    (serve (getUsage tenantId) env store).2.database = store.database ∧
      ((serve (getUsage tenantId) env store).2.redis = store.redis ∨
        ∃ report, store.database.usageReport env tenantId = .ok report ∧
          (serve (getUsage tenantId) env store).2.redis = env.reported tenantId report store.redis) := by
  rcases ran : getUsage tenantId env store.open with ⟨reply, session⟩
  obtain ⟨_, kept⟩ := serve_database ran
  rw [serve_redis ran]
  have outcome : session.committed = store.database ∧ session.working = store.database ∧
      (session.redis = store.redis ∨ ∃ report, store.database.usageReport env tenantId = .ok report ∧
        session.redis = env.reported tenantId report store.redis) := by
    cases reply with
    | error exc =>
      obtain ⟨committed, rest⟩ := Prod.mk.inj (getUsage_spares tenantId _ _ _ _ ran)
      obtain ⟨working, redis⟩ := Prod.mk.inj rest
      exact ⟨committed, working, Or.inl redis⟩
    | ok answer =>
      have returned := getUsage_returned rfl ran
      cases answer with
      | response report =>
        obtain ⟨computed, rfl⟩ := returned
        exact ⟨rfl, rfl, Or.inr ⟨report, computed, rfl⟩⟩
      | cached content =>
        obtain ⟨_, rfl⟩ := returned
        exact ⟨rfl, rfl, Or.inl rfl⟩
  obtain ⟨committed, working, redis⟩ := outcome
  refine ⟨?_, redis⟩
  rcases kept with same | ⟨_, same⟩
  · exact same.trans committed
  · exact same.trans working

def Endpoint.serve (endpoint : Endpoint) (env : Env) (tenantId : UUID) (store : Store) : ApiReply × Store :=
  match endpoint with
  | .meter idempotencyKey request reqIp userAgent =>
    let (reply, after) :=
      MeteringBilling.serve (recordUsage (meterCall idempotencyKey request reqIp userAgent tenantId)) env store
    (.meter reply, after)
  | .usage =>
    let (reply, after) := MeteringBilling.serve (getUsage tenantId) env store
    (.usage reply, after)

theorem serve_cases (verifyApiKey : String → String → Bool) (incoming : ApiRequest) (honest : Honest store.redis) :
    (incoming.serve verifyApiKey store).2 = store ∨
      ∃ tenantId redis, UUID.parse? incoming.credentials.xTenantId = some tenantId ∧ Authenticates tenantId store redis ∧
        incoming.serve verifyApiKey store = incoming.endpoint.serve incoming.env tenantId ⟨store.database, redis⟩ := by
  unfold ApiRequest.serve
  cases incoming.endpoint with
  | meter idempotencyKey request reqIp userAgent =>
    rcases authenticated_serve verifyApiKey incoming.credentials incoming.env honest
      (fun tenantId => recordUsage (meterCall idempotencyKey request reqIp userAgent tenantId)) with
      ⟨exc, rejected⟩ | ⟨tenantId, redis, named, authenticates, served⟩
    · exact Or.inl (by dsimp only; rw [rejected])
    · exact Or.inr ⟨tenantId, redis, named, authenticates, by dsimp only; rw [served]; rfl⟩
  | usage =>
    rcases authenticated_serve verifyApiKey incoming.credentials incoming.env honest getUsage with
      ⟨exc, rejected⟩ | ⟨tenantId, redis, named, authenticates, served⟩
    · exact Or.inl (by dsimp only; rw [rejected])
    · exact Or.inr ⟨tenantId, redis, named, authenticates, by dsimp only; rw [served]; rfl⟩

/-- A request adds at most one event, of the tenant it names, under the identifier it draws first. -/
theorem serve_rows (verifyApiKey : String → String → Bool) (incoming : ApiRequest) (honest : Honest store.redis) :
    (incoming.serve verifyApiKey store).2.database = store.database ∨
      ∃ event, ∃ fits : store.database.usageEvents.Fits event,
        UUID.parse? incoming.credentials.xTenantId = some event.tenantId ∧ event.id = incoming.env.uuid4 0 .usageEvent ∧
          (incoming.serve verifyApiKey store).2.database =
            { store.database with usageEvents := store.database.usageEvents.add event fits } := by
  rcases serve_cases verifyApiKey incoming honest with same | ⟨tenantId, redis, named, _, served⟩
  · rw [same]
    exact Or.inl rfl
  · rw [served]
    unfold Endpoint.serve
    cases incoming.endpoint with
    | meter idempotencyKey request reqIp userAgent =>
      rcases metered_rows (meterCall idempotencyKey request reqIp userAgent tenantId) incoming.env
        ⟨store.database, redis⟩ with same | ⟨cost, inserts, final⟩
      · exact Or.inl same
      · exact Or.inr ⟨_, inserts.fits, named, rfl, final⟩
    | usage => exact Or.inl (reported_cases tenantId incoming.env ⟨store.database, redis⟩).1

def ApiRequest.key? (incoming : ApiRequest) : Option UsageKey :=
  match incoming.endpoint with
  | .meter idempotencyKey request _ _ =>
    (UUID.parse? incoming.credentials.xTenantId).map fun tenantId => ⟨tenantId, idempotencyKey, request.usageType⟩
  | .usage => none

inductive Stores (verifyApiKey : String → String → Bool) (incoming : ApiRequest) (store : Store) :
    String → CacheEntry → Prop where
  | tenant {row : Tenant} (named : UUID.parse? incoming.credentials.xTenantId = some row.id)
      (member : row ∈ store.database.tenants) :
    Stores verifyApiKey incoming store (tenantCacheKey row.id) ⟨row.cacheData, tenantCacheTtl⟩
  | report {tenantId : UUID} {report : UsageResponse} (named : UUID.parse? incoming.credentials.xTenantId = some tenantId)
      (asked : incoming.endpoint = .usage) (computed : store.database.usageReport incoming.env tenantId = .ok report) :
    Stores verifyApiKey incoming store (incoming.env.usageKey tenantId) ⟨report.modelDump, usageCacheTtl⟩
  | response {key : UsageKey} {response : MeterResponse} (asked : incoming.key? = some key)
      (answered : (incoming.serve verifyApiKey store).1 = .meter (.ok response)) :
    Stores verifyApiKey incoming store (idempotencyCacheKey key) ⟨response.modelDump, idempotencyTtlSeconds⟩

theorem update_cases (redis : Redis) (key : String) (entry : CacheEntry) (other : String) :
    Function.update redis key (some entry) other = redis other ∨
      other = key ∧ Function.update redis key (some entry) other = some entry := by
  by_cases same : other = key
  · exact Or.inr ⟨same, by rw [same, Function.update_self]⟩
  · exact Or.inl (Function.update_of_ne same ..)

/-- A request leaves a key of Redis as it was, or stores an entry of its own tenant under it. -/
theorem serve_entry (verifyApiKey : String → String → Bool) (incoming : ApiRequest) (honest : Honest store.redis)
    (key : String) : (incoming.serve verifyApiKey store).2.redis key = store.redis key ∨
      ∃ entry, (incoming.serve verifyApiKey store).2.redis key = some entry ∧ Stores verifyApiKey incoming store key entry := by
  rcases serve_cases verifyApiKey incoming honest with same | ⟨tenantId, redis, named, authenticates, served⟩
  · rw [same]
    exact Or.inl rfl
  · have before : redis key = store.redis key ∨
        ∃ entry, redis key = some entry ∧ Stores verifyApiKey incoming store key entry := by
      rcases authenticates with rfl | ⟨row, member, rfl, rfl⟩
      · exact Or.inl rfl
      · rcases update_cases store.redis (tenantCacheKey row.id) ⟨row.cacheData, tenantCacheTtl⟩ key with same | ⟨rfl, same⟩
        · exact Or.inl same
        · exact Or.inr ⟨_, same, .tenant named member⟩
    cases asked : incoming.endpoint with
    | meter idempotencyKey request reqIp userAgent =>
      rw [asked] at served
      rcases metered_redis (meterCall idempotencyKey request reqIp userAgent tenantId) incoming.env
        ⟨store.database, redis⟩ with same | ⟨response, answered, stored⟩
      · rw [served]
        exact same ▸ before
      · have triple : incoming.key? = some (meterCall idempotencyKey request reqIp userAgent tenantId).key := by
          rw [ApiRequest.key?, asked, named]
          rfl
        have replied : (incoming.serve verifyApiKey store).1 = .meter (.ok response) := by
          rw [served]
          exact congrArg ApiReply.meter answered
        have final : (incoming.serve verifyApiKey store).2.redis = _ := (congrArg (fun result => result.2.redis) served).trans stored
        rw [final, MeterCall.stored]
        split
        · rcases update_cases redis (idempotencyCacheKey (meterCall idempotencyKey request reqIp userAgent tenantId).key)
            ⟨response.modelDump, idempotencyTtlSeconds⟩ key with same | ⟨rfl, same⟩
          · exact same ▸ before
          · exact Or.inr ⟨_, same, .response triple replied⟩
        · exact before
    | usage =>
      rw [asked] at served
      obtain ⟨_, kept⟩ := reported_cases tenantId incoming.env ⟨store.database, redis⟩
      rcases kept with same | ⟨report, computed, stored⟩
      · rw [served]
        exact same ▸ before
      · have final : (incoming.serve verifyApiKey store).2.redis = _ := (congrArg (fun result => result.2.redis) served).trans stored
        rw [final, Env.reported]
        split
        · rcases update_cases redis (incoming.env.usageKey tenantId) ⟨report.modelDump, usageCacheTtl⟩ key with
            same | ⟨rfl, same⟩
          · exact same ▸ before
          · exact Or.inr ⟨_, same, .report named asked computed⟩
        · exact before

theorem honest_after (verifyApiKey : String → String → Bool) (incoming : ApiRequest) (honest : Honest store.redis) :
    Honest (incoming.serve verifyApiKey store).2.redis := by
  intro tenantId entry held
  rcases serve_entry verifyApiKey incoming honest (tenantCacheKey tenantId) with same | ⟨stored, found, stores⟩
  · exact honest tenantId entry (same ▸ held)
  · obtain rfl := Option.some.inj (held.symm.trans found)
    generalize place : tenantCacheKey tenantId = key at stores
    cases stores with
    | tenant named member => exact ⟨_, tenantCacheKey_injective place.symm, rfl⟩
    | report => exact (usageCacheKey_ne_tenant _ _ _ place.symm).elim
    | response => exact (idempotencyCacheKey_ne_tenant _ _ place.symm).elim

theorem honest_evict (honest : Honest store.redis) (key : String) : Honest (Function.update store.redis key none) := by
  intro tenantId entry held
  by_cases same : tenantCacheKey tenantId = key
  · rw [same, Function.update_self] at held
    cases held
  · rw [Function.update_of_ne same] at held
    exact honest tenantId entry held

end MeteringBilling
