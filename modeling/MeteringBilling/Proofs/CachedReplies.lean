import MeteringBilling.Library.History
import MeteringBilling.Proofs.Freshness

/-! What a reply from Redis is worth: a report is one of the last half minute, and a metering reply
is the one given before, word for word, for as long as a day. -/

namespace MeteringBilling.CachedReplies

open Effect Freshness Permanence StripeCustomer

variable {verifyApiKey : String → String → Bool} {verify : List UInt8 → String → Except PyError StripeEvent}
  {start middle final : ServiceState} {schedule : List ServiceAction} {key : String} {entry : CacheEntry} {tenantId : UUID}

def Reports (database : Database) (env : Env) (tenantId : UUID) (body : Json) : Prop :=
  ∃ report, database.usageReport env tenantId = .ok report ∧ body = report.modelDump

variable (verifyApiKey verify) in
/-- A run serves the request in a state, less than so many seconds before its end. -/
def ServedWithin (seconds : Nat) (schedule : List ServiceAction) (start : ServiceState) (earlier : ApiRequest)
    (middle : ServiceState) : Prop :=
  ∃ before rest, schedule = before ++ .request (.api earlier) :: rest ∧
    (service verifyApiKey verify).run before start = some middle ∧ (caching verifyApiKey verify).elapsed rest < seconds

theorem stored_of_held (empty : ∀ key, start.store.redis key = none)
    (ran : (service verifyApiKey verify).run schedule start = some final) (reply : OfReply key)
    (found : final.store.redis key = some entry) :
    ∃ earlier middle seconds, ServedWithin verifyApiKey verify seconds schedule start earlier middle ∧
      replyKey? earlier = some key ∧ Misses earlier middle.store.redis key ∧
      Stores verifyApiKey earlier middle.store key ⟨entry.value, seconds⟩ := by
  have timed := timed_stays.run (fun _ _ => trivial) (Timed.initial empty) ran
  have positive := timed.positive key entry found
  rcases (caching verifyApiKey verify).held_stored (Timed.initial empty) ran (held_eq_some.mpr found) with
    before | ⟨before, action, rest, middle, split, reached, call, rfl, leaves, fresh⟩
  · cases (empty key).symm.trans (held_eq_some.mp before)
  · obtain ⟨earlier, rfl, looks, stores⟩ := leaves_looks leaves reply
    refine ⟨earlier, middle, _, ⟨before, rest, split, reached, Nat.lt_add_of_pos_left positive⟩, looks, ?_, stores⟩
    by_contra hit
    exact fresh ⟨earlier, rfl, looks, hit⟩

/-- The report that a request gets is the one of the tables as they are, or as they were when the same
tenant asked for the same month less than half a minute ago. -/
theorem report_recent (empty : ∀ key, start.store.redis key = none)
    (ran : (service verifyApiKey verify).run schedule start = some final) {incoming : ApiRequest} {reply : UsageReply}
    (asked : incoming.endpoint = .usage) (named : UUID.parse? incoming.credentials.xTenantId = some tenantId)
    (answered : (incoming.serve verifyApiKey final.store).1 = .usage (.ok reply)) :
    Reports final.store.database incoming.env tenantId reply.body ∨
      ∃ earlier middle, ServedWithin verifyApiKey verify usageCacheTtl schedule start earlier middle ∧
        earlier.endpoint = .usage ∧ UUID.parse? earlier.credentials.xTenantId = some tenantId ∧
        earlier.env.usageKey tenantId = incoming.env.usageKey tenantId ∧
        Reports middle.store.database earlier.env tenantId reply.body := by
  have timed := timed_stays.run (fun _ _ => trivial) (Timed.initial empty) ran
  have served : (serve (authenticated verifyApiKey incoming.credentials getUsage) incoming.env final.store).1 = .ok reply := by
    rw [ApiRequest.serve, asked] at answered
    exact ApiReply.usage.inj answered
  rcases authenticated_serve verifyApiKey incoming.credentials incoming.env timed.honest getUsage with
    ⟨exc, rejected⟩ | ⟨other, redis, same, authenticates, behind⟩
  · rw [rejected] at served
    cases served
  · obtain rfl := Option.some.inj (named.symm.trans same)
    rw [behind] at served
    rcases computed : getUsage tenantId incoming.env (Store.open ⟨final.store.database, redis⟩) with ⟨outcome, session⟩
    obtain ⟨same, _⟩ := serve_database computed
    obtain rfl := served.symm.trans same
    have returned := getUsage_returned rfl computed
    cases reply with
    | response report => exact Or.inl ⟨report, returned.1, rfl⟩
    | cached content =>
      obtain ⟨hit, _⟩ := returned
      have reply : OfReply (incoming.env.usageKey tenantId) := Or.inr ⟨tenantId, _, rfl⟩
      unfold Env.cachedReport? at hit
      split at hit
      · obtain ⟨entry, held, rfl⟩ := Option.map_eq_some_iff.mp hit
        have found := (authenticates_reply authenticates reply).symm.trans held
        obtain ⟨earlier, middle, seconds, within, _, _, stores⟩ := stored_of_held empty ran reply found
        generalize place : incoming.env.usageKey tenantId = key at stores
        obtain ⟨value, ttl⟩ := entry
        dsimp only at stores
        cases stores with
        | tenant own member => exact (usageCacheKey_ne_tenant _ _ _ place).elim
        | response looks replied => exact (idempotencyCacheKey_ne_usage _ _ _ place.symm).elim
        | report own endpoint reported =>
          obtain rfl := VisibleChanges.usageCacheKey_tenant place
          exact Or.inr ⟨earlier, middle, within, endpoint, own, rfl, _, reported, rfl⟩
      · cases hit

def asking (id : Nat) (endpoint : Endpoint) : ApiRequest := ⟨Seed.env id, ⟨Seed.tenant.id.str, none⟩, endpoint⟩

def posting (id : Nat) : ApiRequest := asking id (.meter "key" (Seed.apiCall "key").request none none)

def browsing : List ServiceAction :=
  [.request (.api (asking 20 .usage)), .request (.api (posting 21)), .elapse 10]

def browsed : ServiceState := ((service unchecked unsigned).run browsing ⟨Seed.store, []⟩).get rfl

def unused : UsageResponse := (Seed.database.usageReport (Seed.env 20) Seed.tenant.id).toOption.get (by decide)

theorem browsed_recent : (browsed.store.database.usageReport (Seed.env 22) Seed.tenant.id).toOption.map (·.apiCalls.used) = some 1 ∧
    unused.apiCalls.used = 0 ∧
    (Reports browsed.store.database (Seed.env 22) Seed.tenant.id unused.modelDump ∨
      ∃ earlier middle, ServedWithin unchecked unsigned usageCacheTtl browsing ⟨Seed.store, []⟩ earlier middle ∧
        earlier.endpoint = .usage ∧ UUID.parse? earlier.credentials.xTenantId = some Seed.tenant.id ∧
        earlier.env.usageKey Seed.tenant.id = (Seed.env 22).usageKey Seed.tenant.id ∧
        Reports middle.store.database earlier.env Seed.tenant.id unused.modelDump) := by
  have ran : (service unchecked unsigned).run browsing ⟨Seed.store, []⟩ = some browsed := (Option.some_get _).symm
  have answered : ((asking 22 .usage).serve unchecked browsed.store).1 = .usage (.ok (.cached unused.modelDump)) := by
    decide +kernel
  exact ⟨by decide +kernel, by decide +kernel, @report_recent unchecked unsigned ⟨Seed.store, []⟩ browsed browsing Seed.tenant.id
    (fun _ => rfl) ran (asking 22 .usage) (.cached unused.modelDump) rfl (by decide) answered⟩

theorem key?_meter {incoming : ApiRequest} {triple : UsageKey} (asked : incoming.key? = some triple) :
    ∃ idempotencyKey request reqIp userAgent, incoming.endpoint = .meter idempotencyKey request reqIp userAgent ∧
      UUID.parse? incoming.credentials.xTenantId = some triple.tenantId ∧
      (meterCall idempotencyKey request reqIp userAgent triple.tenantId).key = triple := by
  unfold ApiRequest.key? at asked
  cases endpoint : incoming.endpoint with
  | usage =>
    rw [endpoint] at asked
    cases asked
  | meter idempotencyKey request reqIp userAgent =>
    rw [endpoint] at asked
    obtain ⟨tenantId, named, rfl⟩ := Option.map_eq_some_iff.mp asked
    exact ⟨idempotencyKey, request, reqIp, userAgent, rfl, named, rfl⟩

/-- Behind an accepted authentication, a metering request that finds a response answers with it and leaves
the tables. -/
theorem replayed {incoming : ApiRequest} {triple : UsageKey} {tenant : CurrentTenant} {session : Session} {store : Store}
    {response : MeterResponse} (honest : Honest store.redis) (asked : incoming.key? = some triple)
    (accepted : getCurrentTenant verifyApiKey incoming.credentials incoming.env store.open = (.ok tenant, session))
    (up : incoming.env.redisUp .get (idempotencyCacheKey triple) = true)
    (found : store.redis (idempotencyCacheKey triple) = some entry) (stored : entry.value = response.modelDump) :
    (incoming.serve verifyApiKey store).1 = .meter (.ok response) ∧
      (incoming.serve verifyApiKey store).2.database = store.database := by
  obtain ⟨idempotencyKey, request, reqIp, userAgent, endpoint, named, own⟩ := key?_meter asked
  obtain ⟨authenticates, served⟩ := accepted_serve honest named accepted fun tenantId =>
    recordUsage (meterCall idempotencyKey request reqIp userAgent tenantId)
  have kept := authenticates_reply authenticates (Or.inl ⟨triple, rfl⟩ : OfReply (idempotencyCacheKey triple))
  have hit : (meterCall idempotencyKey request reqIp userAgent triple.tenantId).cached? incoming.env session.redis =
      some response.modelDump := by
    rw [MeterCall.cached?, own, if_pos up, kept, found, Option.map_some, stored]
  have replies := served.trans (@recordUsage_found ⟨store.database, session.redis⟩ incoming.env _ _ hit)
  rw [cachedToResponse_modelDump] at replies
  rw [ApiRequest.serve, endpoint]
  dsimp only
  rw [replies]
  exact ⟨rfl, rfl⟩

theorem accepted_of_response {incoming : ApiRequest} {triple : UsageKey} {store : Store} {response : MeterResponse}
    (asked : incoming.key? = some triple) (answered : (incoming.serve verifyApiKey store).1 = .meter (.ok response)) :
    ∃ tenant session, getCurrentTenant verifyApiKey incoming.credentials incoming.env store.open = (.ok tenant, session) := by
  obtain ⟨idempotencyKey, request, reqIp, userAgent, endpoint, _⟩ := key?_meter asked
  rcases ran : getCurrentTenant verifyApiKey incoming.credentials incoming.env store.open with ⟨exc | tenant, session⟩
  · have rejected : authenticated verifyApiKey incoming.credentials
        (fun tenantId => recordUsage (meterCall idempotencyKey request reqIp userAgent tenantId)) incoming.env store.open =
          (.error exc, session) := bind_error ran
    rw [ApiRequest.serve, endpoint] at answered
    dsimp only at answered
    rw [(serve_database rejected).1] at answered
    cases ApiReply.meter.inj answered
  · exact ⟨tenant, session, rfl⟩

theorem stored_response {earlier : ApiRequest} {store : Store} {triple : UsageKey}
    (stores : Stores verifyApiKey earlier store (idempotencyCacheKey triple) entry) :
    ∃ response : MeterResponse, entry = ⟨response.modelDump, idempotencyTtlSeconds⟩ ∧ earlier.key? = some triple ∧
      (earlier.serve verifyApiKey store).1 = .meter (.ok response) := by
  generalize place : idempotencyCacheKey triple = key at stores
  cases stores with
  | tenant own member => exact (idempotencyCacheKey_ne_tenant _ _ place).elim
  | report own endpoint reported => exact (idempotencyCacheKey_ne_usage _ _ _ place).elim
  | response looks answered =>
    obtain rfl := idempotencyCacheKey_injective place
    exact ⟨_, rfl, looks, answered⟩

/-- A response that Redis holds under a key was computed for a request under that key. -/
theorem response_given (empty : ∀ key, start.store.redis key = none)
    (ran : (service verifyApiKey verify).run schedule start = some final) {triple : UsageKey}
    (found : final.store.redis (idempotencyCacheKey triple) = some entry) :
    ∃ earlier middle, ∃ response : MeterResponse,
      ServedWithin verifyApiKey verify idempotencyTtlSeconds schedule start earlier middle ∧
        earlier.key? = some triple ∧ Misses earlier middle.store.redis (idempotencyCacheKey triple) ∧
        (earlier.serve verifyApiKey middle.store).1 = .meter (.ok response) ∧ entry.value = response.modelDump := by
  obtain ⟨earlier, middle, seconds, within, _, misses, stores⟩ := stored_of_held empty ran (Or.inl ⟨triple, rfl⟩) found
  obtain ⟨response, same, looks, replied⟩ := stored_response stores
  obtain ⟨value, rfl⟩ := CacheEntry.mk.inj same
  exact ⟨earlier, middle, response, within, looks, misses, replied, value⟩

theorem answered_held {incoming : ApiRequest} {triple : UsageKey} {store : Store} {response held : MeterResponse}
    (honest : Honest store.redis) (asked : incoming.key? = some triple)
    (answered : (incoming.serve verifyApiKey store).1 = .meter (.ok response))
    (up : incoming.env.redisUp .get (idempotencyCacheKey triple) = true)
    (found : store.redis (idempotencyCacheKey triple) = some entry) (stored : entry.value = held.modelDump) :
    response = held := by
  obtain ⟨tenant, session, accepted⟩ := accepted_of_response asked answered
  obtain ⟨again, _⟩ := replayed honest asked accepted up found stored
  exact Except.ok.inj (ApiReply.meter.inj (answered.symm.trans again))

/-- A metering reply that is found in Redis is, word for word, one that the same tenant got for the same key
and usage type less than a day ago, and which had not been found there. -/
theorem replay_recent (empty : ∀ key, start.store.redis key = none)
    (ran : (service verifyApiKey verify).run schedule start = some final) {incoming : ApiRequest} {triple : UsageKey}
    {response : MeterResponse} (asked : incoming.key? = some triple)
    (hit : ¬ Misses incoming final.store.redis (idempotencyCacheKey triple))
    (answered : (incoming.serve verifyApiKey final.store).1 = .meter (.ok response)) :
    ∃ earlier middle, ServedWithin verifyApiKey verify idempotencyTtlSeconds schedule start earlier middle ∧
      earlier.key? = some triple ∧ Misses earlier middle.store.redis (idempotencyCacheKey triple) ∧
      (earlier.serve verifyApiKey middle.store).1 = .meter (.ok response) := by
  have timed := timed_stays.run (fun _ _ => trivial) (Timed.initial empty) ran
  obtain ⟨up, entry, found⟩ := found_of_hit hit
  obtain ⟨earlier, middle, held, within, looks, misses, replied, stored⟩ := response_given empty ran found
  obtain rfl := answered_held timed.honest asked answered up found stored
  exact ⟨earlier, middle, within, looks, misses, replied⟩

def triple : UsageKey := ⟨Seed.tenant.id, "key", .apiCall⟩

def working : List ServiceAction := [.request (.api (posting 20)), .elapse 3600]

def worked : ServiceState := ((service unchecked unsigned).run working ⟨Seed.store, []⟩).get rfl

def first : MeterResponse where
  usageEventId := .ofInt 20
  usageType := .apiCall
  quantity := 1
  costMicrounits := 1000
  remainingQuota := [("api_calls", 4999), ("ai_tokens", 0)]

theorem worked_recent : ∃ earlier middle, ServedWithin unchecked unsigned idempotencyTtlSeconds working ⟨Seed.store, []⟩ earlier middle ∧
    earlier.key? = some triple ∧ Misses earlier middle.store.redis (idempotencyCacheKey triple) ∧
    (earlier.serve unchecked middle.store).1 = .meter (.ok first) := by
  have ran : (service unchecked unsigned).run working ⟨Seed.store, []⟩ = some worked := (Option.some_get _).symm
  have hit : ¬ Misses (posting 21) worked.store.redis (idempotencyCacheKey triple) := by
    rintro (down | absent)
    · cases down
    · exact absurd (congrArg Option.isSome absent) (by decide +kernel)
  exact @replay_recent unchecked unsigned ⟨Seed.store, []⟩ worked working (fun _ => rfl) ran (posting 21) triple first
    (by decide) hit (by decide +kernel)

theorem recorded_stored {call : MeterCall} {env : Env} {store : Store} {triple : UsageKey} {response : MeterResponse}
    (missed : call.cached? env store.redis = none) (answered : (serve (recordUsage call) env store).1 = .ok response)
    (own : call.key = triple) (up : env.redisUp .set (idempotencyCacheKey triple) = true) :
    (serve (recordUsage call) env store).2.redis (idempotencyCacheKey triple) =
      some ⟨response.modelDump, idempotencyTtlSeconds⟩ := by
  rcases computed : recordUsage call env store.open with ⟨reply, after⟩
  obtain rfl := answered.symm.trans (serve_database computed).1
  rw [serve_redis computed]
  obtain ⟨event, info, middle, _, _, rfl⟩ := recordUsage_answered (by exact missed) computed
  dsimp only
  rw [MeterCall.stored, own, if_pos up, Function.update_self]

/-- A response that is not found in Redis is computed from the tables. -/
theorem computed_answer {incoming : ApiRequest} {triple : UsageKey} {store : Store} {response : MeterResponse}
    (honest : Honest store.redis) (asked : incoming.key? = some triple)
    (misses : Misses incoming store.redis (idempotencyCacheKey triple))
    (answered : (incoming.serve verifyApiKey store).1 = .meter (.ok response)) :
    ∃ call redis, call.key = triple ∧ call.cached? incoming.env redis = none ∧
      (serve (recordUsage call) incoming.env ⟨store.database, redis⟩).1 = .ok response ∧
      (incoming.serve verifyApiKey store).2 = (serve (recordUsage call) incoming.env ⟨store.database, redis⟩).2 := by
  obtain ⟨idempotencyKey, request, reqIp, userAgent, endpoint, named, own⟩ := key?_meter asked
  obtain ⟨tenant, session, accepted⟩ := accepted_of_response asked answered
  obtain ⟨authenticates, served⟩ := accepted_serve honest named accepted fun tenantId =>
    recordUsage (meterCall idempotencyKey request reqIp userAgent tenantId)
  have kept := authenticates_reply authenticates (Or.inl ⟨triple, rfl⟩ : OfReply (idempotencyCacheKey triple))
  have missed : (meterCall idempotencyKey request reqIp userAgent triple.tenantId).cached? incoming.env session.redis = none := by
    rw [MeterCall.cached?, own, kept]
    rcases misses with down | absent
    · rw [if_neg (by rw [down]; decide)]
    · rw [absent, Option.map_none, ite_self]
  rw [ApiRequest.serve, endpoint] at answered ⊢
  dsimp only at answered ⊢
  rw [served] at answered ⊢
  exact ⟨_, session.redis, own, missed, ApiReply.meter.inj answered, rfl⟩

/-- A response that is computed is stored, where Redis is up. -/
theorem response_stored {incoming : ApiRequest} {triple : UsageKey} {store : Store} {response : MeterResponse}
    (honest : Honest store.redis) (asked : incoming.key? = some triple)
    (misses : Misses incoming store.redis (idempotencyCacheKey triple))
    (answered : (incoming.serve verifyApiKey store).1 = .meter (.ok response))
    (up : incoming.env.redisUp .set (idempotencyCacheKey triple) = true) :
    (incoming.serve verifyApiKey store).2.redis (idempotencyCacheKey triple) =
      some ⟨response.modelDump, idempotencyTtlSeconds⟩ := by
  obtain ⟨call, redis, own, missed, replied, same⟩ := computed_answer honest asked misses answered
  rw [same]
  exact recorded_stored missed replied own up

/-- Once a metering request has been answered and its response stored, every later request of the tenant for
the same key and type gets the same response and changes no table, whatever happens in between, for a day: unless
the response is evicted, or asked for while Redis is out of reach. -/
theorem replay_kept (empty : ∀ key, start.store.redis key = none)
    (reached : (service verifyApiKey verify).run schedule start = some middle) {earlier incoming : ApiRequest} {triple : UsageKey}
    {response : MeterResponse} (asked : earlier.key? = some triple)
    (misses : Misses earlier middle.store.redis (idempotencyCacheKey triple))
    (answered : (earlier.serve verifyApiKey middle.store).1 = .meter (.ok response))
    (stored : earlier.env.redisUp .set (idempotencyCacheKey triple) = true) {rest : List ServiceAction}
    (ran : (service verifyApiKey verify).run (.request (.api earlier) :: rest) middle = some final)
    (young : (caching verifyApiKey verify).elapsed rest < idempotencyTtlSeconds)
    (remembers : ∀ action ∈ rest, ¬ Forgets (idempotencyCacheKey triple) action) (again : incoming.key? = some triple)
    {tenant : CurrentTenant} {session : Session}
    (accepted : getCurrentTenant verifyApiKey incoming.credentials incoming.env final.store.open = (.ok tenant, session))
    (up : incoming.env.redisUp .get (idempotencyCacheKey triple) = true) :
    (incoming.serve verifyApiKey final.store).1 = .meter (.ok response) ∧
      (incoming.serve verifyApiKey final.store).2.database = final.store.database := by
  have timed := timed_stays.run (fun _ _ => trivial) (Timed.initial empty) reached
  obtain ⟨next, taken, ran⟩ := Machine.run_cons_eq_some ran
  have later := timed_stays _ _ _ trivial timed taken
  have last := timed_stays.run (fun _ _ => trivial) later ran
  obtain rfl := Option.some.inj taken
  have fresh := response_stored timed.honest asked misses answered stored
  have holding : held (middle.served verifyApiKey verify (.api earlier)) (idempotencyCacheKey triple) =
      some (response.modelDump, idempotencyTtlSeconds) := held_eq_some.mpr fresh
  have kept : (caching verifyApiKey verify).machine.Each (fun action state =>
      ¬ (caching verifyApiKey verify).loses action state (idempotencyCacheKey triple)) rest
      (middle.served verifyApiKey verify (.api earlier)) :=
    Machine.each_of_forall fun action member _ => not_or.mpr ⟨remembers action member, not_not.mpr (Or.inl ⟨triple, rfl⟩)⟩
  have split : idempotencyTtlSeconds = (idempotencyTtlSeconds - (caching verifyApiKey verify).elapsed rest) +
      (caching verifyApiKey verify).elapsed rest := by omega
  rw [split] at holding
  have found := (caching verifyApiKey verify).held_until later ran (by omega) holding kept
  exact replayed last.honest again accepted up (held_eq_some.mp found) rfl

theorem worked_kept : ((posting 21).serve unchecked worked.store).1 = .meter (.ok first) ∧
    ((posting 21).serve unchecked worked.store).2.database = worked.store.database := by
  have ran : (service unchecked unsigned).run working ⟨Seed.store, []⟩ = some worked := (Option.some_get _).symm
  have remembers : ∀ action ∈ [ServiceAction.elapse 3600], ¬ Forgets (idempotencyCacheKey triple) action := by
    intro action member
    obtain rfl := List.mem_singleton.mp member
    exact id
  have reached : (service unchecked unsigned).run [] ⟨Seed.store, []⟩ = some ⟨Seed.store, []⟩ := rfl
  obtain ⟨tenant, session, accepted⟩ : ∃ tenant session, getCurrentTenant unchecked (posting 21).credentials (posting 21).env
      worked.store.open = (.ok tenant, session) := by
    rcases ran : getCurrentTenant unchecked (posting 21).credentials (posting 21).env worked.store.open with ⟨exc | tenant, session⟩
    · have accepted : (getCurrentTenant unchecked (posting 21).credentials (posting 21).env worked.store.open).1.isOk = true := by
        decide +kernel
      rw [ran] at accepted
      cases accepted
    · exact ⟨tenant, session, rfl⟩
  exact @replay_kept unchecked unsigned ⟨Seed.store, []⟩ ⟨Seed.store, []⟩ worked [] (fun _ => rfl) reached (posting 20)
    (posting 21) triple first (by decide) (Or.inr rfl) (by decide +kernel) rfl [.elapse 3600] ran (by decide) remembers
    (by decide) tenant session accepted rfl

end MeteringBilling.CachedReplies
