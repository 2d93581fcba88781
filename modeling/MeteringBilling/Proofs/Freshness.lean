import MeteringBilling.Library.Expiry
import MeteringBilling.Proofs.Permanence
import MeteringBilling.Proofs.VisibleChanges

/-! How old an answer from Redis can be: the cache of the service, as its requests fill it and time
empties it. -/

namespace MeteringBilling.Freshness

open Effect Permanence

def replyKey? (incoming : ApiRequest) : Option String :=
  match incoming.endpoint with
  | .meter .. => incoming.key?.map idempotencyCacheKey
  | .usage => (UUID.parse? incoming.credentials.xTenantId).map incoming.env.usageKey

def OfReply (key : String) : Prop :=
  (∃ triple, key = idempotencyCacheKey triple) ∨ ∃ tenantId time, key = usageCacheKey tenantId time

def Misses (incoming : ApiRequest) (redis : Redis) (key : String) : Prop :=
  incoming.env.redisUp .get key = false ∨ redis key = none

def Hits (call : Call) (redis : Redis) (key : String) : Prop :=
  ∃ incoming, call = .api incoming ∧ replyKey? incoming = some key ∧ ¬ Misses incoming redis key

/-- A step that may take a reply away before its time: an eviction, or a request for it that does not
reach Redis. -/
def Forgets (key : String) : ServiceAction → Prop
  | .request (.api incoming) => replyKey? incoming = some key ∧ incoming.env.redisUp .get key = false
  | .request _ | .elapse _ => False
  | .evict lost => lost = key

def Loses (action : ServiceAction) (key : String) : Prop := Forgets key action ∨ ¬ OfReply key

/-- What a call stores when it finds no reply. -/
def Fills (verifyApiKey : String → String → Bool) (action : ServiceAction) (state : ServiceState) (key : String)
    (value : Json) (seconds : Nat) : Prop :=
  ∃ call, action = .request call ∧ Leaves verifyApiKey call state.store key ⟨value, seconds⟩ ∧
    ¬ Hits call state.store.redis key

variable {verifyApiKey : String → String → Bool} {verify : List UInt8 → String → Except PyError StripeEvent}
  {store : Store} {redis : Redis} {key : String} {tenantId : UUID} {env : Env}

/-- Redis holds what the service has stored, with some of its time left. -/
structure Timed (redis : Redis) : Prop where
  honest : Honest redis
  positive : ∀ key entry, redis key = some entry → 0 < entry.ttlSeconds
  brief : ∀ tenantId entry, redis (tenantCacheKey tenantId) = some entry → entry.ttlSeconds ≤ tenantCacheTtl

theorem Timed.initial (empty : ∀ key, redis key = none) : Timed redis := by
  have never {key : String} {entry : CacheEntry} (held : redis key = some entry) : False := by
    rw [empty] at held
    cases held
  exact ⟨fun _ _ held => (never held).elim, fun _ _ held => (never held).elim, fun _ _ held => (never held).elim⟩

theorem leaves_positive {call : Call} {entry : CacheEntry} (leaves : Leaves verifyApiKey call store key entry) :
    0 < entry.ttlSeconds := by
  cases leaves with
  | tenant member => exact (by decide : 0 < tenantCacheTtl)
  | stored asked stores =>
    cases stores with
    | tenant named member => exact (by decide : 0 < tenantCacheTtl)
    | report named endpoint computed => exact (by decide : 0 < usageCacheTtl)
    | response looks answered => exact (by decide : 0 < idempotencyTtlSeconds)

theorem elapse_cases {seconds : Nat} {entry : CacheEntry} (held : redis.elapse seconds key = some entry) :
    redis key = some ⟨entry.value, entry.ttlSeconds + seconds⟩ ∧ 0 < entry.ttlSeconds := by
  obtain ⟨stored, found, left⟩ := Option.bind_eq_some_iff.mp held
  unfold CacheEntry.elapse at left
  split at left
  · cases left
  · next remains =>
    obtain rfl := Option.some.inj left
    dsimp only
    rw [Nat.sub_add_cancel (by omega)]
    exact ⟨found, by omega⟩

theorem evict_cases {lost : String} {entry : CacheEntry} (held : Function.update redis lost none key = some entry) :
    key ≠ lost ∧ redis key = some entry := by
  by_cases same : key = lost
  · rw [same, Function.update_self] at held
    cases held
  · rw [Function.update_of_ne same] at held
    exact ⟨same, held⟩

theorem Timed.turns {call : Call} {after : Redis} (timed : Timed store.redis)
    (turns : ∀ key, Turns verifyApiKey call store after key) : Timed after := by
  refine ⟨fun tenantId entry held => ?_, fun key entry held => ?_, fun tenantId entry held => ?_⟩
  · rcases turns (tenantCacheKey tenantId) with same | ⟨gone, _⟩ | ⟨stored, found, leaves⟩
    · exact timed.honest tenantId entry (same ▸ held)
    · cases gone.symm.trans held
    · obtain rfl := Option.some.inj (found.symm.trans held)
      obtain ⟨row, before, rfl⟩ := leaves_tenant leaves
      exact ⟨row, eq_of_beq (Table.find?_mem before).2, rfl⟩
  · rcases turns key with same | ⟨gone, _⟩ | ⟨stored, found, leaves⟩
    · exact timed.positive key entry (same ▸ held)
    · cases gone.symm.trans held
    · obtain rfl := Option.some.inj (found.symm.trans held)
      exact leaves_positive leaves
  · rcases turns (tenantCacheKey tenantId) with same | ⟨gone, _⟩ | ⟨stored, found, leaves⟩
    · exact timed.brief tenantId entry (same ▸ held)
    · cases gone.symm.trans held
    · obtain rfl := Option.some.inj (found.symm.trans held)
      obtain ⟨row, _, rfl⟩ := leaves_tenant leaves
      exact Nat.le_refl _

theorem Timed.elapse (timed : Timed redis) (seconds : Nat) : Timed (redis.elapse seconds) where
  honest tenantId entry held := by
    obtain ⟨stored, found, same⟩ := elapse_loses held
    obtain ⟨row, own, value⟩ := timed.honest tenantId stored found
    exact ⟨row, own, same ▸ value⟩
  positive key entry held := (elapse_cases held).2
  brief tenantId entry held :=
    (Nat.le_add_right entry.ttlSeconds seconds).trans (timed.brief tenantId _ (elapse_cases held).1)

theorem Timed.evict (timed : Timed redis) (lost : String) : Timed (Function.update redis lost none) where
  honest tenantId entry held := timed.honest tenantId entry (evict_cases held).2
  positive key entry held := timed.positive key entry (evict_cases held).2
  brief tenantId entry held := timed.brief tenantId entry (evict_cases held).2

theorem timed_stays : (service verifyApiKey verify).Invariant (fun _ => True) fun state => Timed state.store.redis := by
  intro action state next _ timed taken
  cases action with
  | request call =>
    obtain rfl := Option.some.inj taken
    exact timed.turns (@call_changes state.store verifyApiKey verify call timed.honest).redis
  | elapse seconds =>
    obtain rfl := Option.some.inj taken
    exact timed.elapse seconds
  | evict lost =>
    obtain rfl := Option.some.inj taken
    exact timed.evict lost

theorem authenticates_reply (authenticates : Authenticates tenantId store redis) (keeps : OfReply key) :
    redis key = store.redis key := by
  rcases authenticates with rfl | ⟨row, _, _, rfl⟩
  · rfl
  · refine Function.update_of_ne ?_ ..
    rcases keeps with ⟨triple, rfl⟩ | ⟨tenantId, time, rfl⟩
    · exact idempotencyCacheKey_ne_tenant triple row.id
    · exact usageCacheKey_ne_tenant tenantId row.id time

theorem keeps_subscription (keeps : OfReply key) (tenantId : UUID) : key ≠ subscriptionCacheKey tenantId := by
  have owned : ∃ owner, ownKey owner key = true := by
    rcases keeps with ⟨triple, rfl⟩ | ⟨tenantId, time, rfl⟩
    · exact ⟨_, ownKey_idempotency triple⟩
    · exact ⟨_, ownKey_usage tenantId time⟩
  obtain ⟨owner, own⟩ := owned
  rintro rfl
  cases own.symm.trans (VisibleChanges.subscriptionCacheKey_unowned tenantId)

theorem replyKey?_ofReply {incoming : ApiRequest} (looks : replyKey? incoming = some key) : OfReply key := by
  unfold replyKey? at looks
  cases endpoint : incoming.endpoint with
  | meter idempotencyKey request reqIp userAgent =>
    rw [endpoint] at looks
    obtain ⟨triple, _, rfl⟩ := Option.map_eq_some_iff.mp looks
    exact Or.inl ⟨triple, rfl⟩
  | usage =>
    rw [endpoint] at looks
    obtain ⟨tenantId, _, rfl⟩ := Option.map_eq_some_iff.mp looks
    exact Or.inr ⟨tenantId, _, rfl⟩

theorem serve_reads {α : Type} {endpoint : Request α} {reply : Except PyError α}
    (ran : endpoint env store.open = (reply, store.open)) : serve endpoint env store = (reply, store) := by
  obtain ⟨committed, redis⟩ := @getDb_settled env store.open α reply fun _ _ => rfl
  simp only [serve, ran]
  rw [committed, redis]
  rfl

theorem recordUsage_found {call : MeterCall} {cached : Json} (hit : call.cached? env store.redis = some cached) :
    serve (recordUsage call) env store = (cachedToResponse cached, store) :=
  serve_reads (recordUsage_hit (by exact hit))

theorem getUsage_found {cached : Json} (hit : env.cachedReport? tenantId store.redis = some cached) :
    serve (getUsage tenantId) env store = (.ok (.cached cached), store) :=
  serve_reads (getUsage_hit (by exact hit))

/-- A metering request that finds no response answers with what its call has recorded, and stores that. -/
theorem recordUsage_answered {call : MeterCall} {session after : Session} {response : MeterResponse}
    (missed : call.cached? env session.redis = none) (answered : recordUsage call env session = (.ok response, after)) :
    ∃ event info middle, MeterService.record call.record env session = (.ok (event, info), middle) ∧
      response = meterResponse event info call.request.usageType ∧
      after = { middle with redis := call.stored env middle.redis response } := by
  have missing : checkIdempotencyKey call.key env session = (.ok none, session) :=
    congrArg (fun found => (Except.ok found, session)) missed
  rw [recordUsage, bind_ok missing] at answered
  obtain ⟨⟨event, info⟩, middle, recorded, responded⟩ := bind_returned answered
  dsimp only at responded
  rw [bind_ok (storeIdempotencyResponse_apply _)] at responded
  obtain ⟨same, rfl⟩ := Prod.mk.inj responded
  obtain rfl := Except.ok.inj same
  rw [handle] at recorded
  rcases ran : MeterService.record call.record env session with ⟨exc | value, last⟩
  · rw [ran] at recorded
    cases recorded
  · rw [ran] at recorded
    obtain ⟨same, rfl⟩ := Prod.mk.inj recorded
    obtain rfl := Except.ok.inj same
    exact ⟨event, info, last, rfl, rfl, rfl⟩

theorem found_of_hit {incoming : ApiRequest} (hit : ¬ Misses incoming redis key) :
    incoming.env.redisUp .get key = true ∧ ∃ entry, redis key = some entry := by
  obtain ⟨up, held⟩ := not_or.mp hit
  exact ⟨Bool.not_eq_false _ ▸ up, Option.ne_none_iff_exists'.mp held⟩

theorem hit_keeps {incoming : ApiRequest} (honest : Honest store.redis) (looks : replyKey? incoming = some key)
    (hit : ¬ Misses incoming store.redis key) : (incoming.serve verifyApiKey store).2.redis key = store.redis key := by
  rcases serve_cases verifyApiKey incoming honest with same | ⟨tenantId, redis, named, authenticates, served⟩
  · rw [same]
  · have kept := authenticates_reply authenticates (replyKey?_ofReply looks)
    obtain ⟨up, entry, held⟩ := found_of_hit hit
    rw [served, ← kept]
    rw [← kept] at held
    unfold replyKey? at looks
    unfold Endpoint.serve
    cases endpoint : incoming.endpoint with
    | meter idempotencyKey request reqIp userAgent =>
      rw [endpoint, ApiRequest.key?, endpoint, named] at looks
      obtain rfl := Option.some.inj looks
      have found : (meterCall idempotencyKey request reqIp userAgent tenantId).cached? incoming.env redis = some entry.value := by
        rw [MeterCall.cached?, if_pos (by exact up)]
        exact congrArg (Option.map CacheEntry.value) held
      dsimp only
      rw [@recordUsage_found ⟨store.database, redis⟩ _ _ _ found]
    | usage =>
      rw [endpoint, named] at looks
      obtain rfl := Option.some.inj looks
      have found : incoming.env.cachedReport? tenantId redis = some entry.value := by
        rw [Env.cachedReport?, if_pos (by exact up), held, Option.map_some]
      dsimp only
      rw [@getUsage_found ⟨store.database, redis⟩ _ _ _ found]

/-- What becomes of a key, where a reply that is found is not stored again. -/
theorem call_turns (call : Call) (honest : Honest store.redis) (key : String) :
    (call.serve verifyApiKey verify store).2.1.redis key = store.redis key ∨
      ((call.serve verifyApiKey verify store).2.1.redis key = none ∧ ∃ tenantId, key = subscriptionCacheKey tenantId) ∨
      ∃ entry, (call.serve verifyApiKey verify store).2.1.redis key = some entry ∧ Leaves verifyApiKey call store key entry ∧
        ¬ Hits call store.redis key := by
  by_cases hits : Hits call store.redis key
  · obtain ⟨incoming, rfl, looks, found⟩ := hits
    exact Or.inl (hit_keeps honest looks found)
  · rcases (@call_changes store verifyApiKey verify call honest).redis key with same | gone | ⟨entry, found, leaves⟩
    · exact Or.inl same
    · exact Or.inr (Or.inl gone)
    · exact Or.inr (Or.inr ⟨entry, found, leaves, hits⟩)

theorem leaves_looks {call : Call} {entry : CacheEntry} (leaves : Leaves verifyApiKey call store key entry) (keeps : OfReply key) :
    ∃ incoming, call = .api incoming ∧ replyKey? incoming = some key ∧ Stores verifyApiKey incoming store key entry := by
  have foreign {row : Tenant} (same : key = tenantCacheKey row.id) : False := by
    rcases keeps with ⟨triple, rfl⟩ | ⟨tenantId, time, rfl⟩
    · exact idempotencyCacheKey_ne_tenant triple row.id same
    · exact usageCacheKey_ne_tenant tenantId row.id time same
  cases leaves with
  | tenant member => exact (foreign rfl).elim
  | @stored incoming _ _ asked stores =>
    refine ⟨incoming, asked, ?_, stores⟩
    cases stores with
    | tenant named member => exact (foreign rfl).elim
    | report named endpoint computed => simp only [replyKey?, endpoint, named, Option.map_some]
    | @response triple _ looks answered =>
      cases endpoint : incoming.endpoint with
      | meter idempotencyKey request reqIp userAgent => simp only [replyKey?, endpoint, looks, Option.map_some]
      | usage =>
        rw [ApiRequest.key?, endpoint] at looks
        cases looks

def held (state : ServiceState) (key : String) : Option (Json × Nat) :=
  (state.store.redis key).map fun entry => (entry.value, entry.ttlSeconds)

theorem held_eq_some {state : ServiceState} {value : Json} {left : Nat} :
    held state key = some (value, left) ↔ state.store.redis key = some ⟨value, left⟩ := by
  refine Option.map_eq_some_iff.trans ⟨?_, fun found => ⟨_, found, rfl⟩⟩
  rintro ⟨entry, found, same⟩
  obtain ⟨rfl, rfl⟩ := Prod.mk.inj same
  exact found

def seconds : ServiceAction → Nat
  | .elapse seconds => seconds
  | .request _ | .evict _ => 0

variable (verifyApiKey verify) in
def caching : Expiring ServiceAction ServiceState String Json where
  machine := service verifyApiKey verify
  valid state := Timed state.store.redis
  held := held
  seconds := seconds
  stores := Fills verifyApiKey
  loses action _ key := Loses action key
  stays := timed_stays
  ages {action state next key value left} timed taken found := by
    rw [held_eq_some] at found ⊢
    cases action with
    | request call =>
      obtain rfl := Option.some.inj taken
      rcases @call_turns verifyApiKey verify state.store call timed.honest key with same | ⟨gone, _⟩ | ⟨entry, stored, leaves, fresh⟩
      · exact Or.inl (same.symm.trans found)
      · cases gone.symm.trans found
      · obtain rfl := Option.some.inj (stored.symm.trans found)
        exact Or.inr ⟨rfl, call, rfl, leaves, fresh⟩
    | elapse seconds =>
      obtain rfl := Option.some.inj taken
      exact Or.inl (elapse_cases found).1
    | evict lost =>
      obtain rfl := Option.some.inj taken
      exact Or.inl (evict_cases found).2
  retains {action state next key value left} timed taken remains found kept := by
    rw [held_eq_some] at found ⊢
    obtain ⟨remembers, keeps⟩ := not_or.mp kept
    have keeps := not_not.mp keeps
    cases action with
    | request call =>
      obtain rfl := Option.some.inj taken
      rcases @call_turns verifyApiKey verify state.store call timed.honest key with same | ⟨_, tenantId, sub⟩ | ⟨entry, _, leaves, fresh⟩
      · exact same.trans found
      · exact (keeps_subscription keeps tenantId sub).elim
      · obtain ⟨incoming, rfl, looks, _⟩ := leaves_looks leaves keeps
        refine (fresh ⟨incoming, rfl, looks, ?_⟩).elim
        rintro (down | absent)
        · exact remembers ⟨looks, down⟩
        · cases absent.symm.trans found
    | elapse seconds =>
      obtain rfl := Option.some.inj taken
      have stays : (Redis.elapse seconds state.store.redis) key = some ⟨value, left⟩ := by
        rw [Redis.elapse, found, Option.bind_some, CacheEntry.elapse, if_neg (by exact not_le.mpr (Nat.lt_add_of_pos_left remains))]
        exact congrArg (fun left => some (CacheEntry.mk value left)) (Nat.add_sub_cancel left seconds)
      exact stays
    | evict lost =>
      obtain rfl := Option.some.inj taken
      exact (Function.update_of_ne (Ne.symm remembers) ..).trans found

end MeteringBilling.Freshness
