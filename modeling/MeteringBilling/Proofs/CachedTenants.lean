import MeteringBilling.Proofs.Requests
import MeteringBilling.Seed

/-! A tenant from the cache against the same tenant from the tables. Both paths accept the same
requests, but what the cache returns has another kind of identifier and no creation time. -/

namespace MeteringBilling.CachedTenants

open Effect

/-- An authentication of the tenant has put the entry into Redis, while its row was as it is now. -/
def Stores (verifyApiKey : String → String → Bool) (row : Tenant) (entry : CacheEntry) : Prop :=
  ∃ credentials env session reply after, UUID.parse? credentials.xTenantId = some row.id ∧
    session.working.tenant? row.id = some row ∧ getCurrentTenant verifyApiKey credentials env session = (reply, after) ∧
    session.redis (tenantCacheKey row.id) ≠ some entry ∧ after.redis (tenantCacheKey row.id) = some entry

def Hits (row : Tenant) (entry : CacheEntry) (env : Env) (session : Session) : Prop :=
  env.redisUp .get (tenantCacheKey row.id) = true ∧ session.redis (tenantCacheKey row.id) = some entry

/-- A request that does not, and reads the row. -/
structure Reads (row : Tenant) (env : Env) (session : Session) : Prop where
  missed : env.cachedTenant? row.id session.redis = none
  quiet : env.Quiet
  live : session.aborted = false
  stored : session.working.tenant? row.id = some row

/-- The request has a key, the tenant has a hash, and they do not belong together. -/
def Refused (verifyApiKey : String → String → Bool) (xApiKey apiKeyHash : Option String) : Prop :=
  ∃ plainKey hash, xApiKey = some plainKey ∧ plainKey ≠ "" ∧ apiKeyHash = some hash ∧ hash ≠ "" ∧
    verifyApiKey plainKey hash = false

variable {verifyApiKey : String → String → Bool} {credentials : Credentials} {row : Tenant} {entry : CacheEntry}
  {env reader : Env} {session missed : Session}

theorem filled_eq_some {text : Option String} {value : String} :
    text.filter (· ≠ "") = some value ↔ text = some value ∧ value ≠ "" := by
  rw [Option.filter_eq_some_iff, decide_eq_true_eq]

theorem checkApiKey_cases (verifyApiKey : String → String → Bool) (xApiKey apiKeyHash : Option String) :
    checkApiKey verifyApiKey xApiKey apiKeyHash = .ok () ∧ ¬ Refused verifyApiKey xApiKey apiKeyHash ∨
      checkApiKey verifyApiKey xApiKey apiKeyHash = .error (unauthorized "Invalid API key") ∧
        Refused verifyApiKey xApiKey apiKeyHash := by
  unfold checkApiKey
  cases keys : xApiKey.filter (· ≠ "") with
  | none =>
    refine Or.inl ⟨rfl, ?_⟩
    rintro ⟨plainKey, _, present, filled, _⟩
    rw [filled_eq_some.mpr ⟨present, filled⟩] at keys
    cases keys
  | some plainKey =>
    cases hashes : apiKeyHash.filter (· ≠ "") with
    | none =>
      refine Or.inl ⟨rfl, ?_⟩
      rintro ⟨_, hash, _, _, present, filled, _⟩
      rw [filled_eq_some.mpr ⟨present, filled⟩] at hashes
      cases hashes
    | some hash =>
      obtain ⟨rfl, named⟩ := filled_eq_some.mp keys
      obtain ⟨rfl, hashed⟩ := filled_eq_some.mp hashes
      dsimp only
      cases verified : verifyApiKey plainKey hash with
      | true =>
        refine Or.inl ⟨rfl, ?_⟩
        rintro ⟨_, _, key, _, known, _, wrong⟩
        obtain rfl := Option.some.inj key
        obtain rfl := Option.some.inj known
        rw [verified] at wrong
        cases wrong
      | false => exact Or.inr ⟨rfl, plainKey, hash, rfl, named, rfl, hashed, verified⟩

theorem Stores.value (stored : Stores verifyApiKey row entry) : entry.value = row.cacheData := by
  obtain ⟨credentials, env, session, reply, after, named, found, ran, absent, present⟩ := stored
  rcases getCurrentTenant_cases named ran with ⟨_, saved⟩ | ⟨_, _, _, _, _, _, rfl⟩ | ⟨current, read, _, rfl | rfl⟩
  · have same : after.redis = session.redis := (Prod.mk.inj saved).2
    rw [same] at present
    exact (absent present).elim
  · exact (absent present).elim
  · exact (absent present).elim
  · obtain rfl := Option.some.inj (read.symm.trans found)
    dsimp only [cachedTenant] at present
    rw [Function.update_self] at present
    rw [← Option.some.inj present]

def uncreated (row : Tenant) : CurrentTenant := { row.current with id := .text row.id.str, createdAt := none }

theorem reply_hit (named : UUID.parse? credentials.xTenantId = some row.id) (stored : entry.value = row.cacheData)
    (hits : Hits row entry env session) : (getCurrentTenant verifyApiKey credentials env session).1 =
      (checkApiKey verifyApiKey credentials.xApiKey row.apiKeyHash).map fun _ => uncreated row := by
  obtain ⟨up, held⟩ := hits
  have looked : cacheGet (tenantCacheKey row.id) env session = (.ok (some row.cacheData), session) := by
    rw [cacheGet, up, held, ← stored]
    rfl
  have truthy : (some row.cacheData).filter Json.truthy = some row.cacheData := rfl
  rw [getCurrentTenant, named]
  dsimp only
  rw [bind_ok looked, truthy]
  dsimp only
  rw [tenantOfCache_cacheData, bind_ok (ofExcept_apply _ _ _), bind_apply, ofExcept_apply]
  dsimp only [Tenant.current]
  cases checkApiKey verifyApiKey credentials.xApiKey row.apiKeyHash <;> rfl

theorem reply_read (named : UUID.parse? credentials.xTenantId = some row.id) (reads : Reads row reader missed) :
    (getCurrentTenant verifyApiKey credentials reader missed).1 =
      (checkApiKey verifyApiKey credentials.xApiKey row.apiKeyHash).map fun _ => row.current := by
  obtain ⟨absent, quiet, live, found⟩ := reads
  have looked : cacheGet (tenantCacheKey row.id) reader missed =
    (.ok (reader.cachedTenant? row.id missed.redis), missed) := rfl
  rw [getCurrentTenant, named]
  dsimp only
  rw [bind_ok looked, absent, Option.filter_none]
  dsimp only
  rw [bind_ok (query_quiet quiet live _ _), selectTenants_eq, found, bind_ok (scalarOneOrNone_toList _)]
  dsimp only
  rw [bind_apply, ofExcept_apply]
  cases checkApiKey verifyApiKey credentials.xApiKey row.apiKeyHash <;> rfl

/-- The two paths answer alike exactly if they refuse the request. -/
theorem replies_agree_iff (named : UUID.parse? credentials.xTenantId = some row.id)
    (stored : Stores verifyApiKey row entry) (hits : Hits row entry env session) (reads : Reads row reader missed) :
    (getCurrentTenant verifyApiKey credentials env session).1 =
        (getCurrentTenant verifyApiKey credentials reader missed).1 ↔
      Refused verifyApiKey credentials.xApiKey row.apiKeyHash := by
  rw [reply_hit named stored.value hits, reply_read named reads]
  rcases checkApiKey_cases verifyApiKey credentials.xApiKey row.apiKeyHash with ⟨accepted, fits⟩ | ⟨rejected, refused⟩
  · rw [accepted]
    refine iff_of_false (fun same => ?_) fits
    have unset := congrArg CurrentTenant.createdAt (Except.ok.inj same)
    cases unset
  · rw [rejected]
    exact iff_of_true rfl refused

theorem accepted_alike (named : UUID.parse? credentials.xTenantId = some row.id)
    (stored : Stores verifyApiKey row entry) (hits : Hits row entry env session) (reads : Reads row reader missed) :
    (getCurrentTenant verifyApiKey credentials env session).1.isOk =
      (getCurrentTenant verifyApiKey credentials reader missed).1.isOk := by
  rw [reply_hit named stored.value hits, reply_read named reads]
  cases checkApiKey verifyApiKey credentials.xApiKey row.apiKeyHash <;> rfl

def keyless : Credentials := ⟨Seed.tenant.id.str, none⟩

def unverified (_plainKey _hash : String) : Bool := false

def afterFirst : Session := (getCurrentTenant unverified keyless (Seed.env 20) Seed.store.open).2

def cachedEntry : CacheEntry := ⟨Seed.tenant.cacheData, tenantCacheTtl⟩

theorem first_stores : Stores unverified Seed.tenant cachedEntry := by
  refine ⟨keyless, Seed.env 20, Seed.store.open, .ok Seed.tenant.current, afterFirst, UUID.parse?_str _, rfl, rfl, ?_,
    rfl⟩
  intro held
  cases held

theorem second_hits : Hits Seed.tenant cachedEntry (Seed.env 21) afterFirst := ⟨rfl, rfl⟩

theorem first_reads : Reads Seed.tenant (Seed.env 20) Seed.store.open := ⟨rfl, Seed.env_quiet 20, rfl, rfl⟩

/-- A tenant without a key is accepted on both paths, and only the tables say when it was created. -/
theorem second_differs : Stores unverified Seed.tenant cachedEntry ∧ Hits Seed.tenant cachedEntry (Seed.env 21) afterFirst ∧
    Reads Seed.tenant (Seed.env 20) Seed.store.open ∧
    (getCurrentTenant unverified keyless (Seed.env 20) Seed.store.open).1 = .ok Seed.tenant.current ∧
    (getCurrentTenant unverified keyless (Seed.env 21) afterFirst).1 = .ok (uncreated Seed.tenant) ∧
    (uncreated Seed.tenant).id ≠ Seed.tenant.current.id ∧ (uncreated Seed.tenant).createdAt ≠ Seed.tenant.current.createdAt :=
  ⟨first_stores, second_hits, first_reads, rfl, rfl, by decide, by decide⟩

theorem keyless_agree_iff : (getCurrentTenant unverified keyless (Seed.env 21) afterFirst).1 =
      (getCurrentTenant unverified keyless (Seed.env 20) Seed.store.open).1 ↔
    Refused unverified keyless.xApiKey Seed.tenant.apiKeyHash :=
  replies_agree_iff (UUID.parse?_str _) first_stores second_hits first_reads

end MeteringBilling.CachedTenants
