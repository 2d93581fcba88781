import MeteringBilling.Proofs.CachedTenants
import MeteringBilling.Proofs.Permanence

/-! Authentication through Redis against the tables: whatever has been served before, it accepts and
rejects as the tables say. -/

namespace MeteringBilling.CacheCoherence

open Effect Permanence StripeCustomer CachedTenants

variable (verifyApiKey : String → String → Bool) in
/-- What the tables say to credentials. -/
def authenticate (credentials : Credentials) (database : Database) : Except PyError Tenant :=
  match UUID.parse? credentials.xTenantId with
  | none => .error (unauthorized "Invalid X-Tenant-ID format")
  | some tenantId =>
    match database.tenant? tenantId with
    | none => .error (unauthorized "Tenant not found")
    | some row => (checkApiKey verifyApiKey credentials.xApiKey row.apiKeyHash).map fun _ => row

/-- The tenant as a route sees it: what it can be queried by, its name and key, and its customer unless
it got that lately. -/
structure Presents (row : Tenant) (tenant : CurrentTenant) : Prop where
  bound : tenant.id.bound = .ok row.id
  name : tenant.name = row.name
  email : tenant.email = row.email
  apiKeyHash : tenant.apiKeyHash = row.apiKeyHash
  customer : Lacking tenant.stripeCustomerId ∨ tenant.stripeCustomerId = row.stripeCustomerId

/-- Both reject for the same reason, or both accept, with the same tenant. -/
def Alike (answer : Except PyError Tenant) (reply : Except PyError CurrentTenant) : Prop :=
  match answer, reply with
  | .ok row, .ok tenant => Presents row tenant
  | .error exc, .error other => exc = other
  | _, _ => False

variable {verifyApiKey : String → String → Bool} {verify : List UInt8 → String → Except PyError StripeEvent}
  {credentials : Credentials} {env : Env} {store : Store} {row old : Tenant} {tenantId : UUID}

theorem presents_current (row : Tenant) : Presents row row.current := ⟨rfl, rfl, rfl, rfl, Or.inr rfl⟩

theorem presents_uncreated (precedes : Precedes old row) : Presents row (uncreated old) where
  bound := by
    rw [← precedes.id]
    simp only [uncreated, TenantId.bound, UUID.parse?_str]
  name := precedes.name
  email := precedes.email
  apiKeyHash := precedes.apiKeyHash
  customer := precedes.customer

theorem alike_checked {tenant : CurrentTenant} (checked : Except PyError Unit) (presents : Presents row tenant) :
    Alike (checked.map fun _ => row) (checked.map fun _ => tenant) := by
  cases checked with
  | error exc => exact rfl
  | ok value => exact presents

theorem missing_tenant (quiet : env.Quiet) (named : UUID.parse? credentials.xTenantId = some tenantId)
    (missed : env.cachedTenant? tenantId store.redis = none) (absent : store.database.tenant? tenantId = none) :
    (getCurrentTenant verifyApiKey credentials env store.open).1 = .error (unauthorized "Tenant not found") := by
  have looked : cacheGet (tenantCacheKey tenantId) env store.open = (.ok none, store.open) :=
    congrArg (fun found => (Except.ok found, store.open)) missed
  have selected : (store.open.working.tenants.select (·.id == tenantId)) = [] := by
    rw [selectTenants_eq]
    exact congrArg Option.toList absent
  rw [getCurrentTenant, named]
  dsimp only
  rw [bind_ok looked, Option.filter_none]
  dsimp only
  rw [bind_ok (query_quiet quiet rfl _ _), selected]
  rfl

theorem authenticated_alike (quiet : env.Quiet) (mirrors : Mirrors store.database store.redis) (credentials : Credentials) :
    Alike (authenticate verifyApiKey credentials store.database) (getCurrentTenant verifyApiKey credentials env store.open).1 := by
  unfold authenticate
  cases named : UUID.parse? credentials.xTenantId with
  | none =>
    rw [getCurrentTenant, named]
    exact rfl
  | some tenantId =>
    dsimp only
    cases hit : env.cachedTenant? tenantId store.redis with
    | some cached =>
      obtain ⟨entry, held, rfl⟩ := cachedTenant?_entry hit
      obtain ⟨row, old, found, precedes, value⟩ := mirrors tenantId entry held
      have own := eq_of_beq (Table.find?_mem found).2
      have up : env.redisUp .get (tenantCacheKey tenantId) = true := by
        by_contra down
        rw [Env.cachedTenant?, if_neg down] at hit
        cases hit
      have same : old.id = tenantId := precedes.id.trans own
      have hits : Hits old entry env store.open := ⟨same ▸ up, same ▸ held⟩
      rw [found, @reply_hit verifyApiKey credentials old entry env store.open (same ▸ named) value hits, precedes.apiKeyHash]
      exact alike_checked _ (presents_uncreated precedes)
    | none =>
      cases found : store.database.tenant? tenantId with
      | none =>
        rw [missing_tenant quiet named hit found]
        exact rfl
      | some row =>
        obtain rfl := eq_of_beq (Table.find?_mem found).2
        rw [@reply_read verifyApiKey credentials row env store.open named ⟨hit, quiet, rfl, found⟩]
        exact alike_checked _ (presents_current row)

/-- In every state of a run that starts with an empty Redis, authentication answers as the tables say. -/
theorem decides_as_stored {store : Store} {schedule : List ServiceAction} (empty : ∀ key, store.redis key = none) :
    (service verifyApiKey verify).Always (fun state => ∀ credentials env, Env.Quiet env →
        Alike (authenticate verifyApiKey credentials state.store.database)
          (getCurrentTenant verifyApiKey credentials env state.store.open).1) schedule ⟨store, []⟩ := by
  have mirrors : Mirrors store.database store.redis := .initial empty
  have kept : (service verifyApiKey verify).Invariant (fun _ => True) (Kept store.database) := kept_invariant _
  have start : Kept store.database ⟨store, []⟩ := ⟨mirrors, .refl _⟩
  exact (kept.always (fun _ _ => trivial) start).imp fun state kept credentials env quiet =>
    authenticated_alike quiet kept.mirrors credentials

theorem visits_decide : (service unchecked unsigned).Always (fun state => ∀ credentials env, Env.Quiet env →
    Alike (authenticate unchecked credentials state.store.database)
      (getCurrentTenant unchecked credentials env state.store.open).1) visits ⟨Seed.store, []⟩ :=
  decides_as_stored fun _ => rfl

end MeteringBilling.CacheCoherence
