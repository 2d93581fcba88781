import MeteringBilling.Proofs.ServiceSteps
import MeteringBilling.Proofs.WebhookFrame

/-! What the service never takes back, whatever fails: recorded usage, processed events, tenants with
their names and keys, the customer of a tenant, and whose a subscription is. -/

namespace MeteringBilling.Permanence

open StripeCustomer

/-- A row of a tenant as it was at some earlier time: since then it may have got a customer. -/
structure Precedes (old row : Tenant) : Prop where
  id : old.id = row.id
  name : old.name = row.name
  email : old.email = row.email
  apiKeyHash : old.apiKeyHash = row.apiKeyHash
  createdAt : old.createdAt = row.createdAt
  customer : Lacking old.stripeCustomerId ∨ old.stripeCustomerId = row.stripeCustomerId

theorem Precedes.refl (row : Tenant) : Precedes row row := ⟨rfl, rfl, rfl, rfl, rfl, Or.inr rfl⟩

theorem Precedes.trans {first second third : Tenant} (one : Precedes first second) (two : Precedes second third) :
    Precedes first third where
  id := one.id.trans two.id
  name := one.name.trans two.name
  email := one.email.trans two.email
  apiKeyHash := one.apiKeyHash.trans two.apiKeyHash
  createdAt := one.createdAt.trans two.createdAt
  customer := by
    rcases one.customer with lacking | same
    · exact Or.inl lacking
    · rcases two.customer with lacking | also
      · exact Or.inl (same ▸ lacking)
      · exact Or.inr (same.trans also)

/-- The same row, of the same tenant and the same Stripe subscription. -/
structure SameSubscription (old row : Subscription) : Prop where
  id : row.id = old.id
  tenantId : row.tenantId = old.tenantId
  stripeSubscriptionId : row.stripeSubscriptionId = old.stripeSubscriptionId

/-- Everything that is stored stays, in its order where rows are only added. -/
structure Lasts (before after : Database) : Prop where
  usageEvents : before.usageEvents.rows <+: after.usageEvents.rows
  processed : before.processedStripeEvents.rows <+: after.processedStripeEvents.rows
  plans : after.plans = before.plans
  tenants : ∀ row ∈ before.tenants, ∃ later ∈ after.tenants, Precedes row later
  subscriptions : ∀ row ∈ before.subscriptions, ∃ later ∈ after.subscriptions, SameSubscription row later

theorem Lasts.refl (database : Database) : Lasts database database where
  usageEvents := List.prefix_refl _
  processed := List.prefix_refl _
  plans := rfl
  tenants row member := ⟨row, member, .refl row⟩
  subscriptions row member := ⟨row, member, rfl, rfl, rfl⟩

theorem Lasts.trans {first second third : Database} (one : Lasts first second) (two : Lasts second third) :
    Lasts first third where
  usageEvents := one.usageEvents.trans two.usageEvents
  processed := one.processed.trans two.processed
  plans := two.plans.trans one.plans
  tenants row member := by
    obtain ⟨later, stored, precedes⟩ := one.tenants row member
    obtain ⟨last, kept, also⟩ := two.tenants later stored
    exact ⟨last, kept, precedes.trans also⟩
  subscriptions row member := by
    obtain ⟨later, stored, same⟩ := one.subscriptions row member
    obtain ⟨last, kept, also⟩ := two.subscriptions later stored
    exact ⟨last, kept, also.id.trans same.id, also.tenantId.trans same.tenantId,
      also.stripeSubscriptionId.trans same.stripeSubscriptionId⟩

variable {verifyApiKey : String → String → Bool} {verify : List UInt8 → String → Except PyError StripeEvent}
  {database after : Database} {tenantId : UUID} {answers : StripeAnswers} {call : Call} {env : Env}

theorem enlisted_rows (enlists : Enlists tenantId answers database after) :
    ∃ customer, answers.customer = .ok customer ∧ (∀ row ∈ database.tenants, row.id = tenantId → Lacking row.stripeCustomerId) ∧
      ∃ tenants, after = { database with tenants } ∧ tenants.rows = database.tenants.rows.map fun row =>
        if row.id == tenantId then { row with stripeCustomerId := some customer.id } else row := by
  obtain ⟨row, customer, found, lacking, answered, updated⟩ := enlists
  unfold Database.updateTenant at updated
  split at updated
  · next tenants rewritten =>
    refine ⟨customer, answered, fun other member own => ?_, tenants, (Except.ok.inj updated).symm, Table.rewrite?_rows rewritten⟩
    obtain ⟨stored, same⟩ := Table.find?_mem found
    rw [Table.eq_of_clash member stored (Or.inl (own.trans (eq_of_beq same).symm))]
    exact lacking
  · cases updated

theorem enlisted_lasts (enlists : Enlists tenantId answers database after) : Lasts database after := by
  obtain ⟨customer, _, lacks, tenants, rfl, rows⟩ := enlisted_rows enlists
  refine { Lasts.refl database with tenants := fun row member => ?_ }
  refine ⟨_, by rw [Table.mem_rows, rows]; exact List.mem_map_of_mem member, ?_⟩
  split
  · next own => exact ⟨rfl, rfl, rfl, rfl, rfl, Or.inl (lacks row member (eq_of_beq own))⟩
  · exact .refl row

theorem rewritten_same {change : Change} {own : Option String} {stored : Subscription} (of : change.Of own database)
    (named : stored.stripeSubscriptionId = own) (member : stored ∈ database.subscriptions) :
    SameSubscription stored (change.rewritten stored) := by
  cases own with
  | some id =>
    obtain ⟨identifier, owner, name⟩ := WebhookFrame.rewritten_keeps of named member
    exact ⟨identifier, owner, name⟩
  | none =>
    cases change with
    | nothing | create _ | upsert _ | enroll _ _ => exact ⟨rfl, rfl, rfl⟩
    | assign time loaded assigned =>
      obtain ⟨_, never, _⟩ := of
      cases never

theorem delivered_lasts {event : StripeEvent} (applied : event.applied? env database = some after) :
    Lasts database after := by
  obtain ⟨written, processed, _, fits, rfl⟩ := applied?_eq_some.mp applied
  obtain ⟨⟨plans, _⟩, usageEvents, marks⟩ := EventData.process?_extends processed
  obtain ⟨change, asked, changed⟩ := process?_eq_some.mp processed
  refine ⟨?_, ?_, plans, fun row member => ?_, fun row member => ?_⟩
  · rw [usageEvents]
  · rw [Table.add_rows, marks]
    exact List.prefix_append _ _
  · refine ⟨row, ?_, .refl row⟩
    rw [Table.mem_rows]
    rcases WebhookFrame.tenants_applied asked changed with same | ⟨_, tenant, longer⟩
    · rw [same]
      exact member
    · rw [longer]
      exact List.mem_append_left _ member
  · dsimp only
    simp only [Table.mem_rows] at member ⊢
    cases applied?_written (change?_of asked) changed with
    | kept _ same => exact ⟨row, by rw [same]; exact member, rfl, rfl, rfl⟩
    | added other _ _ longer => exact ⟨row, by rw [longer]; exact List.mem_append_left _ member, rfl, rfl, rfl⟩
    | rewritten first stored rest _ named held replaced =>
      have present : stored ∈ database.subscriptions := by
        rw [Table.mem_rows, held]
        exact List.mem_append_right _ (List.mem_cons_self ..)
      rw [held] at member
      rw [replaced]
      rcases List.mem_append.mp member with before | rest
      · exact ⟨row, List.mem_append_left _ before, rfl, rfl, rfl⟩
      · rcases List.mem_cons.mp rest with rfl | later
        · exact ⟨_, List.mem_append_right _ (List.mem_cons_self ..), rewritten_same (change?_of asked) named present⟩
        · exact ⟨row, List.mem_append_right _ (List.mem_cons_of_mem _ later), rfl, rfl, rfl⟩

theorem alters_lasts (alters : Alters verify call database after) : Lasts database after := by
  cases alters with
  | kept => exact .refl _
  | recorded asked named endpoint inserts =>
    refine { Lasts.refl database with usageEvents := ?_ }
    rw [Table.add_rows]
    exact List.prefix_append _ _
  | delivered asked verified unmarked applied => exact delivered_lasts applied
  | enlisted asked named enlists => exact enlisted_lasts enlists

/-- What Redis holds of a tenant is its row, as it is or as it was. -/
def Mirrors (database : Database) (redis : Redis) : Prop :=
  ∀ tenantId entry, redis (tenantCacheKey tenantId) = some entry →
    ∃ row old, database.tenant? tenantId = some row ∧ Precedes old row ∧ entry.value = old.cacheData

theorem Mirrors.initial {redis : Redis} (empty : ∀ key, redis key = none) : Mirrors database redis := by
  intro tenantId entry held
  rw [empty] at held
  cases held

theorem Mirrors.honest {redis : Redis} (mirrors : Mirrors database redis) : Honest redis := by
  intro tenantId entry held
  obtain ⟨row, old, found, precedes, same⟩ := mirrors tenantId entry held
  exact ⟨old, precedes.id.trans (eq_of_beq (Table.find?_mem found).2), same⟩

theorem stored_tenant {row : Tenant} (member : row ∈ database.tenants) : database.tenant? row.id = some row := by
  apply (Table.find?_eq_some fun first second left right => Or.inl ((eq_of_beq left).trans (eq_of_beq right).symm)).mpr
  exact ⟨member, beq_self_eq_true _⟩

theorem Lasts.tenant? (lasts : Lasts database after) {row : Tenant} (found : database.tenant? tenantId = some row) :
    ∃ later, after.tenant? tenantId = some later ∧ Precedes row later := by
  obtain ⟨member, own⟩ := Table.find?_mem found
  obtain rfl := eq_of_beq own
  obtain ⟨later, stored, precedes⟩ := lasts.tenants row member
  exact ⟨later, precedes.id ▸ stored_tenant stored, precedes⟩

theorem leaves_tenant {store : Store} {entry : CacheEntry} (leaves : Leaves verifyApiKey call store (tenantCacheKey tenantId) entry) :
    ∃ row, store.database.tenant? tenantId = some row ∧ entry = ⟨row.cacheData, tenantCacheTtl⟩ := by
  generalize place : tenantCacheKey tenantId = key at leaves
  cases leaves with
  | tenant member =>
    obtain rfl := tenantCacheKey_injective place
    exact ⟨_, stored_tenant member, rfl⟩
  | stored asked stores =>
    cases stores with
    | tenant named member =>
      obtain rfl := tenantCacheKey_injective place
      exact ⟨_, stored_tenant member, rfl⟩
    | report => exact (usageCacheKey_ne_tenant _ _ _ place.symm).elim
    | response => exact (idempotencyCacheKey_ne_tenant _ _ place.symm).elim

theorem Mirrors.grow {redis : Redis} (mirrors : Mirrors database redis) (lasts : Lasts database after) :
    Mirrors after redis := by
  intro tenantId entry held
  obtain ⟨row, old, found, precedes, same⟩ := mirrors tenantId entry held
  obtain ⟨later, stored, also⟩ := lasts.tenant? found
  exact ⟨later, old, stored, precedes.trans also, same⟩

theorem Mirrors.changes {store later : Store} (mirrors : Mirrors store.database store.redis)
    (changes : Changes verifyApiKey verify call store later) : Mirrors later.database later.redis := by
  have lasts := alters_lasts changes.database
  intro tenantId entry held
  rcases changes.redis (tenantCacheKey tenantId) with same | ⟨gone, _⟩ | ⟨stored, found, leaves⟩
  · exact mirrors.grow lasts tenantId entry (same ▸ held)
  · rw [gone] at held
    cases held
  · obtain rfl := Option.some.inj (found.symm.trans held)
    obtain ⟨row, before, rfl⟩ := leaves_tenant leaves
    obtain ⟨now, stored, precedes⟩ := lasts.tenant? before
    exact ⟨now, row, stored, precedes, rfl⟩

theorem Mirrors.lose {redis lost : Redis} (mirrors : Mirrors database redis)
    (loses : ∀ key entry, lost key = some entry → ∃ held, redis key = some held ∧ held.value = entry.value) :
    Mirrors database lost := by
  intro tenantId entry held
  obtain ⟨other, stored, same⟩ := loses _ entry held
  obtain ⟨row, old, found, precedes, value⟩ := mirrors tenantId other stored
  exact ⟨row, old, found, precedes, same ▸ value⟩

theorem elapse_loses {redis : Redis} {seconds : Nat} {key : String} {entry : CacheEntry}
    (held : redis.elapse seconds key = some entry) : ∃ stored, redis key = some stored ∧ stored.value = entry.value := by
  obtain ⟨stored, found, left⟩ := Option.bind_eq_some_iff.mp held
  unfold CacheEntry.elapse at left
  split at left
  · cases left
  · exact ⟨stored, found, by rw [← Option.some.inj left]⟩

theorem evict_loses {redis : Redis} {lost key : String} {entry : CacheEntry}
    (held : Function.update redis lost none key = some entry) : ∃ stored, redis key = some stored ∧ stored.value = entry.value := by
  by_cases same : key = lost
  · rw [same, Function.update_self] at held
    cases held
  · rw [Function.update_of_ne same] at held
    exact ⟨entry, held, rfl⟩

structure Kept (start : Database) (state : ServiceState) : Prop where
  mirrors : Mirrors state.store.database state.store.redis
  lasts : Lasts start state.store.database

theorem kept_step {start : Database} {action : ServiceAction} {state next : ServiceState} (kept : Kept start state)
    (taken : (service verifyApiKey verify).step action state = some next) : Kept start next := by
  cases action with
  | request call =>
    obtain rfl := Option.some.inj taken
    have changes := @call_changes state.store verifyApiKey verify call kept.mirrors.honest
    exact ⟨kept.mirrors.changes changes, kept.lasts.trans (alters_lasts changes.database)⟩
  | elapse seconds =>
    obtain rfl := Option.some.inj taken
    exact ⟨kept.mirrors.lose fun _ _ => elapse_loses, kept.lasts⟩
  | evict key =>
    obtain rfl := Option.some.inj taken
    exact ⟨kept.mirrors.lose fun _ _ => evict_loses, kept.lasts⟩

theorem kept_invariant (start : Database) : (service verifyApiKey verify).Invariant (fun _ => True) (Kept start) :=
  fun _ _ _ _ kept taken => kept_step kept taken

/-- From an empty Redis on, whatever has been stored in a state stays stored in every later one. -/
theorem nothing_lost {start middle final : ServiceState} {first second : List ServiceAction}
    (empty : ∀ key, start.store.redis key = none) (reached : (service verifyApiKey verify).run first start = some middle)
    (ran : (service verifyApiKey verify).run second middle = some final) :
    Lasts middle.store.database final.store.database := by
  have mirrors : Mirrors start.store.database start.store.redis := .initial empty
  have kept : Kept start.store.database middle :=
    (kept_invariant _).run (fun _ _ => trivial) ⟨mirrors, .refl _⟩ reached
  exact ((kept_invariant _).run (fun _ _ => trivial) ⟨kept.mirrors, .refl _⟩ ran).lasts

def unsigned (_payload : List UInt8) (_sigHeader : String) : Except PyError StripeEvent :=
  .error (.stripe "No signatures found matching the expected signature for payload")

def visits : List ServiceAction := [.request (.checkout (upgrade "cus_1" "cs_1")), .elapse 60]

def visited : ServiceState := ((service unchecked unsigned).run visits ⟨Seed.store, []⟩).get (by decide)

theorem seeded_lasts : visited.store.database ≠ Seed.store.database ∧
    Lasts Seed.store.database visited.store.database := by
  have opened : (service unchecked unsigned).run [] ⟨Seed.store, []⟩ = some ⟨Seed.store, []⟩ := rfl
  have ran : (service unchecked unsigned).run visits ⟨Seed.store, []⟩ = some visited := (Option.some_get _).symm
  exact ⟨by decide, nothing_lost (fun _ => rfl) opened ran⟩

end MeteringBilling.Permanence
