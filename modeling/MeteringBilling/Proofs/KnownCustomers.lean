import MeteringBilling.Proofs.Freshness

/-! When every route knows the Stripe customer of a tenant: a minute after the tenant has it, when no
entry of Redis is older than the customer. -/

namespace MeteringBilling.KnownCustomers

open Effect Freshness Permanence StripeCustomer

variable {verifyApiKey : String → String → Bool} {verify : List UInt8 → String → Except PyError StripeEvent}
  {start middle final : ServiceState} {schedule rest : List ServiceAction} {tenantId : UUID} {customerId : String}
  {tenant : CurrentTenant} {store : Store} {redis : Redis} {env : Env}

def Has (tenantId : UUID) (customerId : String) (database : Database) : Prop :=
  ∃ row, database.tenant? tenantId = some row ∧ row.stripeCustomerId = some customerId

/-- What Redis holds of the tenant, if anything, has the customer. -/
def Mentions (tenantId : UUID) (customerId : String) (redis : Redis) : Prop :=
  ∀ entry, redis (tenantCacheKey tenantId) = some entry →
    ∃ row : Tenant, entry.value = row.cacheData ∧ row.stripeCustomerId = some customerId

theorem Has.lasts {before after : Database} (has : Has tenantId customerId before) (present : customerId ≠ "")
    (lasts : Lasts before after) : Has tenantId customerId after := by
  obtain ⟨row, found, same⟩ := has
  obtain ⟨later, stored, precedes⟩ := lasts.tenant? found
  refine ⟨later, stored, ?_⟩
  rcases precedes.customer with lacking | kept
  · rw [same] at lacking
    exact (not_lacking present lacking).elim
  · exact kept.symm.trans same

theorem mentions_of_has (timed : Timed middle.store.redis) (mirrors : Mirrors middle.store.database middle.store.redis)
    (has : Has tenantId customerId middle.store.database) (present : customerId ≠ "")
    (ran : (service verifyApiKey verify).run rest middle = some final)
    (aged : tenantCacheTtl ≤ (caching verifyApiKey verify).elapsed rest) :
    Mentions tenantId customerId final.store.redis := by
  intro entry held
  have last := timed_stays.run (fun _ _ => trivial) timed ran
  have positive := last.positive _ entry held
  rcases (caching verifyApiKey verify).held_stored timed ran (held_eq_some.mpr held) with
    before | ⟨before, action, later, then', split, reached, call, rfl, leaves, fresh⟩
  · have brief := timed.brief tenantId _ (held_eq_some.mp before)
    dsimp only at brief
    omega
  · have kept := (kept_invariant middle.store.database).run (fun _ _ => trivial) ⟨mirrors, .refl _⟩ reached
    obtain ⟨row, found, same⟩ := has.lasts present kept.lasts
    obtain ⟨cached, stored, built⟩ := leaves_tenant leaves
    obtain rfl := Option.some.inj (found.symm.trans stored)
    exact ⟨row, (CacheEntry.mk.inj built).1, same⟩

theorem handed_has (has : Has tenantId customerId store.database) (mentions : Mentions tenantId customerId store.redis)
    (handed : Handed env store tenantId tenant redis) : tenant.stripeCustomerId = some customerId := by
  cases handed with
  | cached hit built =>
    obtain ⟨entry, stored, rfl⟩ := cachedTenant?_entry (Option.filter_eq_some_iff.mp hit).1
    obtain ⟨row, same, customer⟩ := mentions entry stored
    rw [same, tenantOfCache_cacheData] at built
    obtain rfl := Except.ok.inj built
    exact customer
  | stored found kept =>
    obtain ⟨row, also, customer⟩ := has
    obtain rfl := Option.some.inj (also.symm.trans found)
    exact customer

/-- No route takes the tenant for one without a customer. -/
structure Recognized (verifyApiKey : String → String → Bool) (tenantId : UUID) (customerId : String) (store : Store) : Prop where
  checkout : ∀ call : CheckoutCall, UUID.parse? call.credentials.xTenantId = some tenantId →
    ∀ asked ∈ (call.serve verifyApiKey store).2.2, openedFor? asked = some (some customerId)
  portal : ∀ call : PortalCall, UUID.parse? call.credentials.xTenantId = some tenantId →
    ∀ tenant session, getCurrentTenant verifyApiKey call.credentials call.env store.open = (.ok tenant, session) →
      (call.serve verifyApiKey store).2.2 = [⟨customerId, call.env.settings.frontendUrl ++ "/billing"⟩]
  cancel : ∀ env credentials, UUID.parse? credentials.xTenantId = some tenantId →
    ∀ tenant session, getCurrentTenant verifyApiKey credentials env store.open = (.ok tenant, session) →
      (serve (cancelSubscription verifyApiKey credentials) env store).1 =
        .ok ⟨"pending", "Please use the Stripe customer portal to cancel your subscription"⟩

theorem accepted_has {credentials : Credentials} {session : Session} (has : Has tenantId customerId store.database)
    (mentions : Mentions tenantId customerId store.redis) (named : UUID.parse? credentials.xTenantId = some tenantId)
    (accepted : getCurrentTenant verifyApiKey credentials env store.open = (.ok tenant, session)) :
    tenant.stripeCustomerId = some customerId := by
  rcases handed_cases accepted with ⟨⟨_, raised⟩, _⟩ | ⟨other, handedTenant, redis, same, returned, _, handed⟩
  · cases raised
  · obtain rfl := Option.some.inj (named.symm.trans same)
    obtain rfl := Except.ok.inj returned
    exact handed_has has mentions handed

theorem filled {customerId : String} (present : customerId ≠ "") (customer : tenant.stripeCustomerId = some customerId) :
    tenant.stripeCustomerId.filter (· ≠ "") = some customerId := by
  rw [customer]
  exact Option.filter_eq_some_iff.mpr ⟨rfl, decide_eq_true present⟩

theorem portal_opened {call : PortalCall} {session : Session} (present : customerId ≠ "")
    (accepted : getCurrentTenant verifyApiKey call.credentials call.env store.open = (.ok tenant, session))
    (customer : tenant.stripeCustomerId = some customerId) :
    (call.serve verifyApiKey store).2.2 = [⟨customerId, call.env.settings.frontendUrl ++ "/billing"⟩] := by
  have first : Effect.onPart PortalSession.session (fun state session => { state with session })
      (getCurrentTenant verifyApiKey call.credentials) call.env ⟨store.open, []⟩ = (.ok tenant, ⟨session, []⟩) := by
    simp only [Effect.onPart, accepted]
  obtain ⟨reply, opened⟩ : ∃ reply, createPortalSession verifyApiKey call.credentials call.answer call.env ⟨store.open, []⟩ =
      (reply, ⟨session, [⟨customerId, call.env.settings.frontendUrl ++ "/billing"⟩]⟩) := by
    rw [createPortalSession, bind_ok first, filled present customer]
    cases call.answer with
    | ok url => exact ⟨.ok url, rfl⟩
    | error message => exact ⟨.error portalFailed, rfl⟩
  simp only [PortalCall.serve, opened]

theorem cancel_answered {credentials : Credentials} {session : Session} (present : customerId ≠ "")
    (accepted : getCurrentTenant verifyApiKey credentials env store.open = (.ok tenant, session))
    (customer : tenant.stripeCustomerId = some customerId) :
    (serve (cancelSubscription verifyApiKey credentials) env store).1 =
      .ok ⟨"pending", "Please use the Stripe customer portal to cancel your subscription"⟩ := by
  have answered : cancelSubscription verifyApiKey credentials env store.open =
      (.ok ⟨"pending", "Please use the Stripe customer portal to cancel your subscription"⟩, session) := by
    rw [cancelSubscription, bind_ok accepted, filled present customer]
    rfl
  exact (serve_database answered).1

theorem recognized_of_has (present : customerId ≠ "") (has : Has tenantId customerId store.database)
    (mentions : Mentions tenantId customerId store.redis) : Recognized verifyApiKey tenantId customerId store := by
  refine ⟨fun call named asked member => ?_, fun call named tenant session accepted => ?_,
    fun env credentials named tenant session accepted => ?_⟩
  · rcases checkout_cases verifyApiKey call store with same | ⟨other, tenant, redis, checks⟩
    · have none : (call.serve verifyApiKey store).2.2 = [] := congrArg Prod.snd same
      exact absurd (none ▸ member) List.not_mem_nil
    · obtain rfl := Option.some.inj (named.symm.trans checks.named)
      have customer := handed_has has mentions checks.handed
      have held : ¬ Lacking tenant.stripeCustomerId := customer ▸ not_lacking present
      rcases checks.opens asked member with ⟨_, lacking⟩ | ⟨opened, same, ⟨_, rfl⟩ | ⟨enlists, _⟩⟩
      · exact (held lacking).elim
      · rw [same, customer]
      · obtain ⟨row, _, found, lacking, _⟩ := enlists
        obtain ⟨stored, also, has⟩ := has
        obtain rfl := Option.some.inj (also.symm.trans found)
        exact (not_lacking present (has ▸ lacking)).elim
  · exact portal_opened present accepted (accepted_has has mentions named accepted)
  · exact cancel_answered present accepted (accepted_has has mentions named accepted)

/-- Once a tenant has a Stripe customer, then from a minute later on no route takes it for one without: no
checkout creates another customer, every session is opened for this one, and a cancellation is not refused. -/
theorem customer_recognized (empty : ∀ key, start.store.redis key = none)
    (reached : (service verifyApiKey verify).run schedule start = some middle)
    (has : Has tenantId customerId middle.store.database) (present : customerId ≠ "")
    (ran : (service verifyApiKey verify).run rest middle = some final)
    (aged : tenantCacheTtl ≤ (caching verifyApiKey verify).elapsed rest) :
    Recognized verifyApiKey tenantId customerId final.store := by
  have timed := timed_stays.run (fun _ _ => trivial) (Timed.initial empty) reached
  have mirrors : Mirrors start.store.database start.store.redis := .initial empty
  have kept := (kept_invariant start.store.database).run (fun _ _ => trivial) ⟨mirrors, .refl _⟩ reached
  have later := (kept_invariant middle.store.database).run (fun _ _ => trivial) ⟨kept.mirrors, .refl _⟩ ran
  exact recognized_of_has present (has.lasts present later.lasts) (mentions_of_has timed kept.mirrors has present ran aged)

def opening : List ServiceAction := [.request (.checkout (upgrade "cus_1" "cs_1"))]

def opened : ServiceState := ((service unchecked unsigned).run opening ⟨Seed.store, []⟩).get rfl

def settled : ServiceState := ((service unchecked unsigned).run [.elapse 60] opened).get rfl

/-- The customer is not known at once, and it is after a minute. -/
theorem opened_recognized : (serve (cancelSubscription unchecked ⟨Seed.tenant.id.str, none⟩) (Seed.env 30) opened.store).1 =
      .error noStripeCustomer ∧
    Recognized unchecked Seed.tenant.id "cus_1" settled.store := by
  have reached : (service unchecked unsigned).run opening ⟨Seed.store, []⟩ = some opened := (Option.some_get _).symm
  have ran : (service unchecked unsigned).run [.elapse 60] opened = some settled := (Option.some_get _).symm
  have has : Has Seed.tenant.id "cus_1" opened.store.database := ⟨{ Seed.tenant with stripeCustomerId := some "cus_1" }, rfl, rfl⟩
  exact ⟨by decide, customer_recognized (fun _ => rfl) reached has (by decide) ran (by decide)⟩

end MeteringBilling.KnownCustomers
