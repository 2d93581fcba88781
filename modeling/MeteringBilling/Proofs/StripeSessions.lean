import MeteringBilling.Proofs.Permanence

/-! For whom Stripe is asked to open a session: always for the customer of the tenant whose request
asks, which from then on stays the tenant's. -/

namespace MeteringBilling.StripeSessions

open Permanence StripeCustomer

def Own (database : Database) : Asked → Prop
  | .checkout xTenantId call => ∀ customerId, openedFor? call = some customerId →
    ∃ row ∈ database.tenants, UUID.parse? xTenantId = some row.id ∧ row.stripeCustomerId = customerId ∧ ¬ Lacking customerId
  | .portal xTenantId call =>
    ∃ row ∈ database.tenants, UUID.parse? xTenantId = some row.id ∧ row.stripeCustomerId = some call.customerId ∧
      ¬ Lacking (some call.customerId)

/-- Stripe gives a customer an identifier. -/
def Identified : ServiceAction → Prop
  | .request (.checkout checkout) => ∀ customer, checkout.answers.customer = .ok customer → customer.id ≠ ""
  | _ => True

variable {verifyApiKey : String → String → Bool} {verify : List UInt8 → String → Except PyError StripeEvent}
  {database after : Database} {store : Store} {tenantId : UUID} {tenant : CurrentTenant} {redis : Redis} {env : Env}

theorem Own.grow {asked : Asked} (own : Own database asked) (lasts : Lasts database after) : Own after asked := by
  have keep {row : Tenant} {customerId : Option String} (member : row ∈ database.tenants) (same : row.stripeCustomerId = customerId)
      (held : ¬ Lacking customerId) : ∃ later ∈ after.tenants, row.id = later.id ∧ later.stripeCustomerId = customerId := by
    obtain ⟨later, stored, precedes⟩ := lasts.tenants row member
    refine ⟨later, stored, precedes.id, ?_⟩
    rcases precedes.customer with lacking | also
    · exact absurd (same ▸ lacking) held
    · exact also.symm.trans same
  cases asked with
  | checkout xTenantId call =>
    intro customerId opened
    obtain ⟨row, member, named, same, held⟩ := own customerId opened
    obtain ⟨later, stored, id, also⟩ := keep member same held
    exact ⟨later, stored, id ▸ named, also, held⟩
  | portal xTenantId call =>
    obtain ⟨row, member, named, same, held⟩ := own
    obtain ⟨later, stored, id, also⟩ := keep member same held
    exact ⟨later, stored, id ▸ named, also, held⟩

theorem handed_stored (mirrors : Mirrors store.database store.redis) (handed : Handed env store tenantId tenant redis)
    (held : ¬ Lacking tenant.stripeCustomerId) :
    ∃ row, store.database.tenant? tenantId = some row ∧ row.stripeCustomerId = tenant.stripeCustomerId := by
  cases handed with
  | cached hit built =>
    obtain ⟨entry, stored, rfl⟩ := cachedTenant?_entry (Option.filter_eq_some_iff.mp hit).1
    obtain ⟨row, old, found, precedes, same⟩ := mirrors tenantId entry stored
    rw [same, tenantOfCache_cacheData] at built
    obtain rfl := Except.ok.inj built
    exact ⟨row, found, (precedes.customer.resolve_left held).symm⟩
  | stored found kept => exact ⟨_, found, rfl⟩

theorem own_of_row {customerId : Option String} {row : Tenant} {xTenantId : String}
    (named : UUID.parse? xTenantId = some tenantId) (found : database.tenant? tenantId = some row)
    (same : row.stripeCustomerId = customerId) (held : ¬ Lacking customerId) :
    ∃ row ∈ database.tenants, UUID.parse? xTenantId = some row.id ∧ row.stripeCustomerId = customerId ∧ ¬ Lacking customerId := by
  obtain ⟨member, own⟩ := Table.find?_mem found
  exact ⟨row, member, named.trans (congrArg some (eq_of_beq own).symm), same, held⟩

theorem enlisted_customer {answers : StripeAnswers} (enlists : Enlists tenantId answers database after) {row : Tenant}
    (found : after.tenant? tenantId = some row) :
    ∃ customer, answers.customer = .ok customer ∧ row.stripeCustomerId = some customer.id := by
  obtain ⟨customer, answered, _, tenants, rfl, rows⟩ := enlisted_rows enlists
  obtain ⟨member, own⟩ := Table.find?_mem found
  rw [Table.mem_rows, rows] at member
  obtain ⟨before, _, rfl⟩ := List.mem_map.mp member
  refine ⟨customer, answered, ?_⟩
  split
  · rfl
  · next other =>
    rw [if_neg other] at own
    exact absurd own other

theorem checkout_own (mirrors : Mirrors store.database store.redis) {checkout : CheckoutCall}
    (identified : Identified (.request (.checkout checkout))) {calls : List StripeCall} {later : Store}
    (checks : ChecksOut checkout store tenantId tenant redis later calls) (lasts : Lasts store.database later.database) :
    ∀ call ∈ calls, Own later.database (.checkout checkout.credentials.xTenantId call) := by
  intro call member customerId opened
  rcases checks.opens call member with ⟨never, _⟩ | ⟨other, same, opens⟩
  · rw [never] at opened
    cases opened
  · obtain rfl := Option.some.inj (same.symm.trans opened)
    rcases opens with ⟨held, rfl⟩ | ⟨enlists, row, found, rfl⟩
    · obtain ⟨row, found, also⟩ := handed_stored mirrors checks.handed held
      obtain ⟨now, stored, precedes⟩ := lasts.tenant? found
      refine own_of_row checks.named stored ?_ held
      rcases precedes.customer with lacking | kept
      · exact absurd (also ▸ lacking) held
      · exact kept.symm.trans also
    · obtain ⟨customer, answered, has⟩ := enlisted_customer enlists found
      refine own_of_row checks.named found rfl ?_
      rw [has]
      exact not_lacking (identified customer answered)

theorem checkout_asked (mirrors : Mirrors store.database store.redis) {checkout : CheckoutCall}
    (identified : Identified (.request (.checkout checkout)))
    (lasts : Lasts store.database (checkout.serve verifyApiKey store).2.1.database) :
    ∀ call ∈ (checkout.serve verifyApiKey store).2.2,
      Own (checkout.serve verifyApiKey store).2.1.database (.checkout checkout.credentials.xTenantId call) := by
  rcases checkout_cases verifyApiKey checkout store with same | ⟨tenantId, tenant, redis, checks⟩
  · rw [same]
    exact fun call never => absurd never List.not_mem_nil
  · exact checkout_own mirrors identified checks lasts

theorem portal_asked (mirrors : Mirrors store.database store.redis) {portal : PortalCall} :
    ∀ call ∈ (portal.serve verifyApiKey store).2.2, Own store.database (.portal portal.credentials.xTenantId call) := by
  rcases portal_cases verifyApiKey portal store with same | ⟨tenantId, tenant, redis, portals⟩
  · rw [same]
    exact fun call never => absurd never List.not_mem_nil
  · intro call made
    obtain ⟨has, held⟩ := portals.opens call made
    obtain ⟨row, found, also⟩ := handed_stored mirrors portals.handed held
    exact own_of_row portals.named found (also.trans has) (has ▸ held)

theorem call_asked (mirrors : Mirrors store.database store.redis) {call : Call} (identified : Identified (.request call))
    (lasts : Lasts store.database (call.serve verifyApiKey verify store).2.1.database) :
    ∀ asked ∈ (call.serve verifyApiKey verify store).2.2, Own (call.serve verifyApiKey verify store).2.1.database asked := by
  unfold Call.serve at lasts ⊢
  cases call with
  | checkout checkout =>
    dsimp only at lasts ⊢
    have own := @checkout_asked verifyApiKey store mirrors checkout identified lasts
    exact List.forall_mem_map.mpr own
  | portal portal =>
    dsimp only at lasts ⊢
    have own := @portal_asked verifyApiKey store mirrors portal
    exact List.forall_mem_map.mpr fun call made => (own call made).grow lasts
  | api | cancel | tenantInfo | webhook =>
    dsimp only
    exact List.forall_mem_nil _

/-- Every session that has been asked for is one of the tenant's customer. -/
structure Private (state : ServiceState) : Prop where
  mirrors : Mirrors state.store.database state.store.redis
  own : ∀ asked ∈ state.asked, Own state.store.database asked

theorem private_step {action : ServiceAction} {state next : ServiceState} (identified : Identified action)
    (private' : Private state) (taken : (service verifyApiKey verify).step action state = some next) : Private next := by
  obtain ⟨mirrors, lasts⟩ := kept_step ⟨private'.mirrors, .refl _⟩ taken
  refine ⟨mirrors, ?_⟩
  have earlier : ∀ asked ∈ state.asked, Own next.store.database asked := fun asked member => (private'.own asked member).grow lasts
  cases action with
  | request call =>
    obtain rfl := Option.some.inj taken
    exact List.forall_mem_append.mpr ⟨earlier, call_asked private'.mirrors identified lasts⟩
  | elapse seconds =>
    obtain rfl := Option.some.inj taken
    exact earlier
  | evict key =>
    obtain rfl := Option.some.inj taken
    exact earlier

/-- In every state of a run, each session that has ever been asked for, a checkout or a portal, is of the
customer that the tenant of its request has. -/
theorem sessions_own {store : Store} {schedule : List ServiceAction} (empty : ∀ key, store.redis key = none)
    (identified : ∀ action ∈ schedule, Identified action) :
    (service verifyApiKey verify).Always (fun state => ∀ asked ∈ state.asked, Own state.store.database asked) schedule
      ⟨store, []⟩ := by
  have mirrors : Mirrors store.database store.redis := .initial empty
  have kept : (service verifyApiKey verify).Invariant Identified Private :=
    fun _ _ _ identified private' taken => private_step identified private' taken
  exact (kept.always identified ⟨mirrors, fun _ never => by cases never⟩).imp fun _ private' => private'.own

def portalVisit : List ServiceAction :=
  [.request (.checkout (upgrade "cus_1" "cs_1")), .elapse 60,
    .request (.portal { env := Seed.env 30, credentials := ⟨Seed.tenant.id.str, none⟩, answer := .ok "https://portal" })]

theorem portalVisit_own : (((service unchecked unsigned).run portalVisit ⟨Seed.store, []⟩).map fun state =>
      state.asked.map fun asked => match asked with
        | .checkout _ call => openedFor? call
        | .portal _ call => some (some call.customerId)) = some [none, some (some "cus_1"), some (some "cus_1")] ∧
    (service unchecked unsigned).Always (fun state => ∀ asked ∈ state.asked, Own state.store.database asked) portalVisit
      ⟨Seed.store, []⟩ := by
  refine ⟨by decide, sessions_own (fun _ => rfl) fun action member => ?_⟩
  simp only [portalVisit, List.mem_cons, List.not_mem_nil, or_false] at member
  rcases member with rfl | rfl | rfl
  · rintro customer same
    obtain rfl := Except.ok.inj same
    decide
  · trivial
  · trivial

end MeteringBilling.StripeSessions
