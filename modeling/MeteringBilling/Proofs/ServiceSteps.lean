import MeteringBilling.Library.Leads
import MeteringBilling.Proofs.BillingSteps

/-! What one request to any route does to the stores, whatever fails. -/

namespace MeteringBilling

open Effect

variable {env : Env} {store : Store} {α : Type}

def Drops (before after : Session) : Prop :=
  ∀ key, after.redis key = before.redis key ∨ after.redis key = none ∧ ∃ tenantId, key = subscriptionCacheKey tenantId

instance : Std.Refl Drops := ⟨fun _ _ => Or.inl rfl⟩

instance : IsTrans Session Drops where
  trans first second third one two key := by
    rcases two key with same | lost
    · rw [same]
      exact one key
    · exact Or.inr lost

theorem drops_of_redis {program : Request α} (kept : Keeps Session.redis program) : Leads Drops program :=
  fun env session key => Or.inl (congrFun (kept env session) key)

namespace Drops

theorem statement (place : Statement) (run : Database → Except PyError (α × Database)) :
    Leads Drops (statement place run) := drops_of_redis (statement_keeps (fun _ _ _ => rfl) place run)

theorem scalarOneOrNone (rows : List α) : Leads Drops (scalarOneOrNone rows) := drops_of_redis (scalarOneOrNone_keeps rows)

theorem invalidate (tenantId : UUID) : Leads Drops (invalidateSubscriptionCache tenantId) := by
  intro env session key
  unfold invalidateSubscriptionCache cacheDelete
  dsimp only
  split
  · by_cases same : key = subscriptionCacheKey tenantId
    · exact Or.inr ⟨same ▸ Function.update_self .., tenantId, same⟩
    · exact Or.inl (Function.update_of_ne same ..)
  · exact Or.inl rfl

theorem getByStripeId (id : Option String) : Leads Drops (SubscriptionRepository.getByStripeId id) :=
  .bind (statement _ _) fun rows => scalarOneOrNone rows

theorem getTenant (tenantId : UUID) : Leads Drops (TenantRepository.get tenantId) :=
  .bind (statement _ _) fun rows => scalarOneOrNone rows

theorem update (loaded assigned : Subscription) : Leads Drops (SubscriptionRepository.update loaded assigned) :=
  .bind (.ask _) fun _ => .bind (statement _ _) fun _ => statement _ _

theorem invoice (payload : Invoice) {next : Subscription → Request Unit} (rest : ∀ row, Leads Drops (next row)) :
    Leads Drops (do
      match ← Effect.ofExcept (invoiceSubscription payload) with
      | none => pure ()
      | some subscriptionId => do
        match ← SubscriptionRepository.getByStripeId (some subscriptionId) with
        | none => pure ()
        | some subscription => next subscription) := by
  refine .bind (.ofExcept _) fun own => ?_
  cases own with
  | none => exact .pure ()
  | some id =>
    apply Leads.bind (getByStripeId _)
    intro row
    cases row with
    | none => exact .pure ()
    | some row => exact rest row

theorem subscriptionCreated (subscription : StripeSubscription) : Leads Drops (handleSubscriptionCreated subscription) := by
  apply Leads.bind (getByStripeId _)
  intro row
  cases row with
  | some row => exact .bind (.ofExcept _) fun _ => .bind (update _ _) fun _ => invalidate _
  | none =>
    refine .bind (.ask _) fun _ => .bind (.ask _) fun _ => .bind (.ask _) fun _ => .bind (.ofExcept _) fun row => ?_
    cases row with
    | none => exact statement _ _
    | some row => exact .bind (.bind (statement _ _) fun _ => statement _ _) fun _ => invalidate _

theorem subscriptionUpdated (subscription : StripeSubscription) : Leads Drops (handleSubscriptionUpdated subscription) := by
  apply Leads.bind (getByStripeId _)
  intro row
  cases row with
  | none => exact .pure ()
  | some row => exact .bind (.ask _) fun _ => .bind (.ofExcept _) fun _ => .bind (update _ _) fun _ => invalidate _

theorem subscriptionDeleted (subscription : StripeSubscription) : Leads Drops (handleSubscriptionDeleted subscription) := by
  apply Leads.bind (getByStripeId _)
  intro row
  cases row with
  | none => exact .pure ()
  | some row =>
    refine .bind ?_ fun _ => .bind (update _ _) fun _ => invalidate _
    unfold cancellationTime
    cases canceledAtSeconds subscription with
    | some seconds => exact .ofExcept _
    | none => exact .bind (.ask _) fun _ => .pure _

theorem createNewTenantFromCheckout : Leads Drops createNewTenantFromCheckout := by
  refine .bind (.ask _) fun customer => ?_
  cases customer with
  | error message => exact .raise _
  | ok customer =>
    refine .bind (.ask _) fun _ => ?_
    cases customer.email with
    | none => exact statement _ _
    | some email =>
      exact .bind (.ask _) fun _ => .bind (.ask _) fun _ => .bind (statement _ _) fun _ => .bind (statement _ _) fun _ => .pure _

theorem checkoutCompleted (checkout : CheckoutSession) : Leads Drops (handleCheckoutCompleted checkout) := by
  refine .bind ?_ fun tenantId => ?_
  · refine .bind (.ofExcept _) fun named => ?_
    cases named with
    | none => exact .bind createNewTenantFromCheckout fun _ => .pure _
    | some text =>
      dsimp only
      cases UUID.parse? text with
      | none => exact .pure _
      | some tenantId => exact .bind (getTenant _) fun _ => .pure _
  · cases tenantId with
    | none => exact .pure ()
    | some tenantId =>
      refine .bind (.bind (getByStripeId _) fun _ => .bind (.ask _) fun _ => .bind (.ask _) fun _ => ?_) fun _ => invalidate _
      exact .bind (.ask _) fun _ => .bind (.ask _) fun _ => .bind (.ask _) fun _ => statement _ _

theorem processStripeEvent (data : EventData) : Leads Drops (processStripeEvent data) := by
  cases data with
  | checkoutCompleted checkout => exact checkoutCompleted checkout
  | paymentSucceeded payload =>
    exact invoice payload fun row => .bind (update _ _) fun _ => .bind (invalidate _) fun _ => .bind (getTenant _) fun _ => .pure ()
  | paymentFailed payload => exact invoice payload fun row => .bind (update _ _) fun _ => invalidate _
  | subscriptionCreated subscription => exact subscriptionCreated subscription
  | subscriptionUpdated subscription => exact subscriptionUpdated subscription
  | subscriptionDeleted subscription => exact subscriptionDeleted subscription
  | subscriptionTrialWillEnd subscription => exact .bind (.ofExcept _) fun _ => .bind (.ofExcept _) fun _ => .pure ()
  | invoiceUpcoming payload => exact .bind (.ofExcept _) fun _ => .bind (.ofExcept _) fun _ => .pure ()
  | unhandled type => exact .pure ()

theorem handleStripeEvent (event : StripeEvent) : Leads Drops (handleStripeEvent event) := by
  refine .bind (.bind (statement _ _) fun _ => .bind (scalarOneOrNone _) fun _ => .pure _) fun processed => ?_
  split
  · exact .pure _
  · refine .handle (.bind (processStripeEvent _) fun _ => .bind (drops_of_redis (markProcessed_redis event)) fun _ => ?_) fun _ => ?_
    · exact .pure _
    · exact .raise _

end Drops

/-- A webhook without a valid signature does nothing; with one, its event is delivered. -/
theorem webhook_cases (verify : List UInt8 → String → Except PyError StripeEvent) (payload : List UInt8)
    (sigHeader : Option String) (env : Env) (store : Store) :
    (serve (stripeWebhook verify payload sigHeader) env store).2 = store ∨
      ∃ header event, sigHeader = some header ∧ verify payload header = .ok event ∧
        serve (stripeWebhook verify payload sigHeader) env store =
          ((Delivery.mk env event).reply store, (Delivery.mk env event).after store) := by
  have refused (exc : PyError) : (serve (Effect.raise exc : Request WebhookStatus) env store).2 = store := rfl
  unfold stripeWebhook
  cases sent : sigHeader.filter (· ≠ "") with
  | none => exact Or.inl (refused _)
  | some header =>
    dsimp only
    cases verified : verify payload header with
    | ok event => exact Or.inr ⟨header, event, (Option.filter_eq_some_iff.mp sent).1, verified, rfl⟩
    | error exc => cases exc <;> exact Or.inl (refused _)

theorem delivered_drops (delivery : Delivery) (store : Store) (key : String) :
    (delivery.after store).redis key = store.redis key ∨
      (delivery.after store).redis key = none ∧ ∃ tenantId, key = subscriptionCacheKey tenantId := by
  rcases ran : handleStripeEvent delivery.event delivery.env store.open with ⟨reply, after⟩
  have led := Drops.handleStripeEvent delivery.event delivery.env store.open key
  rw [ran] at led
  rw [Delivery.after, serve_redis ran]
  exact led

/-- What a request can do to the tables. -/
inductive Alters (verify : List UInt8 → String → Except PyError StripeEvent) (call : Call) (before : Database) :
    Database → Prop
  | kept : Alters verify call before before
  | recorded {incoming : ApiRequest} {metered : MeterCall} {cost : Int} (asked : call = .api incoming)
      (named : UUID.parse? incoming.credentials.xTenantId = some metered.tenantId)
      (endpoint : incoming.endpoint = .meter metered.idempotencyKey metered.request metered.reqIp metered.userAgent)
      (inserts : metered.record.Inserts incoming.env before cost) :
      Alters verify call before { before with usageEvents := before.usageEvents.add _ inserts.fits }
  | delivered {env : Env} {payload : List UInt8} {header : String} {event : StripeEvent} {after : Database}
      (asked : call = .webhook env payload (some header)) (verified : verify payload header = .ok event)
      (unmarked : before.processedRows event.id = []) (applied : event.applied? env before = some after) :
      Alters verify call before after
  | enlisted {checkout : CheckoutCall} {tenantId : UUID} {after : Database} (asked : call = .checkout checkout)
      (named : UUID.parse? checkout.credentials.xTenantId = some tenantId)
      (enlists : Enlists tenantId checkout.answers before after) : Alters verify call before after

inductive Leaves (verifyApiKey : String → String → Bool) (call : Call) (store : Store) : String → CacheEntry → Prop
  | tenant {row : Tenant} (member : row ∈ store.database.tenants) :
      Leaves verifyApiKey call store (tenantCacheKey row.id) ⟨row.cacheData, tenantCacheTtl⟩
  | stored {incoming : ApiRequest} {key : String} {entry : CacheEntry} (asked : call = .api incoming)
      (stores : Stores verifyApiKey incoming store key entry) : Leaves verifyApiKey call store key entry

/-- What becomes of a key of Redis. -/
def Turns (verifyApiKey : String → String → Bool) (call : Call) (store : Store) (redis : Redis) (key : String) : Prop :=
  redis key = store.redis key ∨ (redis key = none ∧ ∃ tenantId, key = subscriptionCacheKey tenantId) ∨
    ∃ entry, redis key = some entry ∧ Leaves verifyApiKey call store key entry

variable {verifyApiKey : String → String → Bool} {verify : List UInt8 → String → Except PyError StripeEvent}

theorem handed_turns {tenantId : UUID} {tenant : CurrentTenant} {redis : Redis} (handed : Handed env store tenantId tenant redis)
    (call : Call) (key : String) : Turns verifyApiKey call store redis key := by
  cases handed with
  | cached hit built => exact Or.inl rfl
  | @stored row _ found kept =>
    rcases kept with rfl | rfl
    · exact Or.inl rfl
    · rcases update_cases store.redis (tenantCacheKey row.id) ⟨row.cacheData, tenantCacheTtl⟩ key with same | ⟨rfl, same⟩
      · exact Or.inl same
      · exact Or.inr (Or.inr ⟨_, same, .tenant (Table.find?_mem found).1⟩)

structure Changes (verifyApiKey : String → String → Bool) (verify : List UInt8 → String → Except PyError StripeEvent)
    (call : Call) (store after : Store) : Prop where
  database : Alters verify call store.database after.database
  redis : ∀ key, Turns verifyApiKey call store after.redis key

theorem changes_nothing (call : Call) : Changes verifyApiKey verify call store store := ⟨.kept, fun _ => Or.inl rfl⟩

theorem changes_read {call : Call} {credentials : Credentials} {after : Store}
    (reads : after = store ∨ ∃ tenantId tenant redis, UUID.parse? credentials.xTenantId = some tenantId ∧
      Handed env store tenantId tenant redis ∧ after = ⟨store.database, redis⟩) :
    Changes verifyApiKey verify call store after := by
  rcases reads with rfl | ⟨tenantId, tenant, redis, _, handed, rfl⟩
  · exact changes_nothing call
  · exact ⟨.kept, handed_turns handed call⟩

theorem changes_api (incoming : ApiRequest) (honest : Honest store.redis) :
    Changes verifyApiKey verify (.api incoming) store (incoming.serve verifyApiKey store).2 := by
  constructor
  · rcases serve_cases verifyApiKey incoming honest with same | ⟨tenantId, redis, named, _, served⟩
    · rw [same]
      exact .kept
    · rw [served]
      unfold Endpoint.serve
      cases endpoint : incoming.endpoint with
      | meter idempotencyKey request reqIp userAgent =>
        rcases metered_rows (meterCall idempotencyKey request reqIp userAgent tenantId) incoming.env
          ⟨store.database, redis⟩ with same | ⟨cost, inserts, final⟩
        · dsimp only
          rw [same]
          exact .kept
        · dsimp only
          rw [final]
          exact .recorded rfl named endpoint inserts
      | usage =>
        obtain ⟨same, _⟩ := reported_cases tenantId incoming.env ⟨store.database, redis⟩
        dsimp only
        rw [same]
        exact .kept
  · intro key
    rcases serve_entry verifyApiKey incoming honest key with same | ⟨entry, found, stores⟩
    · exact Or.inl same
    · exact Or.inr (Or.inr ⟨entry, found, .stored rfl stores⟩)

theorem changes_checkout (checkout : CheckoutCall) (store : Store) :
    Changes verifyApiKey verify (.checkout checkout) store (checkout.serve verifyApiKey store).2.1 := by
  rcases checkout_cases verifyApiKey checkout store with same | ⟨tenantId, tenant, redis, named, handed, kept, database, _⟩
  · rw [same]
    exact changes_nothing _
  · constructor
    · rcases database with same | enlists
      · rw [same]
        exact .kept
      · exact .enlisted rfl named enlists
    · rw [kept]
      exact handed_turns handed _

theorem changes_portal (portal : PortalCall) (store : Store) :
    Changes verifyApiKey verify (.portal portal) store (portal.serve verifyApiKey store).2.1 := by
  rcases portal_cases verifyApiKey portal store with same | ⟨tenantId, tenant, redis, named, handed, same, _⟩
  · rw [same]
    exact changes_nothing _
  · exact changes_read (Or.inr ⟨tenantId, tenant, redis, named, handed, same⟩)

theorem changes_webhook (payload : List UInt8) (sigHeader : Option String) (env : Env) (store : Store) :
    Changes verifyApiKey verify (.webhook env payload sigHeader) store
      (serve (stripeWebhook verify payload sigHeader) env store).2 := by
  rcases webhook_cases verify payload sigHeader env store with same | ⟨header, event, rfl, verified, served⟩
  · rw [same]
    exact changes_nothing _
  · rw [served]
    constructor
    · rcases delivered_cases ⟨env, event⟩ store with ⟨same, _⟩ | ⟨unmarked, applied⟩
      · rw [same]
        exact .kept
      · exact .delivered rfl verified unmarked applied
    · exact fun key => (delivered_drops ⟨env, event⟩ store key).imp_right Or.inl

/-- Every request, whatever fails. -/
theorem call_changes (call : Call) (honest : Honest store.redis) :
    Changes verifyApiKey verify call store (call.serve verifyApiKey verify store).2.1 := by
  unfold Call.serve
  cases call with
  | api incoming =>
    dsimp only
    exact changes_api incoming honest
  | checkout checkout =>
    dsimp only
    exact changes_checkout checkout store
  | portal portal =>
    dsimp only
    exact changes_portal portal store
  | cancel env credentials =>
    have reads := @cancel_cases verifyApiKey credentials env store
    dsimp only at reads ⊢
    exact changes_read reads
  | tenantInfo env credentials =>
    have reads := @tenantInfo_cases verifyApiKey credentials env store
    dsimp only at reads ⊢
    exact changes_read reads
  | webhook env payload sigHeader =>
    dsimp only
    exact changes_webhook payload sigHeader env store

end MeteringBilling
