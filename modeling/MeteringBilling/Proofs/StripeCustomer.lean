import MeteringBilling.CheckoutApi
import MeteringBilling.Proofs.Requests
import MeteringBilling.Seed

/-! The Stripe customer of a tenant over checkouts in turn: one, unless a checkout is handed a
tenant that was cached before it had one. -/

namespace MeteringBilling.StripeCustomer

open Effect

def Lacking (customerId : Option String) : Prop := customerId.filter (· ≠ "") = none

instance (customerId : Option String) : Decidable (Lacking customerId) := inferInstanceAs (Decidable (_ = none))

def creates : StripeCall → Bool
  | .createCustomer _ _ => true
  | .createCheckoutSession _ _ _ _ _ _ => false

def openedFor? : StripeCall → Option (Option String)
  | .createCustomer _ _ => none
  | .createCheckoutSession customerId _ _ _ _ _ => some customerId

def Stored (tenantId : UUID) (customerId : Option String) (database : Database) : Prop :=
  customerId ≠ none ∧ ∃ row ∈ database.tenants.rows, row.id = tenantId ∧ row.stripeCustomerId = customerId

/-- At most one customer has been created, and every session was opened for the one the tenant has. -/
def OneCustomer (tenantId : UUID) (state : CheckoutState) : Prop :=
  state.calls.countP creates ≤ 1 ∧
    ∀ call ∈ state.calls, ∀ customerId, openedFor? call = some customerId →
      Stored tenantId customerId state.store.database

section

variable (verifyApiKey : String → String → Bool)

/-- The request is accepted for a tenant found in the cache, without a customer. -/
def HandedStale (call : CheckoutCall) (store : Store) : Prop :=
  ∃ tenantId cached tenant, UUID.parse? call.credentials.xTenantId = some tenantId ∧
    (call.env.cachedTenant? tenantId store.redis).filter Json.truthy = some cached ∧ tenantOfCache cached = .ok tenant ∧
    checkApiKey verifyApiKey call.credentials.xApiKey tenant.apiKeyHash = .ok () ∧ Lacking tenant.stripeCustomerId

def Stale : CheckoutAction → CheckoutState → Prop
  | .checkout call, state => HandedStale verifyApiKey call state.store
  | .other _, _ => False

end

/-- The checkouts are the tenant's, and the database works. -/
def Plain (tenantId : UUID) : CheckoutAction → Prop
  | .checkout call => call.env.Quiet ∧ UUID.parse? call.credentials.xTenantId = some tenantId
  | .other _ => True

variable {verifyApiKey : String → String → Bool} {credentials : Credentials} {env : Env} {tenantId : UUID}
  {session : Session} {state : StripeSession} {store : Store} {call : CheckoutCall} {database : Database} {row : Tenant}
  {customerId : String}

theorem onDatabase_apply {α : Type} (program : Request α) (env : Env) (state : StripeSession) :
    onDatabase program env state =
      ((program env state.session).1, { state with session := (program env state.session).2 }) := rfl

theorem onDatabase_ok {α : Type} {program : Request α} {value : α} {after : Session}
    (returned : program env state.session = (.ok value, after)) :
    onDatabase program env state = (.ok value, { state with session := after }) := by
  rw [onDatabase_apply, returned]

theorem askStripe_ok {α : Type} (asked : StripeCall) (value : α) (env : Env) (state : StripeSession) :
    askStripe asked (.ok value) env state = (.ok value, { state with calls := state.calls ++ [asked] }) := rfl

theorem openSession_cases (asked : StripeCall) (answer : Except String CreatedSession) (env : Env) (state : StripeSession) :
    ∃ reply, Effect.handle (do
        let session ← askStripe asked answer
        pure (⟨session.id, session.url⟩ : CheckoutReply)) (fun _ => Effect.raise checkoutFailed) env state =
      (reply, { state with calls := state.calls ++ [asked] }) := by
  cases answer with
  | ok session => exact ⟨.ok ⟨session.id, session.url⟩, rfl⟩
  | error message => exact ⟨.error checkoutFailed, rfl⟩

theorem planTier_known (request : CheckoutRequest) : ¬ request.planTier ∉ ["free", "pro"] := by
  rcases request.valid with free | pro
  · simp [free]
  · simp [pro]

theorem createCheckoutSession_cases {tenant : CurrentTenant} {authenticated : Session}
    (accepted : getCurrentTenant verifyApiKey call.credentials call.env session = (.ok tenant, authenticated))
    {current : CurrentTenant} {after : StripeSession}
    (ensured : ensureCustomer tenant call.answers call.env ⟨authenticated, []⟩ = (.ok current, after)) :
    ∃ reply, createCheckoutSession verifyApiKey call.credentials call.request call.answers call.env ⟨session, []⟩ =
      (reply, { after with calls := after.calls ++ [call.request.call call.env.settings current] }) := by
  obtain ⟨reply, opened⟩ := openSession_cases (call.request.call call.env.settings current) call.answers.session
    call.env after
  refine ⟨reply, ?_⟩
  rw [createCheckoutSession, bind_ok (onDatabase_ok accepted), if_neg (planTier_known call.request), bind_ok ensured,
    bind_ok (ask_apply _ _ _), opened]

theorem ensureCustomer_held {tenant : CurrentTenant} (held : ¬ Lacking tenant.stripeCustomerId) (answers : StripeAnswers)
    (env : Env) (state : StripeSession) : ensureCustomer tenant answers env state = (.ok tenant, state) := by
  obtain ⟨customerId, present⟩ := Option.ne_none_iff_exists'.mp held
  rw [ensureCustomer, present]
  rfl

theorem updateTenant_fresh (fresh : ∀ row ∈ database.tenants.rows, row.stripeCustomerId ≠ some customerId)
    (tenantId : UUID) : ∃ tenants, database.updateTenant tenantId customerId = .ok { database with tenants } ∧
      ∀ other, Table.find? tenants (·.id == other) = (database.tenant? other).map fun row =>
        if row.id == tenantId then { row with stripeCustomerId := some customerId } else row := by
  obtain ⟨tenants, rewritten⟩ : ∃ tenants, database.tenants.rewrite? (·.id == tenantId)
      (fun row => { row with stripeCustomerId := some customerId }) = some tenants := by
    apply Table.rewrite?_ok
    have sameId (row : Tenant) : (if row.id == tenantId then { row with stripeCustomerId := some customerId } else row).id =
        row.id := by
      split <;> rfl
    have assigned (row : Tenant) : (if row.id == tenantId then { row with stripeCustomerId := some customerId }
        else row).stripeCustomerId = if row.id = tenantId then some customerId else row.stripeCustomerId := by
      by_cases own : row.id = tenantId <;> simp [own]
    intro first left second right apart clash
    rcases clash with same | ⟨present, same⟩
    · rw [sameId, sameId] at same
      exact apart (Or.inl same)
    · rw [assigned] at present
      rw [assigned, assigned] at same
      by_cases one : first.id = tenantId <;> by_cases two : second.id = tenantId
      · exact apart (Or.inl (one.trans two.symm))
      · rw [if_pos one, if_neg two] at same
        exact fresh second right same.symm
      · rw [if_neg one, if_pos two] at same
        exact fresh first left same
      · rw [if_neg one] at present same
        rw [if_neg two] at same
        exact apart (Or.inr ⟨present, same⟩)
  refine ⟨tenants, by rw [Database.updateTenant, rewritten], fun other => ?_⟩
  exact Table.find?_rewrite rewritten fun _ => rfl

def withCustomer (row : Tenant) (customerId : String) : Tenant := { row with stripeCustomerId := some customerId }

theorem ensureCustomer_created {customer : Customer} {answers : StripeAnswers} (quiet : env.Quiet)
    (live : session.aborted = false) (found : session.working.tenant? row.id = some row)
    (lacking : Lacking row.stripeCustomerId) (answered : answers.customer = .ok customer)
    (fresh : ∀ row ∈ session.working.tenants.rows, row.stripeCustomerId ≠ some customer.id) (calls : List StripeCall) :
    ∃ tenants, (∀ other, Table.find? tenants (·.id == other) = (session.working.tenant? other).map fun stored =>
        if stored.id == row.id then withCustomer stored customer.id else stored) ∧
      ensureCustomer row.current answers env ⟨session, calls⟩ = (.ok (withCustomer row customer.id).current,
        ⟨{ session with committed := { session.working with tenants }, working := { session.working with tenants } },
          calls ++ [.createCustomer row.email row.id.str]⟩) := by
  obtain ⟨tenants, updated, finds⟩ := updateTenant_fresh fresh row.id
  refine ⟨tenants, finds, ?_⟩
  have committed : commitCustomer row.current customer.id env session = (.ok (),
      { session with committed := { session.working with tenants }, working := { session.working with tenants } }) := by
    unfold commitCustomer
    dsimp only [Tenant.current]
    rw [bind_ok (execute_ok quiet live _ updated), commit_quiet quiet (by exact live)]
  have stored : Database.tenant? { session.working with tenants } row.id = some (withCustomer row customer.id) := by
    rw [Database.tenant?, finds, found, Option.map_some, if_pos (beq_self_eq_true _)]
    rfl
  have refreshed (after : Session) (alive : after.aborted = false) (working : after.working = { session.working with tenants }) :
      refreshTenant row.current env after = (.ok (withCustomer row customer.id).current, after) := by
    unfold refreshTenant
    dsimp only [Tenant.current]
    rw [bind_ok (query_quiet quiet alive _ _), working, selectTenants_eq, stored, bind_ok (scalarOneOrNone_toList _)]
    rfl
  have unset : row.current.stripeCustomerId.filter (· ≠ "") = none := lacking
  rw [ensureCustomer, unset, answered]
  dsimp only
  rw [bind_ok (askStripe_ok _ _ _ _), bind_ok (onDatabase_ok (by exact committed))]
  exact onDatabase_ok (refreshed _ live rfl)

theorem serve_settled {reply : Except PyError CheckoutReply} {after : StripeSession} (quiet : call.env.Quiet)
    (ran : createCheckoutSession verifyApiKey call.credentials call.request call.answers call.env ⟨store.open, []⟩ =
      (reply, after)) (live : after.session.aborted = false) (settled : after.session.working = after.session.committed) :
    call.serve verifyApiKey store = (reply, ⟨after.session.committed, after.session.redis⟩, after.calls) := by
  cases reply with
  | ok value => simp only [CheckoutCall.serve, ran, getDb, Except.map, handle, commit_quiet quiet live, settled]
  | error exc => simp only [CheckoutCall.serve, ran, getDb, Except.map, rollback, bind_apply, modify_apply, raise_apply]

theorem serve_rejected {exc : PyError} {after : Session}
    (rejected : getCurrentTenant verifyApiKey call.credentials call.env store.open = (.error exc, after))
    (kept : after.saved = store.open.saved) : call.serve verifyApiKey store = (.error exc, store, []) := by
  obtain ⟨committed, redis⟩ := Prod.mk.inj kept
  have ran : createCheckoutSession verifyApiKey call.credentials call.request call.answers call.env ⟨store.open, []⟩ =
      (.error exc, ⟨after, []⟩) := by
    rw [createCheckoutSession, bind_error]
    rw [onDatabase_apply, rejected]
  simp only [CheckoutCall.serve, ran, getDb, Except.map, rollback, bind_apply, modify_apply, raise_apply, committed, redis]
  rfl

theorem serve_held {tenant : CurrentTenant} {redis : Redis} (quiet : call.env.Quiet)
    (accepted : getCurrentTenant verifyApiKey call.credentials call.env store.open = (.ok tenant, { store.open with redis }))
    (held : ¬ Lacking tenant.stripeCustomerId) : ∃ reply, call.serve verifyApiKey store =
      (reply, ⟨store.database, redis⟩, [call.request.call call.env.settings tenant]) := by
  obtain ⟨reply, ran⟩ := createCheckoutSession_cases accepted (ensureCustomer_held held _ _ _)
  exact ⟨reply, serve_settled quiet ran rfl rfl⟩

theorem serve_created {redis : Redis} {customer : Customer} (quiet : call.env.Quiet)
    (accepted : getCurrentTenant verifyApiKey call.credentials call.env store.open =
      (.ok row.current, { store.open with redis }))
    (found : store.database.tenant? row.id = some row) (lacking : Lacking row.stripeCustomerId)
    (answered : call.answers.customer = .ok customer)
    (fresh : ∀ row ∈ store.database.tenants.rows, row.stripeCustomerId ≠ some customer.id) :
    ∃ reply tenants, (∀ other, Table.find? tenants (·.id == other) = (store.database.tenant? other).map fun stored =>
        if stored.id == row.id then withCustomer stored customer.id else stored) ∧
      call.serve verifyApiKey store = (reply, ⟨{ store.database with tenants }, redis⟩,
        [.createCustomer row.email row.id.str, call.request.call call.env.settings (withCustomer row customer.id).current]) := by
  obtain ⟨tenants, finds, ensured⟩ :=
    @ensureCustomer_created call.env { store.open with redis } row customer call.answers quiet rfl found lacking answered fresh []
  obtain ⟨reply, ran⟩ := createCheckoutSession_cases accepted ensured
  exact ⟨reply, tenants, finds, serve_settled quiet ran rfl rfl⟩

/-- What Redis holds of the tenant is from before it had a customer, or names the one it has. -/
def Recent (row : Tenant) (redis : Redis) : Prop :=
  ∀ entry, redis (tenantCacheKey row.id) = some entry →
    ∃ old : Tenant, entry.value = old.cacheData ∧
      (Lacking old.stripeCustomerId ∨ old.stripeCustomerId = row.stripeCustomerId)

/-- Nothing has been asked of Stripe for the tenant, or it has the one customer that sessions were
opened for. -/
def Accounted (row : Tenant) (calls : List StripeCall) : Prop :=
  row.stripeCustomerId = none ∧ calls = [] ∨
    ∃ customerId, customerId ≠ "" ∧ row.stripeCustomerId = some customerId ∧ calls.countP creates ≤ 1 ∧
      ∀ call ∈ calls, ∀ other, openedFor? call = some other → other = some customerId

structure Kept (tenantId : UUID) (state : CheckoutState) : Prop where
  honest : Honest state.store.redis
  row : ∃ row, state.store.database.tenant? tenantId = some row ∧ Recent row state.store.redis ∧ Accounted row state.calls

theorem lacking_none : Lacking none := rfl

theorem not_lacking {customerId : String} (present : customerId ≠ "") : ¬ Lacking (some customerId) := by
  simp [Lacking, present]

theorem honest_cached {redis : Redis} (honest : Honest redis) (row : Tenant) : Honest (cachedTenant row redis) := by
  intro tenantId entry held
  rcases update_cases redis (tenantCacheKey row.id) ⟨row.cacheData, tenantCacheTtl⟩ (tenantCacheKey tenantId) with
    same | ⟨own, same⟩
  · exact honest tenantId entry (same.symm.trans held)
  · obtain rfl := Option.some.inj (held.symm.trans same)
    exact ⟨row, (tenantCacheKey_injective own).symm, rfl⟩

theorem recent_cached (row : Tenant) (redis : Redis) : Recent row (cachedTenant row redis) := by
  intro entry held
  rw [cachedTenant, Function.update_self] at held
  obtain rfl := Option.some.inj held
  exact ⟨row, rfl, Or.inr rfl⟩

theorem recent_withCustomer {redis : Redis} (recent : Recent row redis) (lacking : Lacking row.stripeCustomerId)
    (customerId : String) : Recent (withCustomer row customerId) redis := by
  intro entry held
  obtain ⟨old, same, lacks | equal⟩ := recent entry held
  · exact ⟨old, same, Or.inl lacks⟩
  · exact ⟨old, same, Or.inl (equal ▸ lacking)⟩

theorem Kept.oneCustomer {state : CheckoutState} (kept : Kept tenantId state) : OneCustomer tenantId state := by
  obtain ⟨row, found, _, ⟨_, nothing⟩ | ⟨customerId, _, stored, few, opened⟩⟩ := kept.row
  · rw [OneCustomer, nothing]
    exact ⟨Nat.zero_le 1, fun _ member => absurd member List.not_mem_nil⟩
  · refine ⟨few, fun call member other same => ?_⟩
    obtain ⟨present, own⟩ := Table.find?_mem found
    rw [opened call member other same]
    exact ⟨Option.some_ne_none _, row, present, eq_of_beq own, stored⟩

theorem Accounted.opens {calls : List StripeCall} (accounted : Accounted row calls) (held : ¬ Lacking row.stripeCustomerId)
    (request : CheckoutRequest) (settings : Settings) {tenant : CurrentTenant}
    (same : tenant.stripeCustomerId = row.stripeCustomerId) : Accounted row (calls ++ [request.call settings tenant]) := by
  obtain ⟨none, _⟩ | ⟨customerId, present, stored, few, opened⟩ := accounted
  · exact absurd (none ▸ lacking_none) held
  · refine Or.inr ⟨customerId, present, stored, ?_, ?_⟩
    · rw [List.countP_append]
      exact few
    · intro call member other equal
      rcases List.mem_append.mp member with before | last
      · exact opened call before other equal
      · obtain rfl := List.mem_singleton.mp last
        exact (Option.some.inj equal).symm.trans (same.trans stored)

theorem Accounted.creates {calls : List StripeCall} (accounted : Accounted row calls) (lacking : Lacking row.stripeCustomerId)
    (present : customerId ≠ "") (email tenantId : String) (request : CheckoutRequest) (settings : Settings) :
    Accounted (withCustomer row customerId) (calls ++
      [.createCustomer email tenantId, request.call settings (withCustomer row customerId).current]) := by
  obtain ⟨_, rfl⟩ | ⟨other, filled, stored, _⟩ := accounted
  · refine Or.inr ⟨customerId, present, rfl, le_refl 1, fun call member other same => ?_⟩
    rcases List.mem_cons.mp member with rfl | last
    · cases same
    · obtain rfl := List.mem_singleton.mp last
      exact (Option.some.inj same).symm
  · exact absurd (stored ▸ lacking) (not_lacking filled)

theorem Recent.handed {redis : Redis} {cached : Json} {tenant : CurrentTenant} (recent : Recent row redis)
    (hit : (env.cachedTenant? row.id redis).filter Json.truthy = some cached) (built : tenantOfCache cached = .ok tenant)
    (held : ¬ Lacking tenant.stripeCustomerId) : tenant.stripeCustomerId = row.stripeCustomerId := by
  obtain ⟨entry, stored, rfl⟩ := cachedTenant?_entry (Option.filter_eq_some_iff.mp hit).1
  obtain ⟨old, same, lacks | equal⟩ := recent entry stored
  all_goals
    rw [same, tenantOfCache_cacheData] at built
    obtain rfl := Except.ok.inj built
  · exact absurd lacks held
  · exact equal

section

variable {state : CheckoutState} {redis : Redis} (quiet : call.env.Quiet)
  (found : state.store.database.tenant? row.id = some row) (honest : Honest redis) (recent : Recent row redis)
  (accounted : Accounted row state.calls)

include quiet found honest recent accounted

theorem kept_held {tenant : CurrentTenant} (accepted : getCurrentTenant verifyApiKey call.credentials call.env
      state.store.open = (.ok tenant, { state.store.open with redis })) (held : ¬ Lacking tenant.stripeCustomerId)
    (same : tenant.stripeCustomerId = row.stripeCustomerId) : Kept row.id (state.served verifyApiKey call) := by
  obtain ⟨reply, served⟩ := serve_held quiet accepted held
  rw [CheckoutState.served, served]
  exact ⟨honest, row, found, recent, accounted.opens (same ▸ held) _ _ same⟩

theorem kept_created (accepted : getCurrentTenant verifyApiKey call.credentials call.env state.store.open =
      (.ok row.current, { state.store.open with redis })) (lacking : Lacking row.stripeCustomerId)
    (answered : call.Answered state.store) : Kept row.id (state.served verifyApiKey call) := by
  unfold CheckoutCall.Answered at answered
  cases customers : call.answers.customer with
  | error message =>
    rw [customers] at answered
    exact answered.elim
  | ok customer =>
    rw [customers] at answered
    obtain ⟨reply, tenants, finds, served⟩ := serve_created quiet accepted found lacking customers answered.2
    rw [CheckoutState.served, served]
    refine ⟨honest, withCustomer row customer.id, ?_, recent_withCustomer recent lacking customer.id, ?_⟩
    · rw [Database.tenant?, finds, found, Option.map_some, if_pos (beq_self_eq_true _)]
    · exact accounted.creates lacking answered.1 _ _ _ _

end

theorem kept_checkout {state : CheckoutState} (quiet : call.env.Quiet)
    (named : UUID.parse? call.credentials.xTenantId = some tenantId) (kept : Kept tenantId state)
    (answered : call.Answered state.store) (current : ¬ HandedStale verifyApiKey call state.store) :
    Kept tenantId (state.served verifyApiKey call) := by
  obtain ⟨honest, row, found, recent, accounted⟩ := kept
  obtain rfl := eq_of_beq (Table.find?_mem found).2
  rcases ran : getCurrentTenant verifyApiKey call.credentials call.env state.store.open with ⟨reply, authenticated⟩
  rcases getCurrentTenant_cases named ran with ⟨⟨exc, rfl⟩, same⟩ | ⟨cached, tenant, hit, built, checked, rfl, rfl⟩ |
    ⟨stored, loaded, rfl, same⟩
  · rw [CheckoutState.served, serve_rejected ran same]
    exact ⟨honest, row, found, recent, by simpa using accounted⟩
  · have held : ¬ Lacking tenant.stripeCustomerId := fun lacking =>
      current ⟨row.id, cached, tenant, named, hit, built, checked, lacking⟩
    exact kept_held quiet found honest recent accounted ran held (recent.handed hit built held)
  · obtain rfl : stored = row := Option.some.inj (loaded.symm.trans found)
    obtain ⟨redis, rfl, trusted, seen⟩ : ∃ redis, authenticated = { state.store.open with redis } ∧ Honest redis ∧
        Recent stored redis := by
      rcases same with rfl | rfl
      · exact ⟨_, rfl, honest, recent⟩
      · exact ⟨_, rfl, honest_cached honest stored, recent_cached stored _⟩
    by_cases lacking : Lacking stored.stripeCustomerId
    · exact kept_created quiet found trusted seen accounted ran lacking answered
    · exact kept_held quiet found trusted seen accounted ran lacking rfl

theorem kept_request {state : CheckoutState} (kept : Kept tenantId state) (incoming : ApiRequest) :
    Kept tenantId { state with store := (incoming.serve verifyApiKey state.store).2 } := by
  obtain ⟨honest, row, found, recent, accounted⟩ := kept
  obtain rfl := eq_of_beq (Table.find?_mem found).2
  have tenants : (incoming.serve verifyApiKey state.store).2.database.tenants = state.store.database.tenants := by
    rcases serve_rows verifyApiKey incoming honest with same | ⟨event, fits, _, _, same⟩
    · rw [same]
    · rw [same]
  refine ⟨honest_after verifyApiKey incoming honest, row, ?_, fun entry held => ?_, accounted⟩
  · rw [Database.tenant?, tenants]
    exact found
  · rcases serve_entry verifyApiKey incoming honest (tenantCacheKey row.id) with same | ⟨stored, placed, stores⟩
    · exact recent entry (same.symm.trans held)
    · obtain rfl := Option.some.inj (held.symm.trans placed)
      generalize place : tenantCacheKey row.id = key at stores
      cases stores with
      | tenant named member =>
        have own := tenantCacheKey_injective place
        exact ⟨_, rfl, Or.inr (by rw [Table.eq_of_clash member (Table.find?_mem found).1 (Or.inl own.symm)])⟩
      | report => exact (usageCacheKey_ne_tenant _ _ _ place.symm).elim
      | response => exact (idempotencyCacheKey_ne_tenant _ _ place.symm).elim

theorem kept_evict {state : CheckoutState} (kept : Kept tenantId state) (key : String) :
    Kept tenantId { state with store := { state.store with redis := Function.update state.store.redis key none } } := by
  obtain ⟨honest, row, found, recent, accounted⟩ := kept
  refine ⟨honest_evict honest key, row, found, fun entry held => ?_, accounted⟩
  by_cases same : tenantCacheKey row.id = key
  · dsimp only at held
    rw [same, Function.update_self] at held
    cases held
  · dsimp only at held
    rw [Function.update_of_ne same] at held
    exact recent entry held

theorem kept_step {action : CheckoutAction} {state next : CheckoutState} (plain : Plain tenantId action)
    (taken : (checkouts verifyApiKey).step action state = some next) (kept : Kept tenantId state)
    (current : ¬ Stale verifyApiKey action state) : Kept tenantId next := by
  cases action with
  | checkout call =>
    simp only [checkouts] at taken
    split at taken
    · next answered =>
      obtain rfl := Option.some.inj taken
      exact kept_checkout plain.1 plain.2 kept answered current
    · cases taken
  | other action =>
    cases action with
    | request incoming =>
      obtain rfl := Option.some.inj taken
      exact kept_request kept incoming
    | evict key =>
      obtain rfl := Option.some.inj taken
      exact kept_evict kept key

theorem tenantOfCache_text {cached : Json} {tenant : CurrentTenant} (built : tenantOfCache cached = .ok tenant) :
    ∃ value, tenant.id = .text value := by
  unfold tenantOfCache at built
  dsimp only at built
  split at built
  · next found =>
    simp only [Option.bind_eq_bind, Option.bind_eq_some_iff, Option.pure_def, Option.some.injEq] at found
    obtain ⟨_, _, value, _, _, _, _, _, _, _, _, _, _, _, _, _, _, _, _, _, rfl⟩ := found
    obtain rfl := Except.ok.inj built
    exact ⟨value, rfl⟩
  · cases built

/-- A tenant built from the cache gets a customer that is not stored: the refresh rejects it. -/
theorem ensureCustomer_cached {tenant : CurrentTenant} {value : String} (text : tenant.id = .text value)
    (lacking : Lacking tenant.stripeCustomerId) (answers : StripeAnswers) (env : Env) (state : StripeSession) :
    ∃ exc after, ensureCustomer tenant answers env state = (.error exc, after) ∧
      after.calls = state.calls ++ [.createCustomer tenant.email tenant.id.str] := by
  unfold Lacking at lacking
  rw [ensureCustomer, lacking]
  dsimp only
  cases answers.customer with
  | error message =>
    exact ⟨.stripe message, { state with calls := state.calls ++ [.createCustomer tenant.email tenant.id.str] }, rfl, rfl⟩
  | ok customer =>
    rw [bind_ok (askStripe_ok _ _ _ _), bind_apply, onDatabase_apply]
    rcases commitCustomer tenant customer.id env state.session with ⟨exc | _, after⟩
    · exact ⟨exc, ⟨after, state.calls ++ [.createCustomer tenant.email tenant.id.str]⟩, rfl, rfl⟩
    · refine ⟨.invalidRequest "Instance is not persistent within this Session",
        ⟨after, state.calls ++ [.createCustomer tenant.email tenant.id.str]⟩, ?_, rfl⟩
      dsimp only
      rw [onDatabase_apply, refreshTenant, text]
      rfl

theorem stale_creates (stale : HandedStale verifyApiKey call store) :
    ∃ email id, (call.serve verifyApiKey store).2.2 = [.createCustomer email id] := by
  obtain ⟨tenantId, cached, tenant, named, hit, built, checked, lacking⟩ := stale
  have looked : cacheGet (tenantCacheKey tenantId) call.env store.open =
    (.ok (call.env.cachedTenant? tenantId store.redis), store.open) := rfl
  have accepted : getCurrentTenant verifyApiKey call.credentials call.env store.open = (.ok tenant, store.open) := by
    rw [getCurrentTenant, named]
    dsimp only
    rw [bind_ok looked, hit]
    dsimp only
    rw [built, bind_ok (ofExcept_apply _ _ _), checked, bind_ok (ofExcept_apply _ _ _)]
    rfl
  obtain ⟨value, text⟩ := tenantOfCache_text built
  obtain ⟨exc, after, raised, calls⟩ := ensureCustomer_cached text lacking call.answers call.env ⟨store.open, []⟩
  have ran : createCheckoutSession verifyApiKey call.credentials call.request call.answers call.env ⟨store.open, []⟩ =
      (.error exc, after) := by
    rw [createCheckoutSession, bind_ok (onDatabase_ok (by exact accepted)), if_neg (planTier_known call.request),
      bind_error raised]
  exact ⟨tenant.email, tenant.id.str, by simp only [CheckoutCall.serve, ran]; exact calls⟩

theorem stale_breaks {state : CheckoutState} (stale : HandedStale verifyApiKey call state.store)
    (created : 0 < state.calls.countP creates) : ¬ OneCustomer tenantId (state.served verifyApiKey call) := by
  obtain ⟨email, id, asked⟩ := stale_creates stale
  intro one
  have few : (state.calls ++ (call.serve verifyApiKey state.store).2.2).countP creates ≤ 1 := one.1
  have another : [StripeCall.createCustomer email id].countP creates = 1 := rfl
  rw [asked, List.countP_append, another] at few
  omega

/-- A tenant that starts without a customer has one at most, and every session is opened for the
stored one, as long as no checkout is handed a tenant that was cached without a customer. Once there is
a customer, a checkout that is handed such a tenant creates another. -/
theorem one_customer_while_fresh (found : store.database.tenant? tenantId = some row)
    (without : row.stripeCustomerId = none) (honest : Honest store.redis) (recent : Recent row store.redis)
    {actions : List CheckoutAction} (plain : ∀ action ∈ actions, Plain tenantId action) :
    ((checkouts verifyApiKey).Each (fun action state => ¬ Stale verifyApiKey action state) actions ⟨store, []⟩ →
      (checkouts verifyApiKey).Always (OneCustomer tenantId) actions ⟨store, []⟩) ∧
    ∀ (call : CheckoutCall) (state : CheckoutState), HandedStale verifyApiKey call state.store →
      0 < state.calls.countP creates → ¬ OneCustomer tenantId (state.served verifyApiKey call) := by
  refine ⟨fun fresh => ?_, fun _ _ => stale_breaks⟩
  have start : Kept tenantId ⟨store, []⟩ := ⟨honest, row, found, recent, Or.inl ⟨without, rfl⟩⟩
  exact (Machine.always_of_each (fun _ _ _ => kept_step) plain start fresh).imp fun _ kept => kept.oneCustomer

def upgrade (customer session : String) : CheckoutCall where
  env := Seed.env 20
  credentials := ⟨Seed.tenant.id.str, none⟩
  request := ⟨"pro", Or.inr rfl⟩
  answers := ⟨.ok ⟨customer, some "demo@flyrank.test"⟩, .ok ⟨session, none⟩⟩

def unchecked (_plainKey _hash : String) : Bool := false

def twice : List CheckoutAction := [.checkout (upgrade "cus_1" "cs_1"), .checkout (upgrade "cus_2" "cs_2")]

theorem twice_plain : ∀ action ∈ twice, Plain Seed.tenant.id action := by
  intro action member
  rcases List.mem_cons.mp member with rfl | member
  · exact ⟨Seed.env_quiet 20, UUID.parse?_str _⟩
  · obtain rfl := List.mem_singleton.mp member
    exact ⟨Seed.env_quiet 20, UUID.parse?_str _⟩

def afterFirst : CheckoutState := CheckoutState.served unchecked ⟨Seed.store, []⟩ (upgrade "cus_1" "cs_1")

/-- The second checkout finds the tenant as it was cached by the first: it creates another customer,
and fails. -/
theorem second_customer : ((upgrade "cus_1" "cs_1").serve unchecked Seed.store).1 = .ok ⟨"cs_1", none⟩ ∧
    ((upgrade "cus_2" "cs_2").serve unchecked afterFirst.store).1 =
      .error (.invalidRequest "Instance is not persistent within this Session") ∧
    ¬ (checkouts unchecked).Always (OneCustomer Seed.tenant.id) twice ⟨Seed.store, []⟩ := by
  refine ⟨by decide, by decide, fun always => ?_⟩
  have last : OneCustomer Seed.tenant.id (afterFirst.served unchecked (upgrade "cus_2" "cs_2")) :=
    (always.2 _ rfl).2 _ rfl
  exact absurd last.1 (by decide)

theorem one_customer_twice :
    ((checkouts unchecked).Each (fun action state => ¬ Stale unchecked action state) twice ⟨Seed.store, []⟩ →
      (checkouts unchecked).Always (OneCustomer Seed.tenant.id) twice ⟨Seed.store, []⟩) ∧
    ∀ (call : CheckoutCall) (state : CheckoutState), HandedStale unchecked call state.store →
      0 < state.calls.countP creates → ¬ OneCustomer Seed.tenant.id (state.served unchecked call) :=
  one_customer_while_fresh (show Seed.store.database.tenant? Seed.tenant.id = some Seed.tenant from rfl) rfl
    (fun _ _ held => by cases held) (fun _ held => by cases held) twice_plain

end MeteringBilling.StripeCustomer
