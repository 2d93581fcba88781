import MeteringBilling.Proofs.Deliveries
import MeteringBilling.Proofs.StripeCustomer
import MeteringBilling.Service

/-! What the billing routes do to the stores, whatever fails: they cache the tenant, and a checkout
may give it a customer. -/

namespace MeteringBilling

open Effect StripeCustomer

variable {verifyApiKey : String → String → Bool} {credentials : Credentials} {env : Env} {store : Store}
  {tenantId : UUID} {tenant : CurrentTenant} {redis : Redis} {session : Session} {answers : StripeAnswers}

/-- The tenant that authentication hands to a route: one from the cache, or the stored one, which it
may have cached. -/
inductive Handed (env : Env) (store : Store) (tenantId : UUID) : CurrentTenant → Redis → Prop
  | cached {cached : Json} {tenant : CurrentTenant}
      (hit : (env.cachedTenant? tenantId store.redis).filter Json.truthy = some cached)
      (built : tenantOfCache cached = .ok tenant) : Handed env store tenantId tenant store.redis
  | stored {row : Tenant} {redis : Redis} (found : store.database.tenant? tenantId = some row)
      (kept : redis = store.redis ∨ redis = cachedTenant row store.redis) : Handed env store tenantId row.current redis

theorem handed_cases {reply : Except PyError CurrentTenant}
    (ran : getCurrentTenant verifyApiKey credentials env store.open = (reply, session)) :
    (∃ exc, reply = .error exc) ∧ session.saved = store.open.saved ∨
      ∃ tenantId tenant redis, UUID.parse? credentials.xTenantId = some tenantId ∧ reply = .ok tenant ∧
        session = { store.open with redis } ∧ Handed env store tenantId tenant redis := by
  cases named : UUID.parse? credentials.xTenantId with
  | none =>
    rw [getCurrentTenant, named] at ran
    obtain ⟨rfl, rfl⟩ := Prod.mk.inj ran
    exact Or.inl ⟨⟨_, rfl⟩, rfl⟩
  | some tenantId =>
    rcases getCurrentTenant_cases named ran with rejected | ⟨cached, tenant, hit, built, _, rfl, rfl⟩ | ⟨row, found, rfl, kept⟩
    · exact Or.inl rejected
    · exact Or.inr ⟨tenantId, tenant, store.redis, rfl, rfl, rfl, .cached hit built⟩
    · rcases kept with rfl | rfl
      · exact Or.inr ⟨tenantId, row.current, store.redis, rfl, rfl, rfl, .stored found (Or.inl rfl)⟩
      · exact Or.inr ⟨tenantId, row.current, cachedTenant row store.redis, rfl, rfl, rfl, .stored found (Or.inr rfl)⟩

/-- The tenant lacks a customer, and gets the one that Stripe has answered. -/
def Enlists (tenantId : UUID) (answers : StripeAnswers) (before after : Database) : Prop :=
  ∃ row customer, before.tenant? tenantId = some row ∧ Lacking row.stripeCustomerId ∧ answers.customer = .ok customer ∧
    before.updateTenant tenantId customer.id = .ok after

theorem refreshTenant_keeps (tenant : CurrentTenant) : Keeps Session.contents (refreshTenant tenant) := by
  unfold refreshTenant
  cases tenant.id with
  | text value => exact .raise _
  | uuid id =>
    apply Keeps.bind (query_reads (fun _ _ => rfl) _ _)
    intro rows
    apply Keeps.bind (scalarOneOrNone_keeps _)
    intro row
    cases row with
    | none => exact .raise _
    | some row => exact .pure _

theorem refreshTenant_returned {current : CurrentTenant} {after : Session}
    (returned : refreshTenant tenant env session = (.ok current, after)) :
    ∃ id row, tenant.id = .uuid id ∧ session.working.tenant? id = some row ∧ current = row.current := by
  unfold refreshTenant at returned
  cases own : tenant.id with
  | text value =>
    rw [own] at returned
    cases (Prod.mk.inj returned).1
  | uuid id =>
    rw [own] at returned
    obtain ⟨rows, middle, selected, returned⟩ := bind_returned returned
    obtain ⟨working, read, same⟩ := statement_returned selected
    obtain ⟨found, _⟩ := Prod.mk.inj (Except.ok.inj read)
    obtain rfl : (session.working.tenant? id).toList = rows := by rw [← found, ← selectTenants_eq]
    rw [bind_ok (scalarOneOrNone_toList _)] at returned
    cases stored : session.working.tenant? id with
    | none =>
      rw [stored] at returned
      cases (Prod.mk.inj returned).1
    | some row =>
      rw [stored] at returned
      exact ⟨id, row, rfl, stored, (Except.ok.inj (Prod.mk.inj returned).1).symm⟩

/-- A session in which nothing has been written, or in which the tenant has been given a customer
and this is committed. -/
structure Settles (tenantId : UUID) (answers : StripeAnswers) (store : Store) (redis : Redis) (session : Session) : Prop where
  redis : session.redis = redis
  committed : session.committed = store.database ∨ Enlists tenantId answers store.database session.committed

theorem commit_settles (place : Statement) {after : Session} {reply : Except PyError Unit}
    (ran : commit place env session = (reply, after)) :
    after.redis = session.redis ∧ ((∃ exc, reply = .error exc) ∧ after.committed = session.committed ∨
      reply = .ok () ∧ after = { session with committed := session.working }) := by
  constructor
  · have kept := commit_redis place env session
    rw [ran] at kept
    exact kept
  · rcases commit_cases place env session with returned | ⟨exc, failed, raised, kept⟩
    · obtain ⟨rfl, rfl⟩ := Prod.mk.inj (ran.symm.trans returned)
      exact Or.inr ⟨rfl, rfl⟩
    · obtain ⟨rfl, rfl⟩ := Prod.mk.inj (ran.symm.trans raised)
      exact Or.inl ⟨⟨exc, rfl⟩, kept⟩

theorem commitCustomer_cases {customer : Customer} {reply : Except PyError Unit} {after : Session}
    (handed : Handed env store tenantId tenant redis) (lacking : Lacking tenant.stripeCustomerId)
    (answered : answers.customer = .ok customer)
    (ran : commitCustomer tenant customer.id env { store.open with redis } = (reply, after)) :
    Settles tenantId answers store redis after ∧ (reply = .ok () → after.working = after.committed ∧
      ∀ id, tenant.id = .uuid id → Enlists tenantId answers store.database after.committed) := by
  unfold commitCustomer at ran
  cases handed with
  | cached hit built =>
    obtain ⟨value, text⟩ := tenantOfCache_text built
    rw [text] at ran
    obtain ⟨kept, ⟨⟨exc, rfl⟩, same⟩ | ⟨_, rfl⟩⟩ := commit_settles .commitTenant ran
    · exact ⟨⟨kept, Or.inl same⟩, fun returned => by cases returned⟩
    · refine ⟨⟨kept, Or.inl rfl⟩, fun _ => ⟨rfl, fun id own => ?_⟩⟩
      cases text.symm.trans own
  | @stored row _ found kept =>
    obtain rfl := eq_of_beq (Table.find?_mem found).2
    dsimp only [Tenant.current] at ran
    rcases wrote : execute .updateTenant (Database.updateTenant row.id customer.id) env { store.open with redis } with
      ⟨exc | _, middle⟩
    · have saved := @execute_keeps _ Session.saved (fun _ _ _ => rfl) .updateTenant
        (Database.updateTenant row.id customer.id) env { store.open with redis }
      rw [wrote] at saved
      rw [bind_error wrote] at ran
      obtain ⟨rfl, rfl⟩ := Prod.mk.inj ran
      obtain ⟨committed, same⟩ := Prod.mk.inj saved
      exact ⟨⟨same, Or.inl committed⟩, fun returned => by cases returned⟩
    · obtain ⟨working, updated, rfl⟩ := execute_returned wrote
      rw [bind_ok wrote] at ran
      obtain ⟨kept, ⟨⟨exc, rfl⟩, same⟩ | ⟨_, rfl⟩⟩ := commit_settles .commitTenant ran
      · exact ⟨⟨kept, Or.inl same⟩, fun returned => by cases returned⟩
      · have enlists : Enlists row.id answers store.database working :=
          ⟨row, customer, found, lacking, answered, updated⟩
        exact ⟨⟨kept, Or.inr enlists⟩, fun _ => ⟨rfl, fun _ _ => enlists⟩⟩

def Opens (tenantId : UUID) (tenant : CurrentTenant) (answers : StripeAnswers) (before after : Database)
    (customerId : Option String) : Prop :=
  ¬ Lacking tenant.stripeCustomerId ∧ customerId = tenant.stripeCustomerId ∨
    Enlists tenantId answers before after ∧ ∃ row, after.tenant? tenantId = some row ∧ customerId = row.stripeCustomerId

/-- What making sure of the customer leads to. A customer is created only for a tenant that lacks one. -/
structure Ensures (tenantId : UUID) (tenant : CurrentTenant) (answers : StripeAnswers) (store : Store) (redis : Redis)
    (reply : Except PyError CurrentTenant) (after : StripeSession) : Prop where
  settles : Settles tenantId answers store redis after.session
  calls : ∀ call ∈ after.calls, openedFor? call = none ∧ Lacking tenant.stripeCustomerId
  returned : ∀ current, reply = .ok current → after.session.working = after.session.committed ∧
    Opens tenantId tenant answers store.database after.session.committed current.stripeCustomerId

theorem Handed.id {id : UUID} (handed : Handed env store tenantId tenant redis) (own : tenant.id = .uuid id) :
    id = tenantId := by
  cases handed with
  | cached hit built =>
    obtain ⟨value, text⟩ := tenantOfCache_text built
    rw [text] at own
    cases own
  | stored found kept =>
    obtain rfl := TenantId.uuid.inj own
    exact eq_of_beq (Table.find?_mem found).2

theorem ensureCustomer_cases {reply : Except PyError CurrentTenant} {after : StripeSession}
    (handed : Handed env store tenantId tenant redis)
    (ran : ensureCustomer tenant answers env ⟨{ store.open with redis }, []⟩ = (reply, after)) :
    Ensures tenantId tenant answers store redis reply after := by
  have untouched : Settles tenantId answers store redis { store.open with redis } := ⟨rfl, Or.inl rfl⟩
  by_cases lacking : Lacking tenant.stripeCustomerId
  · have created : ∀ call ∈ [] ++ [StripeCall.createCustomer tenant.email tenant.id.str],
        openedFor? call = none ∧ Lacking tenant.stripeCustomerId := by
      intro call member
      obtain rfl := List.mem_singleton.mp member
      exact ⟨rfl, lacking⟩
    have unset : tenant.stripeCustomerId.filter (· ≠ "") = none := lacking
    rw [ensureCustomer, unset] at ran
    dsimp only at ran
    cases answered : answers.customer with
    | error message =>
      rw [answered] at ran
      obtain ⟨rfl, rfl⟩ := Prod.mk.inj ran
      exact ⟨untouched, created, fun _ returned => by cases returned⟩
    | ok customer =>
      rw [answered, bind_ok (askStripe_ok _ _ _ _), bind_apply, onDatabase_apply] at ran
      rcases committed : commitCustomer tenant customer.id env { store.open with redis } with ⟨exc | _, middle⟩
      · rw [committed] at ran
        obtain ⟨rfl, rfl⟩ := Prod.mk.inj ran
        obtain ⟨settles, _⟩ := commitCustomer_cases handed lacking answered committed
        exact ⟨settles, created, fun _ returned => by cases returned⟩
      · obtain ⟨settles, settled⟩ := commitCustomer_cases handed lacking answered committed
        rw [committed] at ran
        dsimp only at ran
        rw [onDatabase_apply] at ran
        obtain ⟨rfl, rfl⟩ := Prod.mk.inj ran
        obtain ⟨sameCommitted, rest⟩ := Prod.mk.inj (refreshTenant_keeps tenant env middle)
        obtain ⟨sameWorking, sameRedis⟩ := Prod.mk.inj rest
        refine ⟨⟨sameRedis.trans settles.redis, sameCommitted ▸ settles.committed⟩, created, fun current returned => ?_⟩
        obtain ⟨id, row, own, stored, rfl⟩ := refreshTenant_returned (Prod.ext returned rfl)
        obtain rfl := handed.id own
        obtain ⟨same, enlists⟩ := settled rfl
        refine ⟨sameWorking.trans (same.trans sameCommitted.symm), Or.inr ⟨?_, row, ?_, rfl⟩⟩
        · rw [sameCommitted]
          exact enlists id own
        · rw [sameCommitted, ← same]
          exact stored
  · rw [ensureCustomer_held lacking] at ran
    obtain ⟨rfl, rfl⟩ := Prod.mk.inj ran
    refine ⟨untouched, fun _ member => (List.not_mem_nil member).elim, fun current returned => ?_⟩
    obtain rfl := Except.ok.inj returned
    exact ⟨rfl, Or.inl ⟨lacking, rfl⟩⟩

theorem getDb_settled {α : Type} {reply : Except PyError α}
    (settled : ∀ value, reply = .ok value → session.working = session.committed) :
    (getDb (reply.map fun _ => ()) env session).2.committed = session.committed ∧
      (getDb (reply.map fun _ => ()) env session).2.redis = session.redis := by
  cases reply with
  | error exc => exact ⟨rfl, rfl⟩
  | ok value =>
    simp only [Except.map, getDb, Effect.handle]
    rcases ran : commit .commitRequest env session with ⟨reply, after⟩
    obtain ⟨redis, ⟨⟨exc, rfl⟩, kept⟩ | ⟨rfl, rfl⟩⟩ := commit_settles .commitRequest ran
    · exact ⟨kept, redis⟩
    · exact ⟨settled value rfl, rfl⟩

/-- A checkout is rejected, or it may give its tenant a customer, and opens sessions for the one that
the tenant has. -/
structure ChecksOut (call : CheckoutCall) (store : Store) (tenantId : UUID) (tenant : CurrentTenant) (redis : Redis)
    (after : Store) (calls : List StripeCall) : Prop where
  named : UUID.parse? call.credentials.xTenantId = some tenantId
  handed : Handed call.env store tenantId tenant redis
  redis : after.redis = redis
  database : after.database = store.database ∨ Enlists tenantId call.answers store.database after.database
  opens : ∀ asked ∈ calls, openedFor? asked = none ∧ Lacking tenant.stripeCustomerId ∨
    ∃ customerId, openedFor? asked = some customerId ∧
      Opens tenantId tenant call.answers store.database after.database customerId

theorem checkout_cases (verifyApiKey : String → String → Bool) (call : CheckoutCall) (store : Store) :
    (call.serve verifyApiKey store).2 = (store, []) ∨
      ∃ tenantId tenant redis, ChecksOut call store tenantId tenant redis (call.serve verifyApiKey store).2.1
        (call.serve verifyApiKey store).2.2 := by
  rcases ran : getCurrentTenant verifyApiKey call.credentials call.env store.open with ⟨reply, session⟩
  rcases handed_cases ran with ⟨⟨exc, rfl⟩, kept⟩ | ⟨tenantId, tenant, redis, named, rfl, rfl, handed⟩
  · exact Or.inl (congrArg Prod.snd (serve_rejected ran kept))
  · refine Or.inr ⟨tenantId, tenant, redis, ?_⟩
    rcases ensured : ensureCustomer tenant call.answers call.env ⟨{ store.open with redis }, []⟩ with ⟨reply, after⟩
    obtain ⟨settles, calls, returned⟩ := ensureCustomer_cases handed ensured
    cases reply with
    | error exc =>
      have failed : createCheckoutSession verifyApiKey call.credentials call.request call.answers call.env
          ⟨store.open, []⟩ = (.error exc, after) := by
        rw [createCheckoutSession, bind_ok (onDatabase_ok (by exact ran)), if_neg (planTier_known call.request),
          bind_error ensured]
      obtain ⟨committed, same⟩ := @getDb_settled call.env after.session CheckoutReply (.error exc) fun _ never => by cases never
      simp only [CheckoutCall.serve, failed]
      refine ⟨named, handed, same.trans settles.redis, ?_, fun asked member => Or.inl (calls asked member)⟩
      rw [committed]
      exact settles.committed
    | ok current =>
      obtain ⟨settled, known⟩ := returned current rfl
      obtain ⟨reply, opened⟩ := createCheckoutSession_cases ran ensured
      obtain ⟨committed, same⟩ := @getDb_settled call.env after.session CheckoutReply reply fun _ _ => settled
      simp only [CheckoutCall.serve, opened]
      refine ⟨named, handed, same.trans settles.redis, ?_, fun asked member => ?_⟩
      · rw [committed]
        exact settles.committed
      · rw [committed]
        rcases List.mem_append.mp member with earlier | last
        · exact Or.inl (calls asked earlier)
        · obtain rfl := List.mem_singleton.mp last
          exact Or.inr ⟨_, rfl, known⟩

theorem read_cases {α : Type} {route : CurrentTenant → Request α}
    (reads : ∀ tenant, Keeps Session.contents (route tenant)) (credentials : Credentials) (env : Env) (store : Store) :
    let after := (serve (do route (← getCurrentTenant verifyApiKey credentials)) env store).2
    after = store ∨ ∃ tenantId tenant redis, UUID.parse? credentials.xTenantId = some tenantId ∧
      Handed env store tenantId tenant redis ∧ after = ⟨store.database, redis⟩ := by
  rcases ran : getCurrentTenant verifyApiKey credentials env store.open with ⟨reply, session⟩
  rcases handed_cases ran with ⟨⟨exc, rfl⟩, kept⟩ | ⟨tenantId, tenant, redis, named, rfl, rfl, handed⟩
  · refine Or.inl ?_
    obtain ⟨committed, redis⟩ := Prod.mk.inj kept
    rw [serve_error (bind_error ran) committed, redis]
    rfl
  · refine Or.inr ⟨tenantId, tenant, redis, named, handed, ?_⟩
    rcases routed : route tenant env { store.open with redis } with ⟨reply, after⟩
    have kept := reads tenant env { store.open with redis }
    rw [routed] at kept
    obtain ⟨committed, rest⟩ := Prod.mk.inj kept
    obtain ⟨working, same⟩ := Prod.mk.inj rest
    have answered : (do route (← getCurrentTenant verifyApiKey credentials)) env store.open = (reply, after) := by
      rw [bind_ok ran, routed]
    obtain ⟨left, cached⟩ := @getDb_settled env after _ reply fun _ _ => working.trans committed.symm
    simp only [serve, answered]
    rw [left, cached, committed, same]
    rfl

theorem cancel_cases (credentials : Credentials) (env : Env) (store : Store) :
    let after := (serve (cancelSubscription verifyApiKey credentials) env store).2
    after = store ∨ ∃ tenantId tenant redis, UUID.parse? credentials.xTenantId = some tenantId ∧
      Handed env store tenantId tenant redis ∧ after = ⟨store.database, redis⟩ := by
  apply read_cases
  intro tenant
  split
  · exact .raise _
  · exact .pure _

theorem tenantInfo_cases (credentials : Credentials) (env : Env) (store : Store) :
    let after := (serve (getCurrentTenantInfo verifyApiKey credentials) env store).2
    after = store ∨ ∃ tenantId tenant redis, UUID.parse? credentials.xTenantId = some tenantId ∧
      Handed env store tenantId tenant redis ∧ after = ⟨store.database, redis⟩ :=
  read_cases (fun _ => .ofExcept _) credentials env store

structure OpensPortal (call : PortalCall) (store : Store) (tenantId : UUID) (tenant : CurrentTenant) (redis : Redis)
    (after : Store) (calls : List PortalSessionCall) : Prop where
  named : UUID.parse? call.credentials.xTenantId = some tenantId
  handed : Handed call.env store tenantId tenant redis
  after : after = ⟨store.database, redis⟩
  opens : ∀ asked ∈ calls, tenant.stripeCustomerId = some asked.customerId ∧ ¬ Lacking tenant.stripeCustomerId

theorem portal_cases (verifyApiKey : String → String → Bool) (call : PortalCall) (store : Store) :
    (call.serve verifyApiKey store).2 = (store, []) ∨
      ∃ tenantId tenant redis, OpensPortal call store tenantId tenant redis (call.serve verifyApiKey store).2.1
        (call.serve verifyApiKey store).2.2 := by
  rcases ran : getCurrentTenant verifyApiKey call.credentials call.env store.open with ⟨reply, session⟩
  have first : Effect.onPart PortalSession.session (fun state session => { state with session })
      (getCurrentTenant verifyApiKey call.credentials) call.env ⟨store.open, []⟩ = (reply, ⟨session, []⟩) := by
    simp only [Effect.onPart, ran]
  rcases handed_cases ran with ⟨⟨exc, rfl⟩, kept⟩ | ⟨tenantId, tenant, redis, named, rfl, rfl, handed⟩
  · refine Or.inl ?_
    obtain ⟨committed, redis⟩ := Prod.mk.inj kept
    obtain ⟨left, cached⟩ := @getDb_settled call.env session String (.error exc) fun _ never => by cases never
    simp only [PortalCall.serve, createPortalSession, bind_error first]
    rw [left, cached, committed, redis]
    rfl
  · refine Or.inr ⟨tenantId, tenant, redis, ?_⟩
    have settled (reply : Except PyError String) := @getDb_settled call.env { store.open with redis } String reply fun _ _ => rfl
    cases held : tenant.stripeCustomerId.filter (· ≠ "") with
    | none =>
      obtain ⟨left, cached⟩ := settled (.error noStripeCustomer)
      simp only [PortalCall.serve, createPortalSession, bind_ok first, held, raise_apply]
      exact ⟨named, handed, by rw [left, cached]; rfl, fun _ member => (List.not_mem_nil member).elim⟩
    | some customerId =>
      have filled : ¬ Lacking tenant.stripeCustomerId := fun lacking => Option.some_ne_none _ (held.symm.trans lacking)
      obtain ⟨reply, opened⟩ : ∃ reply, createPortalSession verifyApiKey call.credentials call.answer call.env ⟨store.open, []⟩ =
          (reply, ⟨{ store.open with redis }, [⟨customerId, call.env.settings.frontendUrl ++ "/billing"⟩]⟩) := by
        rw [createPortalSession, bind_ok first, held]
        cases call.answer with
        | ok url => exact ⟨.ok url, rfl⟩
        | error message => exact ⟨.error portalFailed, rfl⟩
      obtain ⟨left, cached⟩ := settled reply
      simp only [PortalCall.serve, opened]
      refine ⟨named, handed, by rw [left, cached]; rfl, fun asked member => ?_⟩
      obtain rfl := List.mem_singleton.mp member
      exact ⟨(Option.filter_eq_some_iff.mp held).1, filled⟩

end MeteringBilling
