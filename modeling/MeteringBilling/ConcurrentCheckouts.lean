import MeteringBilling.CheckoutApi

/-! `POST /checkout/session` requests in flight at the same time, under READ COMMITTED. Each waits for Stripe and
for its commit, and meanwhile others go on. The update of a tenant is flushed by the commit, so both are one step. -/

namespace MeteringBilling

inductive CheckoutPhase where
  | arrived
  | lacking (tenant : CurrentTenant)
  | created (tenant : CurrentTenant) (customer : Customer)
  | committed (tenant : CurrentTenant)
  | ready (tenant : CurrentTenant)
  | finished (reply : Except PyError CheckoutReply)

/-- The stores, what has been asked of Stripe, and the customers that have been stored, each with the request it is of
and the tenant it is for. -/
structure Counter (ι : Type) where
  store : Store
  phase : ι → CheckoutPhase
  calls : List (ι × StripeCall)
  stored : List (ι × UUID × String)

inductive CounterAction (ι : Type) where
  | authenticate (request : ι)
  | create (request : ι)
  | commit (request : ι)
  | refresh (request : ι)
  | open (request : ι)
  | other (store : Store)

/-- Nothing but a checkout gives a tenant its customer, and none loses it. -/
def Store.KeepsCustomers (before after : Store) : Prop :=
  ∀ row ∈ before.database.tenants.rows,
    (after.database.tenants.find? (·.id == row.id)).map Tenant.stripeCustomerId = some row.stripeCustomerId

instance (before after : Store) : Decidable (before.KeepsCustomers after) :=
  inferInstanceAs (Decidable (∀ row ∈ before.database.tenants.rows, _ = _))

section

variable {ι : Type} [DecidableEq ι]

def Counter.become (counter : Counter ι) (request : ι) (phase : CheckoutPhase) : Counter ι :=
  { counter with phase := Function.update counter.phase request phase }

variable (verifyApiKey : String → String → Bool) (calls : ι → CheckoutCall)

def CheckoutRequest.start (request : CheckoutRequest) (tenant : CurrentTenant) : CheckoutPhase :=
  if request.planTier ∉ ["free", "pro"] then .finished (.error invalidPlanTier)
  else match tenant.stripeCustomerId.filter (· ≠ "") with
    | some _ => .ready tenant
    | none => .lacking tenant

def authenticateStep (request : ι) (counter : Counter ι) : Counter ι :=
  let call := calls request
  let (reply, session) := getCurrentTenant verifyApiKey call.credentials call.env counter.store.open
  let counter := { counter with store := { counter.store with redis := session.redis } }
  match reply with
  | .ok tenant => counter.become request (call.request.start tenant)
  | .error exc => counter.become request (.finished (.error exc))

def createStep (request : ι) (tenant : CurrentTenant) (counter : Counter ι) : Counter ι :=
  let counter := { counter with calls := counter.calls ++ [(request, StripeCall.createCustomer tenant.email tenant.id.str)] }
  match (calls request).answers.customer with
  | .ok customer => counter.become request (.created tenant customer)
  | .error message => counter.become request (.finished (.error (.stripe message)))

/-- The tenant that a commit writes. One from the cache belongs to no session. -/
def CurrentTenant.written (tenant : CurrentTenant) : List UUID :=
  match tenant.id with
  | .uuid id => [id]
  | .text _ => []

def commitStep (request : ι) (tenant : CurrentTenant) (customer : Customer) (counter : Counter ι) : Counter ι :=
  let (reply, session) := commitCustomer tenant customer.id (calls request).env counter.store.open
  let counter := { counter with store := ⟨session.committed, session.redis⟩ }
  match reply with
  | .ok _ => { counter.become request (.committed tenant) with
      stored := counter.stored ++ tenant.written.map fun tenantId => (request, tenantId, customer.id) }
  | .error exc => counter.become request (.finished (.error exc))

def refreshStep (request : ι) (tenant : CurrentTenant) (counter : Counter ι) : Counter ι :=
  match (refreshTenant tenant (calls request).env counter.store.open).1 with
  | .ok current => counter.become request (.ready current)
  | .error exc => counter.become request (.finished (.error exc))

def openStep (request : ι) (tenant : CurrentTenant) (counter : Counter ι) : Counter ι :=
  let call := calls request
  let counter := { counter with calls := counter.calls ++ [(request, call.request.call call.env.settings tenant)] }
  match call.answers.session with
  | .ok session => counter.become request (.finished (.ok ⟨session.id, session.url⟩))
  | .error _ => counter.become request (.finished (.error checkoutFailed))

def concurrentCheckouts : Machine (CounterAction ι) (Counter ι) where
  step
    | .authenticate request, counter => match counter.phase request with
      | .arrived => some (authenticateStep verifyApiKey calls request counter)
      | _ => none
    | .create request, counter => match counter.phase request with
      | .lacking tenant => some (createStep calls request tenant counter)
      | _ => none
    | .commit request, counter => match counter.phase request with
      | .created tenant customer => some (commitStep calls request tenant customer counter)
      | _ => none
    | .refresh request, counter => match counter.phase request with
      | .committed tenant => some (refreshStep calls request tenant counter)
      | _ => none
    | .open request, counter => match counter.phase request with
      | .ready tenant => some (openStep calls request tenant counter)
      | _ => none
    | .other store, counter => if counter.store.KeepsCustomers store then some { counter with store } else none

end

end MeteringBilling
