import MeteringBilling.Api

/-! `POST /checkout/session`: the Stripe customer of a tenant, created when it has none, and a
checkout session for it. Everything asked of Stripe is logged beside the database session. -/

namespace MeteringBilling

/-- A call of `StripeService`, without the constants it adds. -/
inductive StripeCall where
  | createCustomer (email tenantId : String)
  | createCheckoutSession (customerId : Option String) (priceId successUrl cancelUrl tenantId requestedPlanTier : String)
deriving DecidableEq

structure CreatedSession where
  id : String
  url : Option String
deriving DecidableEq

structure StripeAnswers where
  customer : Except String Customer
  session : Except String CreatedSession

/-- The body: pydantic accepts no other tier. -/
structure CheckoutRequest where
  planTier : String
  valid : planTier = "free" ∨ planTier = "pro"
deriving DecidableEq

structure CheckoutReply where
  checkoutSessionId : String
  url : Option String
deriving DecidableEq

structure StripeSession where
  session : Session
  calls : List StripeCall

abbrev StripeRequest (α : Type) := Effect Env PyError StripeSession α

def onDatabase {α : Type} (program : Request α) : StripeRequest α :=
  Effect.onPart StripeSession.session (fun state session => { state with session }) program

def askStripe {α : Type} (call : StripeCall) (answer : Except String α) : StripeRequest α := do
  Effect.modify fun state => { state with calls := state.calls ++ [call] }
  match answer with
  | .ok value => pure value
  | .error message => Effect.raise (.stripe message)

def TenantId.str : TenantId → String
  | uuid id => id.str
  | text value => value

def Database.updateTenant (tenantId : UUID) (stripeCustomerId : String) (database : Database) : Except PyError Database :=
  match database.tenants.rewrite? (·.id == tenantId) fun row => { row with stripeCustomerId := some stripeCustomerId } with
  | some tenants => .ok { database with tenants }
  | none => .error (.integrity "ix_tenants_stripe_customer_id")

/-- Assign the identifier and commit. The flush writes an object that the session has loaded; one
built from the cache belongs to no session. -/
def commitCustomer (tenant : CurrentTenant) (customerId : String) : Request Unit := do
  match tenant.id with
  | .uuid id => execute .updateTenant (Database.updateTenant id customerId)
  | .text _ => pure ()
  commit .commitTenant

def refreshTenant (tenant : CurrentTenant) : Request CurrentTenant := do
  match tenant.id with
  | .uuid id => do
    match ← scalarOneOrNone (← query .refreshTenant (·.tenants.select (·.id == id))) with
    | some row => pure row.current
    | none => Effect.raise (.invalidRequest "Could not refresh instance")
  | .text _ => Effect.raise (.invalidRequest "Instance is not persistent within this Session")

/-- The tenant with a customer. A null or empty identifier is falsy. -/
def ensureCustomer (tenant : CurrentTenant) (answers : StripeAnswers) : StripeRequest CurrentTenant := do
  match tenant.stripeCustomerId.filter (· ≠ "") with
  | some _ => pure tenant
  | none => do
    let customer ← askStripe (.createCustomer tenant.email tenant.id.str) answers.customer
    onDatabase (commitCustomer tenant customer.id)
    onDatabase (refreshTenant tenant)

def invalidPlanTier : PyError := .http 400 (.str "Invalid plan_tier. Must be 'free' or 'pro'") []

def checkoutFailed : PyError := .http 500 (.str "Failed to create checkout session") []

def CheckoutRequest.priceId (request : CheckoutRequest) (settings : Settings) : String :=
  if request.planTier = "pro" then settings.stripePriceIdPro else settings.stripePriceIdFree

def CheckoutRequest.call (request : CheckoutRequest) (settings : Settings) (tenant : CurrentTenant) : StripeCall :=
  .createCheckoutSession tenant.stripeCustomerId (request.priceId settings)
    (settings.frontendUrl ++ "/billing/success?session_id=\x7bCHECKOUT_SESSION_ID\x7d")
    (settings.frontendUrl ++ "/billing/cancel") tenant.id.str request.planTier

section

variable (verifyApiKey : String → String → Bool)

def createCheckoutSession (credentials : Credentials) (request : CheckoutRequest) (answers : StripeAnswers) :
    StripeRequest CheckoutReply := do
  let tenant ← onDatabase (getCurrentTenant verifyApiKey credentials)
  if request.planTier ∉ ["free", "pro"] then Effect.raise invalidPlanTier
  else do
    let tenant ← ensureCustomer tenant answers
    let settings ← Effect.ask Env.settings
    Effect.handle (do
      let session ← askStripe (request.call settings tenant) answers.session
      pure ⟨session.id, session.url⟩) fun _ => Effect.raise checkoutFailed

structure CheckoutCall where
  env : Env
  credentials : Credentials
  request : CheckoutRequest
  answers : StripeAnswers

def CheckoutCall.serve (call : CheckoutCall) (store : Store) : Except PyError CheckoutReply × Store × List StripeCall :=
  let (reply, state) :=
    createCheckoutSession verifyApiKey call.credentials call.request call.answers call.env ⟨store.open, []⟩
  let (_, session) := getDb (reply.map fun _ => ()) call.env state.session
  (reply, ⟨session.committed, session.redis⟩, state.calls)

/-- Stripe creates a customer under an identifier of its own. -/
def CheckoutCall.Answered (call : CheckoutCall) (store : Store) : Prop :=
  match call.answers.customer with
  | .ok customer => customer.id ≠ "" ∧ ∀ row ∈ store.database.tenants.rows, row.stripeCustomerId ≠ some customer.id
  | .error _ => False

instance (call : CheckoutCall) (store : Store) : Decidable (call.Answered store) := by
  unfold CheckoutCall.Answered
  split <;> infer_instance

/-- The stores, and everything that has been asked of Stripe. -/
structure CheckoutState where
  store : Store
  calls : List StripeCall

/-- A checkout, or anything else the API does, which may fill the cache and lose it. -/
inductive CheckoutAction where
  | checkout (call : CheckoutCall)
  | other (action : ApiAction)

def CheckoutState.served (state : CheckoutState) (call : CheckoutCall) : CheckoutState :=
  let (_, store, calls) := call.serve verifyApiKey state.store
  { store, calls := state.calls ++ calls }

def checkouts : Machine CheckoutAction CheckoutState where
  step
    | .checkout call, state => if call.Answered state.store then some (state.served verifyApiKey call) else none
    | .other action, state => ((api verifyApiKey).step action state.store).map fun store => { state with store }

end

end MeteringBilling
