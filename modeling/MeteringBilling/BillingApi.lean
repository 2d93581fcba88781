import MeteringBilling.CheckoutApi

/-! `POST /billing/portal` and `POST /subscriptions/cancel`: both need a tenant that has a Stripe
customer, and neither writes. -/

namespace MeteringBilling

/-- `StripeService.create_portal_session`. -/
structure PortalSessionCall where
  customerId : String
  returnUrl : String
deriving DecidableEq

structure PortalSession where
  session : Session
  calls : List PortalSessionCall

def noStripeCustomer : PyError := .http 400 (.str "No Stripe customer associated with this tenant") []

def portalFailed : PyError := .http 500 (.str "Failed to create billing portal session") []

structure PortalCall where
  env : Env
  credentials : Credentials
  answer : Except String String

structure CancelReply where
  status : String
  message : String
deriving DecidableEq

section

variable (verifyApiKey : String → String → Bool)

def createPortalSession (credentials : Credentials) (answer : Except String String) :
    Effect Env PyError PortalSession String := do
  let tenant ← Effect.onPart PortalSession.session (fun state session => { state with session })
    (getCurrentTenant verifyApiKey credentials)
  match tenant.stripeCustomerId.filter (· ≠ "") with
  | none => Effect.raise noStripeCustomer
  | some customerId => do
    let settings ← Effect.ask Env.settings
    Effect.handle (do
      Effect.modify fun state => { state with calls := state.calls ++ [⟨customerId, settings.frontendUrl ++ "/billing"⟩] }
      Effect.ofExcept (answer.mapError PyError.stripe)) fun _ => Effect.raise portalFailed

def PortalCall.serve (call : PortalCall) (store : Store) : Except PyError String × Store × List PortalSessionCall :=
  let (reply, state) := createPortalSession verifyApiKey call.credentials call.answer call.env ⟨store.open, []⟩
  let (_, session) := getDb (reply.map fun _ => ()) call.env state.session
  (reply, ⟨session.committed, session.redis⟩, state.calls)

/-- Nothing is cancelled: the tenant is sent to the portal. -/
def cancelSubscription (credentials : Credentials) : Request CancelReply := do
  let tenant ← getCurrentTenant verifyApiKey credentials
  match tenant.stripeCustomerId.filter (· ≠ "") with
  | none => Effect.raise noStripeCustomer
  | some _ => pure ⟨"pending", "Please use the Stripe customer portal to cancel your subscription"⟩

end

end MeteringBilling
