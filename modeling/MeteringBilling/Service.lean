import MeteringBilling.BillingApi
import MeteringBilling.Runs
import MeteringBilling.TenantApi

/-! The whole service: requests to all the routes that use the stores, one after another, while time
passes for Redis. -/

namespace MeteringBilling

/-- What is left of an entry after some seconds: Redis drops it when its time is up. -/
def CacheEntry.elapse (seconds : Nat) (entry : CacheEntry) : Option CacheEntry :=
  if entry.ttlSeconds ≤ seconds then none else some { entry with ttlSeconds := entry.ttlSeconds - seconds }

def Redis.elapse (seconds : Nat) (redis : Redis) : Redis := fun key => (redis key).bind (CacheEntry.elapse seconds)

inductive Call where
  | api (incoming : ApiRequest)
  | checkout (call : CheckoutCall)
  | portal (call : PortalCall)
  | cancel (env : Env) (credentials : Credentials)
  | tenantInfo (env : Env) (credentials : Credentials)
  | webhook (env : Env) (payload : List UInt8) (sigHeader : Option String)

inductive Reply where
  | api (reply : ApiReply)
  | checkout (reply : Except PyError CheckoutReply)
  | portal (reply : Except PyError String)
  | cancel (reply : Except PyError CancelReply)
  | tenantInfo (reply : Except PyError TenantResponse)
  | webhook (reply : Except PyError WebhookStatus)

/-- A call of `StripeService`, with the header of the request that makes it. -/
inductive Asked where
  | checkout (xTenantId : String) (call : StripeCall)
  | portal (xTenantId : String) (call : PortalSessionCall)
deriving DecidableEq

structure ServiceState where
  store : Store
  asked : List Asked

inductive ServiceAction where
  | request (call : Call)
  | elapse (seconds : Nat)
  | evict (key : String)

section

variable (verifyApiKey : String → String → Bool) (verify : List UInt8 → String → Except PyError StripeEvent)

def Call.serve (call : Call) (store : Store) : Reply × Store × List Asked :=
  match call with
  | .api incoming =>
    let (reply, after) := incoming.serve verifyApiKey store
    (.api reply, after, [])
  | .checkout call =>
    let (reply, after, calls) := call.serve verifyApiKey store
    (.checkout reply, after, calls.map (.checkout call.credentials.xTenantId))
  | .portal call =>
    let (reply, after, calls) := call.serve verifyApiKey store
    (.portal reply, after, calls.map (.portal call.credentials.xTenantId))
  | .cancel env credentials =>
    let (reply, after) := MeteringBilling.serve (cancelSubscription verifyApiKey credentials) env store
    (.cancel reply, after, [])
  | .tenantInfo env credentials =>
    let (reply, after) := MeteringBilling.serve (getCurrentTenantInfo verifyApiKey credentials) env store
    (.tenantInfo reply, after, [])
  | .webhook env payload sigHeader =>
    let (reply, after) := MeteringBilling.serve (stripeWebhook verify payload sigHeader) env store
    (.webhook reply, after, [])

def ServiceState.served (state : ServiceState) (call : Call) : ServiceState :=
  let (_, store, asked) := call.serve verifyApiKey verify state.store
  { store, asked := state.asked ++ asked }

def service : Machine ServiceAction ServiceState where
  step
    | .request call, state => some (state.served verifyApiKey verify call)
    | .elapse seconds, state =>
      some { state with store := { state.store with redis := state.store.redis.elapse seconds } }
    | .evict key, state =>
      some { state with store := { state.store with redis := Function.update state.store.redis key none } }

end

end MeteringBilling
