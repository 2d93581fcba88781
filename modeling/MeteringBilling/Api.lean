import MeteringBilling.Auth
import MeteringBilling.Library.Machine
import MeteringBilling.UsageReport

/-! The endpoints behind authentication, served one request after another while Redis may lose
keys at any time. -/

namespace MeteringBilling

inductive Endpoint where
  | meter (idempotencyKey : String) (request : MeterRequest) (reqIp userAgent : Option String)
  | usage
deriving DecidableEq

structure ApiRequest where
  env : Env
  credentials : Credentials
  endpoint : Endpoint

inductive ApiReply where
  | meter (reply : Except PyError MeterResponse)
  | usage (reply : Except PyError UsageReply)
deriving DecidableEq

section

variable (verifyApiKey : String → String → Bool)

/-- Run an endpoint for the tenant of the credentials, on the same session. -/
def authenticated {α : Type} (credentials : Credentials) (endpoint : UUID → Request α) : Request α := do
  let tenant ← getCurrentTenant verifyApiKey credentials
  let tenantId ← Effect.ofExcept tenant.id.bound
  endpoint tenantId

def meterCall (idempotencyKey : String) (request : MeterRequest) (reqIp userAgent : Option String) (tenantId : UUID) :
    MeterCall := { tenantId, idempotencyKey, request, reqIp, userAgent }

def ApiRequest.serve (incoming : ApiRequest) (store : Store) : ApiReply × Store :=
  match incoming.endpoint with
  | .meter idempotencyKey request reqIp userAgent =>
    let (reply, after) := MeteringBilling.serve (authenticated verifyApiKey incoming.credentials fun tenantId =>
      recordUsage (meterCall idempotencyKey request reqIp userAgent tenantId)) incoming.env store
    (.meter reply, after)
  | .usage =>
    let (reply, after) := MeteringBilling.serve (authenticated verifyApiKey incoming.credentials getUsage) incoming.env store
    (.usage reply, after)

/-- Redis loses a key when it expires, when it is evicted, or when Redis restarts. -/
inductive ApiAction where
  | request (incoming : ApiRequest)
  | evict (key : String)

def api : Machine ApiAction Store where
  step
    | .request incoming, store => some (incoming.serve verifyApiKey store).2
    | .evict key, store => some { store with redis := Function.update store.redis key none }

def repliesTo (selected : ApiRequest → Bool) : List ApiAction → Store → List ApiReply
  | [], _ => []
  | .request incoming :: rest, store =>
    let (reply, after) := incoming.serve verifyApiKey store
    if selected incoming then reply :: repliesTo selected rest after else repliesTo selected rest after
  | .evict key :: rest, store =>
    repliesTo selected rest { store with redis := Function.update store.redis key none }

end

end MeteringBilling
