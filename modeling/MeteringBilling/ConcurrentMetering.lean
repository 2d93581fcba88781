import Mathlib.Data.Fintype.Basic
import MeteringBilling.Admission
import MeteringBilling.Library.Machine

/-! `POST /meter` requests in flight at the same time, under READ COMMITTED: a statement sees
the committed rows, and an insert waits while another request holds an uncommitted row that
clashes with its own. The three selects of a quota check are one step, since only the last
of them reads a table that metering writes. -/

namespace MeteringBilling

structure Incoming where
  env : Env
  call : MeterCall

/-- How far a request has come. `fresh` tells an inserted event from one found under its key. -/
inductive Phase where
  | arrived
  | missed
  | admitted (info : QuotaInfo) (cost : Int)
  | conflicted (info : QuotaInfo)
  | recorded (event : UsageEvent) (info : QuotaInfo) (fresh : Bool)
  | answered (response : MeterResponse) (event : UsageEvent) (fresh : Bool)
  | finished (reply : Except PyError MeterResponse)

namespace Phase

def pending : Phase → Option UsageEvent
  | recorded event _ true | answered _ event true => some event
  | _ => none

/-- The reply of a request whose transaction is lost: once it is answered, the response is
out and only the commit fails. -/
def aborted : Phase → Option (Except PyError MeterResponse)
  | answered response _ _ => some (.ok response)
  | finished _ => none
  | _ => some (.error (.database "connection reset by peer"))

end Phase

structure World (ι : Type) where
  store : Store
  phase : ι → Phase

inductive Action (ι : Type) where
  | lookup (request : ι)
  | check (request : ι)
  | insert (request : ι)
  | select (request : ι)
  | respond (request : ι)
  | commit (request : ι)
  | abort (request : ι)
  | evict (key : String)
  | reconfigure (tenants : Table Tenant) (plans : Table Plan) (subscriptions : Table Subscription)

/-- The action belongs to a request or to the cache: subscriptions and plans stay as they are. -/
def Action.Metering {ι : Type} : Action ι → Prop
  | reconfigure _ _ _ => False
  | _ => True

/-- What a part of a request returns on the committed tables. -/
def Store.answer {α : Type} (store : Store) (env : Env) (program : Request α) : Except PyError α :=
  (program (env.retry 0).calm store.open).1

section

variable {ι : Type} [DecidableEq ι]

def World.become (world : World ι) (request : ι) (phase : Phase) : World ι :=
  { world with phase := Function.update world.phase request phase }

variable (incoming : ι → Incoming)

def lookupStep (request : ι) (world : World ι) : Phase :=
  match world.store.answer (incoming request).env (checkIdempotencyKey (incoming request).call.key) with
  | .ok (some cached) => .finished (cachedToResponse cached)
  | .ok none => .missed
  | .error exc => .finished (.error exc)

def checkStep (request : ι) (world : World ι) : Phase :=
  match world.store.answer (incoming request).env (MeterService.authorize (incoming request).call.record) with
  | .ok (info, cost) => .admitted info cost
  | .error exc => .finished (.error (meterError exc))

def rowOf (request : ι) (cost : Int) : UsageEvent := (incoming request).call.record.fresh (incoming request).env cost

def insertStep (request : ι) (info : QuotaInfo) (cost : Int) (world : World ι) : Phase :=
  match world.store.answer (incoming request).env
    (statement .insertUsageEvent (Database.insertUsageEvent (rowOf incoming request cost))) with
  | .ok (some event) => .recorded event info true
  | .ok none => .conflicted info
  | .error exc => .finished (.error (meterError exc))

def selectStep (request : ι) (info : QuotaInfo) (world : World ι) : Phase :=
  match world.store.answer (incoming request).env (do
    scalarOneOrNone (← query .selectUsageEvent (·.eventsOf (incoming request).call.key))) with
  | .ok (some event) => .recorded event info false
  | .ok none => .finished (.error (meterError (MeterService.quotaExceeded (incoming request).call.record info)))
  | .error exc => .finished (.error (meterError exc))

def responseOf (request : ι) (event : UsageEvent) (info : QuotaInfo) : MeterResponse :=
  let call := (incoming request).call
  meterResponse event (MeterService.updatedQuotaInfo call.record info) call.request.usageType

def respondStep (request : ι) (response : MeterResponse) (world : World ι) : Redis :=
  let call := (incoming request).call
  (storeIdempotencyResponse call.key response.modelDump (incoming request).env world.store.open).2.redis

/-- No other request holds an uncommitted row that clashes with this one. -/
def Unblocked (request : ι) (row : UsageEvent) (world : World ι) : Prop :=
  ∀ other, other ≠ request → ∀ held ∈ (world.phase other).pending, ¬ Keyed.Clash held row

instance [Fintype ι] (request : ι) (row : UsageEvent) (world : World ι) : Decidable (Unblocked request row world) :=
  inferInstanceAs (Decidable (∀ other, other ≠ request → ∀ held ∈ (world.phase other).pending, ¬ Keyed.Clash held row))

variable [Fintype ι]

def concurrent : Machine (Action ι) (World ι) where
  step
    | .lookup request, world => match world.phase request with
      | .arrived => some (world.become request (lookupStep incoming request world))
      | _ => none
    | .check request, world => match world.phase request with
      | .missed => some (world.become request (checkStep incoming request world))
      | _ => none
    | .insert request, world => match world.phase request with
      | .admitted info cost =>
        if Unblocked request (rowOf incoming request cost) world then
          some (world.become request (insertStep incoming request info cost world))
        else none
      | _ => none
    | .select request, world => match world.phase request with
      | .conflicted info => some (world.become request (selectStep incoming request info world))
      | _ => none
    | .respond request, world => match world.phase request with
      | .recorded event info fresh =>
        let response := responseOf incoming request event info
        let answered := world.become request (.answered response event fresh)
        some { answered with store := { world.store with redis := respondStep incoming request response world } }
      | _ => none
    | .commit request, world => match world.phase request with
      | .answered response event true =>
        (world.store.database.usageEvents.insert? event).map fun usageEvents =>
          let finished := world.become request (.finished (.ok response))
          { finished with store := { world.store with database := { world.store.database with usageEvents } } }
      | .answered response _ false => some (world.become request (.finished (.ok response)))
      | _ => none
    | .abort request, world => (world.phase request).aborted.map fun reply => world.become request (.finished reply)
    | .evict key, world => some { world with
        store := { world.store with redis := Function.update world.store.redis key none } }
    | .reconfigure tenants plans subscriptions, world => some { world with
        store := { world.store with database := { world.store.database with tenants, plans, subscriptions } } }

end

end MeteringBilling
