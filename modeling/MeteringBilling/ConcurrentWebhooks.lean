import Mathlib.Data.Fintype.Basic
import MeteringBilling.Changes

/-! Deliveries in flight at the same time, of one event or of several, under READ COMMITTED: a
statement sees the committed rows, and a write waits while another delivery holds an uncommitted
row that clashes with its own. The mark is flushed by the commit, so both are one step. -/

namespace MeteringBilling

inductive Stage where
  | arrived
  | unprocessed
  | planned (change : Change)
  | written (change : Change)
  | finished (reply : Except PyError WebhookStatus)
deriving DecidableEq

/-- The row a change writes or locks. Assigning what was loaded sends no statement. -/
def Change.row? : Change → Option Subscription
  | .nothing => none
  | .upsert row | .enroll _ row | .create row => some row
  | .assign _ loaded assigned => if assigned = loaded then none else some loaded

/-- The tenant a change inserts. -/
def Change.tenant? : Change → Option Tenant
  | .enroll tenant _ => some tenant
  | .nothing | .upsert _ | .create _ | .assign .. => none

/-- The two changes write clashing rows, so one waits for the other. -/
def Change.Contends (held own : Change) : Prop :=
  (∃ row ∈ held.row?, ∃ mine ∈ own.row?, Keyed.Clash row mine) ∨
    ∃ tenant ∈ held.tenant?, ∃ mine ∈ own.tenant?, Keyed.Clash tenant mine

instance (held own : Change) : Decidable (held.Contends own) := inferInstanceAs (Decidable (_ ∨ _))

def Stage.pending : Stage → Option Change
  | .written change => some change
  | _ => none

structure Site (ι : Type) where
  store : Store
  stage : ι → Stage

inductive WebhookAction (ι : Type) where
  | lookup (delivery : ι)
  | read (delivery : ι)
  | write (delivery : ι)
  | mark (delivery : ι)
  | fail (delivery : ι)

/-- Whose step it is. -/
def WebhookAction.delivery {ι : Type} : WebhookAction ι → ι
  | lookup delivery | read delivery | write delivery | mark delivery | fail delivery => delivery

section

variable {ι : Type} [DecidableEq ι]

def Site.become (site : Site ι) (delivery : ι) (stage : Stage) : Site ι :=
  { site with stage := Function.update site.stage delivery stage }

variable (event : StripeEvent) (envs : ι → Env)

def isProcessedStep (delivery : ι) (site : Site ι) : Stage :=
  match (StripeEventRepository.isProcessed event.id (envs delivery).calm site.store.open).1 with
  | .ok true => .finished (.ok .alreadyProcessed)
  | .ok false => .unprocessed
  | .error exc => .finished (.error exc)

def readStep (delivery : ι) (site : Site ι) : Stage :=
  match event.data.change? (envs delivery) site.store.database with
  | some change => .planned change
  | none => .finished (.error webhookFailed)

/-- The handler's writes, and Redis after it has dropped the cached subscription. -/
def writeStep (delivery : ι) (change : Change) (site : Site ι) : Site ι :=
  match change.applied? site.store.database with
  | some _ => { site.become delivery (.written change) with
      store := { site.store with redis := change.invalidated (envs delivery) site.store.redis } }
  | none => site.become delivery (.finished (.error webhookFailed))

def Change.committed? (change : Change) (event : StripeEvent) (env : Env) (database : Database) : Option Database := do
  let after ← change.applied? database
  (after.insertProcessedEvent (event.mark env)).toOption

def markStep (delivery : ι) (change : Change) (site : Site ι) : Site ι :=
  match change.committed? event (envs delivery) site.store.database with
  | some database => { site.become delivery (.finished (.ok .success)) with store := { site.store with database } }
  | none => site.become delivery (.finished (.error webhookFailed))

/-- No other delivery holds an uncommitted row that a change must wait for. -/
def Uncontended (delivery : ι) (change : Change) (site : Site ι) : Prop :=
  ∀ other, other ≠ delivery → ∀ held ∈ (site.stage other).pending, ¬ held.Contends change

instance [Fintype ι] (delivery : ι) (change : Change) (site : Site ι) : Decidable (Uncontended delivery change site) :=
  inferInstanceAs (Decidable (∀ other, other ≠ delivery → ∀ held ∈ (site.stage other).pending, ¬ held.Contends change))

variable [Fintype ι]

/-- A delivery can fail, and be rolled back, at any time between its lookup and its commit. -/
def concurrentWebhooks : Machine (WebhookAction ι) (Site ι) where
  step
    | .lookup delivery, site => match site.stage delivery with
      | .arrived => some (site.become delivery (isProcessedStep event envs delivery site))
      | _ => none
    | .read delivery, site => match site.stage delivery with
      | .unprocessed => some (site.become delivery (readStep event envs delivery site))
      | _ => none
    | .write delivery, site => match site.stage delivery with
      | .planned change => if Uncontended delivery change site then some (writeStep envs delivery change site) else none
      | _ => none
    | .mark delivery, site => match site.stage delivery with
      | .written change => some (markStep event envs delivery change site)
      | _ => none
    | .fail delivery, site => match site.stage delivery with
      | .unprocessed | .planned _ | .written _ => some (site.become delivery (.finished (.error webhookFailed)))
      | _ => none

/-- Deliveries of different events, each with the steps of its own. -/
def concurrentDeliveries (incoming : ι → Delivery) : Machine (WebhookAction ι) (Site ι) where
  step action site :=
    (concurrentWebhooks (incoming action.delivery).event fun delivery => (incoming delivery).env).step action site

end

end MeteringBilling
