import MeteringBilling.ConcurrentMetering
import MeteringBilling.UsageReport

/-! A `GET /usage` that Redis does not answer, while requests post usage. Under READ COMMITTED
each of its reads sees the rows that are committed by then. The two selects in front of the first
sum are one step with it, since they read tables that metering does not write. -/

namespace MeteringBilling

inductive Progress where
  | missed
  | planned (quotas : QuotaService.AllQuotas)
  | costed (quotas : QuotaService.AllQuotas) (startOfMonth : DateTime) (totalCostMicrounits : Int)
  | finished (reply : Except PyError UsageReply)

structure Desk (ι : Type) where
  world : World ι
  progress : Progress

inductive ReportAction (ι : Type) where
  | meter (action : Action ι)
  | quotas
  | cost
  | breakdown

/-- Beside the report, nothing but metering happens. -/
def ReportAction.Metering {ι : Type} : ReportAction ι → Prop
  | .meter action => action.Metering
  | _ => True

section

variable (reader : Env) (tenantId : UUID)

def quotasStep (store : Store) : Progress :=
  match store.answer reader (QuotaService.getAllQuotas tenantId) with
  | .ok (.ok quotas) => .planned quotas
  | .ok (.error message) => .finished (.error (.http 404 (.str message) []))
  | .error exc => .finished (.error exc)

def costStep (quotas : QuotaService.AllQuotas) (store : Store) : Progress :=
  match store.answer reader (do
    let startOfMonth := (← now .usagePeriod).startOfMonth
    let totalCostMicrounits ← UsageRepository.getMonthlyCost tenantId startOfMonth
    pure (startOfMonth, totalCostMicrounits)) with
  | .ok (startOfMonth, totalCostMicrounits) => .costed quotas startOfMonth totalCostMicrounits
  | .error exc => .finished (.error exc)

/-- The second breakdown, and what the endpoint does with it. -/
def finishReport (quotas : QuotaService.AllQuotas) (startOfMonth : DateTime) (totalCostMicrounits : Int) :
    Request UsageReply := do
  let usageBreakdown ← UsageRepository.getMonthlyUsageBreakdown tenantId startOfMonth
  let settings ← Effect.ask Env.settings
  let response ← Effect.ofExcept (usageResponse settings quotas startOfMonth totalCostMicrounits usageBreakdown)
  cacheSet (usageCacheKey tenantId (← now .usageCacheKey)) response.modelDump usageCacheTtl
  pure (.response response)

def breakdownStep (quotas : QuotaService.AllQuotas) (startOfMonth : DateTime) (totalCostMicrounits : Int) (store : Store) :
    Except PyError UsageReply × Redis :=
  let (reply, session) := finishReport tenantId quotas startOfMonth totalCostMicrounits (reader.retry 0).calm store.open
  (reply, session.redis)

variable {ι : Type} [DecidableEq ι] [Fintype ι] (incoming : ι → Incoming)

def reporting : Machine (ReportAction ι) (Desk ι) where
  step
    | .meter action, desk => ((concurrent incoming).step action desk.world).map fun world => { desk with world }
    | .quotas, desk => match desk.progress with
      | .missed => some { desk with progress := quotasStep reader tenantId desk.world.store }
      | _ => none
    | .cost, desk => match desk.progress with
      | .planned quotas => some { desk with progress := costStep reader tenantId quotas desk.world.store }
      | _ => none
    | .breakdown, desk => match desk.progress with
      | .costed quotas startOfMonth totalCostMicrounits =>
        let (reply, redis) := breakdownStep reader tenantId quotas startOfMonth totalCostMicrounits desk.world.store
        some ⟨{ desk.world with store := { desk.world.store with redis } }, .finished reply⟩
      | _ => none

end

end MeteringBilling
