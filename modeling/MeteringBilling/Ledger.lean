import MeteringBilling.Admission
import MeteringBilling.Library.Machine

/-! Serial recording over months, while plans, subscriptions and tenants change under it. The
limits in force at the admissions are kept beside the tables. -/

namespace MeteringBilling

/-- A call that recorded usage, with the limit it was checked against. -/
structure Admission where
  tenantId : UUID
  usageType : UsageType
  limit : Int
  time : Int
deriving DecidableEq

structure Ledger where
  store : Store
  clock : Int
  admissions : List Admission

def Ledger.opened (store : Store) (clock : Int) : Ledger := ⟨store, clock, []⟩

/-- The foreign key of `subscriptions.tenant_id`. -/
def Database.Linked (database : Database) : Prop :=
  ∀ row ∈ database.subscriptions.rows, database.hasTenant row.tenantId = true

instance (database : Database) : Decidable database.Linked :=
  inferInstanceAs (Decidable (∀ row ∈ database.subscriptions.rows, _))

/-- `change` is any change of the tables that leaves the recorded usage alone. -/
inductive LedgerAction where
  | record (env : Env) (call : RecordCall)
  | change (database : Database)

/-- The database works, and one reading of the clock serves the check and dates the row. -/
def LedgerAction.Plain : LedgerAction → Prop
  | .record env _ => env.Quiet ∧ env.transactionStart = (env.now 0 .checkQuota).timestamp
  | .change _ => True

/-- Time has not gone back, and the identifier is a new one. -/
def Ledger.Ready (ledger : Ledger) (env : Env) : Prop :=
  ledger.clock ≤ env.transactionStart ∧
    ∀ event ∈ ledger.store.database.usageEvents.rows, event.id ≠ env.uuid4 0 .usageEvent

instance (ledger : Ledger) (env : Env) : Decidable (ledger.Ready env) :=
  inferInstanceAs (Decidable (_ ∧ ∀ event ∈ ledger.store.database.usageEvents.rows, _))

def RecordCall.admission (call : RecordCall) (env : Env) (before after : Database) : List Admission :=
  if after.usageEvents = before.usageEvents then []
  else ((before.limit? call.tenantId call.usageType).map fun limit =>
    ⟨call.tenantId, call.usageType, limit, env.transactionStart⟩).toList

def Ledger.recorded (ledger : Ledger) (env : Env) (call : RecordCall) : Ledger :=
  let after := (serve (MeterService.record call) env ledger.store).2
  { store := after
    clock := env.transactionStart
    admissions := ledger.admissions ++ call.admission env ledger.store.database after.database }

def recording : Machine LedgerAction Ledger where
  step
    | .record env call, ledger => if ledger.Ready env then some (ledger.recorded env call) else none
    | .change database, ledger =>
      if database.usageEvents = ledger.store.database.usageEvents ∧ database.Linked then
        some { ledger with store := { ledger.store with database } }
      else none

end MeteringBilling
