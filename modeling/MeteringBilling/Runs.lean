import MeteringBilling.Library.Machine
import MeteringBilling.Metering
import MeteringBilling.Webhook

/-! Serial runs: requests served one after another, each in surroundings of its own. -/

namespace MeteringBilling

def recordRuns : Machine (Env × RecordCall) Store where
  step action store := some (serve (MeterService.record action.2) action.1 store).2

def meterRuns : Machine (Env × MeterCall) Store where
  step action store := some (serve (recordUsage action.2) action.1 store).2

structure Delivery where
  env : Env
  event : StripeEvent

def Delivery.reply (delivery : Delivery) (store : Store) : Except PyError WebhookStatus :=
  (serve (handleStripeEvent delivery.event) delivery.env store).1

def Delivery.after (delivery : Delivery) (store : Store) : Store :=
  (serve (handleStripeEvent delivery.event) delivery.env store).2

def deliveries : Machine Delivery Store where
  step delivery store := some (delivery.after store)

end MeteringBilling
