import MeteringBilling.Metering

/-! The plans with the quotas that `seed.py` gives them, a tenant with an active subscription to the Free
plan as the application stores it, before any usage, and surroundings in which nothing fails. -/

namespace MeteringBilling.Seed

def free : Plan := ⟨.free, "Free Plan", 5000, 500000⟩

def pro : Plan := ⟨.pro, "Pro Plan", 100000, 10000000⟩

/-- The instant of every clock reading. -/
def time : DateTime := ⟨2025, 6, 15, 12, 0, 0, 0, by decide⟩

def tenant : Tenant where
  id := .ofInt 1
  name := "Demo User"
  email := "demo@flyrank.test"
  apiKeyHash := some "demo_key_hash_not_for_production"
  stripeCustomerId := none
  createdAt := time.timestamp

def subscription : Subscription where
  id := .ofInt 2
  tenantId := tenant.id
  planId := .free
  stripeSubscriptionId := none
  status := .active
  currentPeriodStart := some time.timestamp
  currentPeriodEnd := some (time.timestamp + 2592000000000)
  cancelAtPeriodEnd := false
  canceledAt := none
  updatedAt := time.timestamp

def database : Database where
  tenants := ⟨[tenant], by decide⟩
  plans := ⟨[free, pro], by decide⟩
  subscriptions := ⟨[subscription], by decide⟩
  usageEvents := .empty
  processedStripeEvents := .empty

def store : Store := ⟨database, fun _ => none⟩

def paying : Subscription := { subscription with stripeSubscriptionId := some "sub_1" }

def paid : Store := ⟨{ database with subscriptions := ⟨[paying], by decide⟩ }, fun _ => none⟩

/-- The subscription as Stripe reports it, one month long. -/
def stripeSubscription (status : String) (items : List SubscriptionItem) : StripeSubscription where
  id := "sub_1"
  status := status
  metadata := none
  items := some items
  currentPeriodStart := some 1750000000
  currentPeriodEnd := some 1752592000
  cancelAtPeriodEnd := some false
  canceledAt := none

/-- What the payload column of an event about it keeps. -/
def payload : Option String := some "\x7b\"id\": \"sub_1\"\x7d"

/-- Surroundings in which the next row gets a given identifier. -/
def env (id : Nat) : Env where
  settings := {}
  attempt := 0
  transactionStart := time.timestamp
  now _ _ := time
  uuid4 _ _ := .ofInt id
  fault _ _ := none
  redisUp _ _ := true
  customer := .ok ⟨"cus_1", some "owner@example.com"⟩
  apiKey := ("key", "hash")

def apiCall (key : String) : MeterCall := ⟨tenant.id, key, ⟨.apiCall, 1, by decide⟩, none, none⟩

theorem wholeQuota_valid : (0 : Int) < 5000 ∧ (5000 : Int) ≤ 10000000 := by decide

def wholeQuota : MeterRequest := ⟨.apiCall, 5000, wholeQuota_valid⟩

theorem env_quiet (id : Nat) : (env id).Quiet := fun _ _ => rfl

end MeteringBilling.Seed
