import MeteringBilling.Proofs.Deliveries
import MeteringBilling.Proofs.Requests
import MeteringBilling.Seed

/-! Whether a delivery is visible at once. It drops the cached subscription, which no endpoint
reads, and leaves the cached report: the first `GET /usage` still answers with it. -/

namespace MeteringBilling.VisibleChanges

open Effect

variable {verifyApiKey : String → String → Bool} {tenantId : UUID} {reported current : Except String Plan}
  {incoming : ApiRequest} {delivery : Delivery} {store start before final : Store}

def limits (plan : Plan) : Int × Int := (plan.apiCallQuota, plan.aiTokenQuota)

def limitsOf? (body : Json) : Option (Int × Int) := do
  let apiCalls ← (← (← body.get? "api_calls").get? "limit").num?
  let aiTokens ← (← (← body.get? "ai_tokens").get? "limit").num?
  pure (apiCalls, aiTokens)

def shownLimits? : ApiReply → Option (Int × Int)
  | .usage (.ok answer) => limitsOf? answer.body
  | _ => none

/-- The reply shows the limits of the plan, or why there is none. -/
def Shows (current : Except String Plan) (reply : ApiReply) : Prop :=
  match current with
  | .ok plan => shownLimits? reply = some (limits plan)
  | .error message => reply = .usage (.error (.http 404 (.str message) []))

theorem usageCacheKey_tenant {first second : UUID} {time other : DateTime}
    (same : usageCacheKey first time = usageCacheKey second other) : first = second := by
  by_contra apart
  have own := ownKey_usage first time
  rw [same, foreign_usage (Ne.symm apart)] at own
  cases own

theorem subscriptionCacheKey_unowned (other : UUID) : ownKey tenantId (subscriptionCacheKey other) = false := by
  rw [Bool.eq_false_iff]
  intro owned
  obtain ⟨space, member, begins⟩ := List.any_eq_true.mp owned
  obtain ⟨tail, same⟩ := List.isPrefixOf_iff_prefix.mp begins
  have heads : ∀ space ∈ keySpaces, space.toList ≠ [] ∧ space.toList.head? ≠ "sub:".toList.head? := by decide
  obtain ⟨nonempty, apart⟩ := heads space member
  have head := congrArg List.head? same
  rw [subscriptionCacheKey, String.toList_append, String.toList_append, List.append_assoc,
    List.head?_append_of_ne_nil _ nonempty, List.head?_append_of_ne_nil _ (by decide)] at head
  exact apart head

/-- The reports that Redis holds for a tenant show the limits of one plan. -/
def Dated (tenantId : UUID) (reported : Except String Plan) (redis : Redis) : Prop :=
  ∀ time entry, redis (usageCacheKey tenantId time) = some entry →
    ∃ plan, reported = .ok plan ∧ limitsOf? entry.value = some (limits plan)

/-- What a run of requests keeps while the reports in Redis are those of one plan and the tables
give another. -/
structure Holds (tenantId : UUID) (reported current : Except String Plan) (store : Store) : Prop where
  honest : Honest store.redis
  planned : store.database.reportedPlan tenantId = current
  dated : Dated tenantId reported store.redis

def reading : ApiRequest := ⟨Seed.env 20, ⟨Seed.tenant.id.str, none⟩, .usage⟩

def reportedOnce : Store := (reading.serve (fun _ _ => true) Seed.paid).2

def upgrade : Delivery where
  env := Seed.env 21
  event := ⟨"evt_1", .subscriptionUpdated (Seed.stripeSubscription "active" [⟨some ({} : Settings).stripePriceIdPro⟩]),
    Seed.payload⟩

def expired : Store :=
  let after := upgrade.after reportedOnce
  { after with redis := Function.update after.redis (usageCacheKey Seed.tenant.id Seed.time) none }

end MeteringBilling.VisibleChanges
