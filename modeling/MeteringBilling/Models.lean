import Mathlib.Algebra.Group.Int.Defs
import MeteringBilling.Library.Calendar
import MeteringBilling.Library.Json
import MeteringBilling.Library.Table
import MeteringBilling.Library.Uuid
import MeteringBilling.Stripe

/-! The tables, with the unique constraints and the widths their models declare, and the
errors the services raise. Columns that no modelled function reads or writes are left out.
The columns of Stripe's identifiers have no width here: 255 characters hold them.
Timestamps are microseconds since 1970. -/

namespace MeteringBilling

inductive UsageType where
  | apiCall | inputTokens | cachedInputTokens | outputTokens | reasoningTokens
deriving DecidableEq

namespace UsageType

def value : UsageType → String
  | .apiCall => "api_call"
  | .inputTokens => "input_tokens"
  | .cachedInputTokens => "cached_input_tokens"
  | .outputTokens => "output_tokens"
  | .reasoningTokens => "reasoning_tokens"

def all : List UsageType := [.apiCall, .inputTokens, .cachedInputTokens, .outputTokens, .reasoningTokens]

/-- `UsageType(value)`. -/
def ofValue? (value : String) : Option UsageType := all.find? fun type => type.value == value

theorem value_injective : Function.Injective value := by
  intro first second
  cases first <;> cases second <;> decide

theorem ofValue?_value (type : UsageType) : ofValue? type.value = some type := by
  cases type <;> decide

end UsageType

inductive PlanTier where
  | free | pro
deriving DecidableEq

def PlanTier.value : PlanTier → String
  | .free => "FREE"
  | .pro => "PRO"

inductive SubscriptionStatus where
  | active | pastDue | canceled | incomplete | trialing
deriving DecidableEq

namespace SubscriptionStatus

def value : SubscriptionStatus → String
  | .active => "active"
  | .pastDue => "past_due"
  | .canceled => "canceled"
  | .incomplete => "incomplete"
  | .trialing => "trialing"

def all : List SubscriptionStatus := [.active, .pastDue, .canceled, .incomplete, .trialing]

/-- `SubscriptionStatus(value)`, which knows only part of Stripe's vocabulary. -/
def ofValue? (value : String) : Option SubscriptionStatus := all.find? fun status => status.value == value

/-- The statuses `get_active_by_tenant` selects. -/
def meters : SubscriptionStatus → Bool
  | .active | .trialing | .incomplete => true
  | .pastDue | .canceled => false

end SubscriptionStatus

/-- `character varying(width)`. No value ends in spaces, which the server would cut off. -/
def Varchar (width : Nat) (text : String) : Prop := text.length ≤ width

def BigInt (value : Int) : Prop := -2 ^ 63 ≤ value ∧ value < 2 ^ 63

structure Tenant where
  id : UUID
  name : String
  email : String
  apiKeyHash : Option String
  stripeCustomerId : Option String
  createdAt : Int
deriving DecidableEq

def Tenant.Storable (tenant : Tenant) : Prop := Varchar 255 tenant.name ∧ Varchar 255 tenant.email

instance (tenant : Tenant) : Decidable tenant.Storable := inferInstanceAs (Decidable (_ ≤ _ ∧ _ ≤ _))

instance : Keyed Tenant where
  Clash first second := first.id = second.id ∨
    first.stripeCustomerId ≠ none ∧ first.stripeCustomerId = second.stripeCustomerId
  symm := by
    intro first second clash
    rcases clash with same | ⟨present, same⟩
    · exact Or.inl same.symm
    · exact Or.inr ⟨same ▸ present, same.symm⟩
  decidable _ _ := inferInstanceAs (Decidable (_ ∨ _))

structure Plan where
  id : PlanTier
  name : String
  apiCallQuota : Int
  aiTokenQuota : Int
deriving DecidableEq

instance : Keyed Plan where
  Clash first second := first.id = second.id
  symm := Eq.symm
  decidable _ _ := inferInstanceAs (Decidable (_ = _))

structure Subscription where
  id : UUID
  tenantId : UUID
  planId : PlanTier
  stripeSubscriptionId : Option String
  status : SubscriptionStatus
  currentPeriodStart : Option Int
  currentPeriodEnd : Option Int
  cancelAtPeriodEnd : Bool
  canceledAt : Option Int
  updatedAt : Int
deriving DecidableEq

/-- One row for each tenant and one for each Stripe subscription; null identifiers differ. -/
instance : Keyed Subscription where
  Clash first second := first.id = second.id ∨ first.tenantId = second.tenantId ∨
    first.stripeSubscriptionId ≠ none ∧ first.stripeSubscriptionId = second.stripeSubscriptionId
  symm := by
    intro first second clash
    rcases clash with same | same | ⟨present, same⟩
    · exact Or.inl same.symm
    · exact Or.inr (Or.inl same.symm)
    · exact Or.inr (Or.inr ⟨same ▸ present, same.symm⟩)
  decidable _ _ := inferInstanceAs (Decidable (_ ∨ _ ∨ _))

structure UsageEvent where
  id : UUID
  tenantId : UUID
  idempotencyKey : String
  usageType : UsageType
  quantity : Int
  costMicrounits : Int
  requestIp : Option String
  userAgent : Option String
  createdAt : Int
deriving DecidableEq

def idempotencyKeyWidth : Nat := 255

/-- The key and the address come from the client. -/
structure UsageEvent.Storable (event : UsageEvent) : Prop where
  idempotencyKey : Varchar idempotencyKeyWidth event.idempotencyKey
  requestIp : ∀ requestIp ∈ event.requestIp, Varchar 45 requestIp
  quantity : BigInt event.quantity
  costMicrounits : BigInt event.costMicrounits

instance (event : UsageEvent) : Decidable event.Storable :=
  decidable_of_iff (event.idempotencyKey.length ≤ idempotencyKeyWidth ∧
      (∀ requestIp ∈ event.requestIp, requestIp.length ≤ 45) ∧
      (-2 ^ 63 ≤ event.quantity ∧ event.quantity < 2 ^ 63) ∧ -2 ^ 63 ≤ event.costMicrounits ∧ event.costMicrounits < 2 ^ 63)
    ⟨fun ⟨key, ip, quantity, cost⟩ => ⟨key, ip, quantity, cost⟩, fun ⟨key, ip, quantity, cost⟩ => ⟨key, ip, quantity, cost⟩⟩

/-- The columns of `uq_tenant_idempotency_usage_type`. -/
structure UsageKey where
  tenantId : UUID
  idempotencyKey : String
  usageType : UsageType
deriving DecidableEq

def UsageEvent.key (event : UsageEvent) : UsageKey := ⟨event.tenantId, event.idempotencyKey, event.usageType⟩

instance : Keyed UsageEvent where
  Clash first second := first.id = second.id ∨ first.key = second.key
  symm := Or.imp Eq.symm Eq.symm
  decidable _ _ := inferInstanceAs (Decidable (_ ∨ _))

/-- `payload` is the text of the JSON column; a row without one cannot be sent. -/
structure ProcessedStripeEvent where
  id : UUID
  eventId : String
  eventType : String
  payload : Option String
  tenantId : Option UUID
deriving DecidableEq

/-- `id` comes from `Base` and `event_id` is declared here: the primary key is the pair. -/
instance : Keyed ProcessedStripeEvent where
  Clash first second := first.id = second.id ∧ first.eventId = second.eventId
  symm := And.imp Eq.symm Eq.symm
  decidable _ _ := inferInstanceAs (Decidable (_ ∧ _))

structure Database where
  tenants : Table Tenant
  plans : Table Plan
  subscriptions : Table Subscription
  usageEvents : Table UsageEvent
  processedStripeEvents : Table ProcessedStripeEvent
deriving DecidableEq

/-- What Python code can raise. `database` carries the text the server or the driver reports. -/
inductive PyError where
  | quotaExceeded (usageType : UsageType) (used limit requested : Int)
  | paymentRequired (message : String)
  | http (status : Nat) (detail : Json) (headers : List (String × String))
  | database (message : String)
  | integrity (constraint : String)
  | multipleResultsFound
  | valueError (message : String)
  | attributeError (message : String)
  | invalidOperation
  | invalidRequest (message : String)
  | noException
  | stripe (message : String)
deriving DecidableEq

/-- `str(exc)`. -/
def PyError.message : PyError → String
  | .quotaExceeded usageType used limit requested =>
    "Quota exceeded for " ++ usageType.value ++ ":used=" ++ toString used ++ ", limit=" ++ toString limit ++
      ", reqested=" ++ toString requested
  | .paymentRequired message => message
  | .http status detail _ => toString status ++ ": " ++ (detail.str?).getD ""
  | .database message => message
  | .integrity constraint => "duplicate key value violates unique constraint \"" ++ constraint ++ "\""
  | .multipleResultsFound => "Multiple rows were found when one or none was required"
  | .valueError message => message
  | .attributeError message => message
  | .invalidOperation => "[<class 'decimal.InvalidOperation'>]"
  | .invalidRequest message => message
  | .noException => "exceptions must derive from BaseException"
  | .stripe message => message

end MeteringBilling
