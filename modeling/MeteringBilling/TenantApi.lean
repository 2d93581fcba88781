import MeteringBilling.Auth

/-! `GET /tenants/me`: the tenant of the request, as a strict model. -/

namespace MeteringBilling

structure TenantResponse where
  id : String
  name : String
  stripeCustomerId : Option String
  createdAt : Int
deriving DecidableEq

/-- `TenantResponse(..)`. A strict field takes no identifier for a text, and no null for a time. -/
def tenantResponse (tenant : CurrentTenant) : Except PyError TenantResponse :=
  match tenant.id, tenant.createdAt with
  | .text id, some createdAt =>
    .ok { id, name := tenant.name, stripeCustomerId := tenant.stripeCustomerId, createdAt }
  | _, _ => .error (.valueError "validation error for TenantResponse")

def getCurrentTenantInfo (verifyApiKey : String → String → Bool) (credentials : Credentials) : Request TenantResponse := do
  let tenant ← getCurrentTenant verifyApiKey credentials
  Effect.ofExcept (tenantResponse tenant)

end MeteringBilling
