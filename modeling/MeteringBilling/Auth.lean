import MeteringBilling.Cache
import MeteringBilling.Repositories

/-! The authentication dependency: the tenant that a request names, from Redis or from the
tables, and its API key. -/

namespace MeteringBilling

structure Credentials where
  xTenantId : String
  xApiKey : Option String
deriving DecidableEq

/-- The `id` of a `Tenant` object. An object built from the cache holds its text. -/
inductive TenantId where
  | uuid (id : UUID)
  | text (value : String)
deriving DecidableEq

/-- The parameter that a query gets from it: the driver reads a text as an identifier. -/
def TenantId.bound : TenantId → Except PyError UUID
  | uuid id => .ok id
  | text value =>
    match UUID.parse? value with
    | some id => .ok id
    | none => .error (.database "invalid UUID")

/-- A `Tenant` object. What the cache does not hold is unset. -/
structure CurrentTenant where
  id : TenantId
  name : String
  email : String
  apiKeyHash : Option String
  stripeCustomerId : Option String
  createdAt : Option Int
deriving DecidableEq

def Tenant.current (row : Tenant) : CurrentTenant where
  id := .uuid row.id
  name := row.name
  email := row.email
  apiKeyHash := row.apiKeyHash
  stripeCustomerId := row.stripeCustomerId
  createdAt := some row.createdAt

def tenantCacheKey (tenantId : UUID) : String := "tenant:" ++ tenantId.str

def tenantCacheTtl : Nat := 60

def optionalText : Option String → Json
  | some value => .str value
  | none => .null

def optionalText? : Json → Option (Option String)
  | .str value => some (some value)
  | .null => some none
  | _ => none

def Tenant.cacheData (row : Tenant) : Json := .obj
  [("id", .str row.id.str),
    ("name", .str row.name),
    ("email", .str row.email),
    ("api_key_hash", optionalText row.apiKeyHash),
    ("stripe_customer_id", optionalText row.stripeCustomerId)]

/-- `Tenant(**cached)`. -/
def tenantOfCache (cached : Json) : Except PyError CurrentTenant :=
  let tenant := do
    let id ← (← cached.get? "id").str?
    let name ← (← cached.get? "name").str?
    let email ← (← cached.get? "email").str?
    let apiKeyHash ← optionalText? (← cached.get? "api_key_hash")
    let stripeCustomerId ← optionalText? (← cached.get? "stripe_customer_id")
    pure { id := .text id, name, email, apiKeyHash, stripeCustomerId, createdAt := none : CurrentTenant }
  match tenant with
  | some tenant => .ok tenant
  | none => .error (.valueError "invalid keyword argument for Tenant")

def unauthorized (detail : String) : PyError := .http 401 (.str detail) []

section

variable (verifyApiKey : String → String → Bool)

/-- An absent or empty key is not checked, and neither is a tenant without a hash. -/
def checkApiKey (xApiKey apiKeyHash : Option String) : Except PyError Unit :=
  match xApiKey.filter (· ≠ ""), apiKeyHash.filter (· ≠ "") with
  | some plainKey, some hash => if verifyApiKey plainKey hash then .ok () else .error (unauthorized "Invalid API key")
  | _, _ => .ok ()

/-- `verifyApiKey` is `AuthService.verify_api_key`, a bcrypt comparison. The statement that loads the
tenant's subscription along with the tenant is left out: nothing here reads it. -/
def getCurrentTenant (credentials : Credentials) : Request CurrentTenant := do
  match UUID.parse? credentials.xTenantId with
  | none => Effect.raise (unauthorized "Invalid X-Tenant-ID format")
  | some tenantId => do
    let cached ← cacheGet (tenantCacheKey tenantId)
    match cached.filter Json.truthy with
    | some cached => do
      let tenant ← Effect.ofExcept (tenantOfCache cached)
      Effect.ofExcept (checkApiKey verifyApiKey credentials.xApiKey tenant.apiKeyHash)
      pure tenant
    | none => do
      let row ← scalarOneOrNone (← query .selectCurrentTenant (·.tenants.select (·.id == tenantId)))
      match row with
      | none => Effect.raise (unauthorized "Tenant not found")
      | some row => do
        Effect.ofExcept (checkApiKey verifyApiKey credentials.xApiKey row.apiKeyHash)
        cacheSet (tenantCacheKey tenantId) row.cacheData tenantCacheTtl
        pure row.current

end

end MeteringBilling
