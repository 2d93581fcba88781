import MeteringBilling.Library.Uuid

/-! The middleware that wants an idempotency key on every request that records usage. -/

namespace MeteringBilling

structure IncomingRequest where
  path : String
  method : String
  idempotencyKey : Option String
deriving DecidableEq

/-- It calls the next handler, or answers itself. -/
inductive Disposition where
  | callNext
  | respond (status : Nat) (detail : String)
deriving DecidableEq

namespace IdempotencyMiddleware

def idempotencyPaths : List String := ["/api/v1/meter"]

def idempotencyMethods : List String := ["POST", "PUT", "PATCH"]

/-- An absent key and an empty one are both missing. -/
def dispatch (request : IncomingRequest) : Disposition :=
  if request.path ∈ idempotencyPaths ∧ request.method ∈ idempotencyMethods then
    match request.idempotencyKey.filter (· ≠ "") with
    | none => .respond 400 "Idempotency-Key header is required"
    | some idempotencyKey =>
      match UUID.parseAs? 4 idempotencyKey with
      | none => .respond 400 "Idempotency-Key must be a valid UUID v4"
      | some _ => .callNext
  else .callNext

end IdempotencyMiddleware

end MeteringBilling
