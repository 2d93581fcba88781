import MeteringBilling.Library.Machine
import MeteringBilling.Library.RecentMemo

/-! The verification of API keys. It is slow by intent, so that what bcrypt has told of a key and a hash
is kept for the pairs asked last. -/

namespace MeteringBilling.AuthService

-- What bcrypt tells of a key and a hash; it may raise.
variable (checkpw : String → String → Option Bool)

/-- `_verify_api_key_cached` without its cache. -/
def checks (pair : String × String) : Bool := (checkpw pair.1 pair.2).getD false

def maxsize : Nat := 1000

structure Verifier where
  cache : RecentMemo maxsize (checks checkpw)
  checked : List (String × String)

namespace Verifier

def initial : Verifier checkpw := ⟨.empty, []⟩

variable {checkpw} (verifier : Verifier checkpw)

def verifyApiKey (plainKey hash : String) : Bool × Verifier checkpw :=
  let checked := if (plainKey, hash) ∈ verifier.cache.keys then verifier.checked else verifier.checked ++ [(plainKey, hash)]
  (verifier.cache.value (plainKey, hash), ⟨verifier.cache.ask (plainKey, hash), checked⟩)

def clearCache : Verifier checkpw := ⟨.empty, verifier.checked⟩

end Verifier

inductive Verification where
  | verifyApiKey (plainKey hash : String)
  | clearCache
deriving DecidableEq

def verifying : Machine Verification (Verifier checkpw) where
  step action verifier :=
    match action with
    | .verifyApiKey plainKey hash => some (verifier.verifyApiKey plainKey hash).2
    | .clearCache => some verifier.clearCache

end MeteringBilling.AuthService
