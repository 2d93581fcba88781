import Mathlib.Algebra.Order.Field.Rat
import MeteringBilling.Session

/-! Retrying a call whose database error looks transient, after `src/config/database.py`. -/

namespace MeteringBilling

universe u

def transientErrors : List String :=
  ["deadlock detected", "could not obtain lock", "connection reset", "connection refused",
    "server closed the connection", "connection timed out", "too many connections", "sorry, too many clients"]

/-- `phrase in text`. -/
def occursIn (phrase : List Char) : List Char → Bool
  | [] => phrase.isEmpty
  | char :: rest => phrase.isPrefixOf (char :: rest) || occursIn phrase rest

/-- The message contains one of the phrases, whatever the case of its letters. -/
def isTransientError (exc : PyError) : Bool :=
  let message := exc.message.toList.map Char.toLower
  transientErrors.any fun phrase => occursIn phrase.toList message

structure RetryPolicy where
  maxRetries : Nat := 3
  baseDelay : ℚ := 1 / 10
  maxDelay : ℚ := 2

def RetryPolicy.wait (policy : RetryPolicy) (attempt : Nat) : ℚ :=
  let delay := min (policy.baseDelay * 2 ^ attempt) policy.maxDelay
  let jitter := delay * (1 / 10)
  delay + jitter * (attempt + 1)

section

variable {ρ ε σ α : Type u} (policy : RetryPolicy) (transient : ε → Bool) (sleep : ℚ → Effect ρ ε σ PUnit)
  (func : Nat → Effect ρ ε σ α)

/-- The loop over the attempts that are left, and the `raise last_exc` behind it. -/
def retryAttempts : List Nat → ε → Effect ρ ε σ α
  | [], lastExc => Effect.raise lastExc
  | attempt :: rest, _ => Effect.handle (func attempt) fun exc =>
    if !transient exc || attempt == policy.maxRetries - 1 then Effect.raise exc
    else do
      sleep (policy.wait attempt)
      retryAttempts rest exc

/-- The decorator's wrapper. `noException` is what `raise None` raises. -/
def withDbRetry (noException : ε) : Effect ρ ε σ α :=
  retryAttempts policy transient sleep func (List.range policy.maxRetries) noException

end

end MeteringBilling
