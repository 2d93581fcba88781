import Mathlib.Data.Rat.Floor
import MeteringBilling.Library.Machine
import MeteringBilling.Library.SortedSet

/-! The sliding-window rate limiter. Times are in seconds, exact: the rounding of floats is
left out. -/

namespace MeteringBilling

/-- What Redis holds under a rate key. A member is the text of a clock reading, which stands
here as the reading itself: different readings have different texts. -/
structure RateKey where
  requests : SortedSet ℚ ℚ
  expiresAt : Option ℚ

namespace RateKey

def absent : RateKey := ⟨.empty, none⟩

def live (key : RateKey) (now : ℚ) : SortedSet ℚ ℚ :=
  if ∃ deadline ∈ key.expiresAt, deadline ≤ now then .empty else key.requests

end RateKey

structure RedisRateLimiter where
  maxRequests : Nat
  windowSeconds : Nat

/-- Python's `int` of a number. -/
def truncate (number : ℚ) : Int := if 0 ≤ number then ⌊number⌋ else ⌈number⌉

namespace RedisRateLimiter

variable (limiter : RedisRateLimiter)

def window (now : ℚ) (key : RateKey) : SortedSet ℚ ℚ :=
  (key.live now).removeRangeByScore 0 (now - limiter.windowSeconds)

/-- The pipeline counts before it adds the request. Without Redis every request is allowed. -/
def isAllowed (redisUp : Bool) (now : ℚ) (key : RateKey) : (Bool × Int) × RateKey :=
  if !redisUp then ((true, 0), key)
  else
    let window := limiter.window now key
    let currentCount := window.card
    let requests := window.add now now
    let after := ⟨requests, some (now + (limiter.windowSeconds + 1))⟩
    if limiter.maxRequests ≤ currentCount then
      match requests.first? with
      | some oldest =>
        let retryAfter := truncate (oldest.2 + limiter.windowSeconds - now) + 1
        ((false, max retryAfter 1), after)
      | none => ((false, limiter.windowSeconds), after)
    else ((true, 0), after)

end RedisRateLimiter

/-- A rate key with the last clock reading of a call on it, and the calls that were allowed. -/
structure Traffic where
  key : RateKey
  latest : Option ℚ
  allowed : List ℚ

def Traffic.none : Traffic := ⟨.absent, Option.none, []⟩

def Traffic.after (traffic : Traffic) (limiter : RedisRateLimiter) (now : ℚ) : Traffic where
  key := (limiter.isAllowed true now traffic.key).2
  latest := some now
  allowed := if (limiter.isAllowed true now traffic.key).1.1 then traffic.allowed ++ [now] else traffic.allowed

/-- Calls on one key, one after another, while the clock does not go back. -/
def calling (limiter : RedisRateLimiter) : Machine ℚ Traffic where
  step now traffic := if ∀ before ∈ traffic.latest, before ≤ now then some (traffic.after limiter now) else none

end MeteringBilling
