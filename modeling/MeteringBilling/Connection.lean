import Mathlib.Data.Rat.Defs
import Mathlib.Algebra.Order.Ring.Rat
import MeteringBilling.Library.Machine

/-! The client of Redis that all requests of a process share. `get_redis` gives up control while its
ping is under way, and `close_redis` while the client closes, so that their steps interleave. -/

namespace MeteringBilling

/-- The module's variables, and what has become of the clients. An attempt to connect is known by its
place among the attempts, and so is the client that it makes. -/
structure Connections where
  pool : Option Nat
  lastConnectionAttempt : ℚ
  /-- The last reading of the clock. -/
  clock : ℚ
  attempts : List ℚ
  pinging : List Nat
  answered : List Nat
  failed : List Nat
  closing : List Nat
  closed : List Nat

namespace Connections

def initial : Connections := ⟨none, 0, 0, [], [], [], [], [], []⟩

def connectionCooldown : ℚ := 5

/-- A call of `get_redis` is over and returns a client or none, or it waits for the ping of one that it has made. -/
inductive Outcome where
  | returns (client : Option Nat)
  | pings (client : Nat)

/-- `get_redis` up to its ping. Where no client can be made of the settings, nothing is pinged. -/
def getRedis (now : ℚ) (made : Bool) (connections : Connections) : Outcome × Connections :=
  match connections.pool with
  | some client => (.returns (some client), connections)
  | none =>
    if now - connections.lastConnectionAttempt < connectionCooldown then (.returns none, { connections with clock := now })
    else
      let client := connections.attempts.length
      let connections :=
        { connections with lastConnectionAttempt := now, clock := now, attempts := connections.attempts ++ [now] }
      if made then (.pings client, { connections with pool := some client, pinging := connections.pinging ++ [client] })
      else (.returns none, connections)

/-- `get_redis` behind its ping, with what it returns. That is what is in the pool by then, and a failure empties it,
whichever client is in there. -/
def pinged (client : Nat) (answered : Bool) (connections : Connections) : Option Nat × Connections :=
  let connections := { connections with pinging := connections.pinging.erase client }
  if answered then (connections.pool, { connections with answered := connections.answered ++ [client] })
  else (none, { connections with pool := none, failed := connections.failed ++ [client] })

/-- `close_redis` until the client is closed. -/
def closeRedis (connections : Connections) : Connections :=
  match connections.pool with
  | none => connections
  | some client => { connections with closing := connections.closing ++ [client] }

def clientClosed (client : Nat) (connections : Connections) : Connections :=
  { connections with
    pool := none
    closing := connections.closing.erase client
    closed := connections.closed ++ [client] }

end Connections

inductive ConnectionAction where
  | getRedis (now : ℚ) (made : Bool)
  | pinged (client : Nat) (answered : Bool)
  | closeRedis
  | clientClosed (client : Nat)
deriving DecidableEq

def ConnectionAction.returned (connections : Connections) : ConnectionAction → Option Nat
  | getRedis now made => match (connections.getRedis now made).1 with
    | .returns client => client
    | .pings _ => none
  | pinged client answered => (connections.pinged client answered).1
  | closeRedis | clientClosed _ => none

/-- Calls of `get_redis` and `close_redis` in any order, with the clock that does not go back. -/
def connecting : Machine ConnectionAction Connections where
  step action connections :=
    match action with
    | .getRedis now made => if connections.clock ≤ now then some (connections.getRedis now made).2 else none
    | .pinged client answered => if client ∈ connections.pinging then some (connections.pinged client answered).2 else none
    | .closeRedis => some connections.closeRedis
    | .clientClosed client => if client ∈ connections.closing then some (connections.clientClosed client) else none

end MeteringBilling
