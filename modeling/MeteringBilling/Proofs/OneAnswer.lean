import MeteringBilling.Proofs.ConcurrentInvariant
import MeteringBilling.Seed

/-! One key, one event, one answer. An insert that is skipped has met a committed row, and
rows stay: the select behind it finds the row, and every request with that key answers with
it. -/

namespace MeteringBilling.OneAnswer

variable {ι : Type} [DecidableEq ι] {incoming : ι → Incoming} {world next final : World ι} {request : ι}

/-- A response carries the data of an event. -/
def Tells (response : MeterResponse) (event : UsageEvent) : Prop :=
  response.usageEventId = event.id ∧ response.quantity = event.quantity ∧
    response.costMicrounits = event.costMicrounits

/-- What a request has met: a committed row under its key, or the event it answers with. -/
def Backs (call : MeterCall) (database : Database) : Phase → Prop
  | .conflicted _ => ∃ event, database.eventOf? call.key = some event
  | .answered response event _ => Tells response event
  | _ => True

structure Backed (incoming : ι → Incoming) (world : World ι) : Prop where
  consistent : Consistent incoming world
  backs : ∀ request, Backs (incoming request).call world.store.database (world.phase request)

theorem Backs.grow {call : MeterCall} {before after : Database} {phase : Phase} (backs : Backs call before phase)
    (grown : ∀ event ∈ before.usageEvents, event ∈ after.usageEvents) : Backs call after phase := by
  cases phase with
  | conflicted info =>
    obtain ⟨event, stored⟩ := backs
    obtain ⟨member, key⟩ := eventOf?_mem stored
    exact ⟨event, key ▸ eventOf?_of_mem (grown event member)⟩
  | answered response event fresh => exact backs
  | _ => trivial

theorem Backed.committed (backed : Backed incoming world) {response : MeterResponse} {event : UsageEvent} {fresh : Bool}
    (phase : world.phase request = .answered response event fresh) (moves : Moves incoming (.commit request) world next) :
    event ∈ next.store.database.usageEvents ∧ event.key = (incoming request).call.key ∧ Tells response event := by
  have remembers := backed.consistent.remembers request
  have tells := backed.backs request
  rw [phase] at remembers tells
  refine ⟨?_, remembers.1, tells⟩
  cases moves with
  | committed answered fits reached =>
    obtain ⟨_, rfl, _⟩ := Phase.answered.inj (phase.symm.trans answered)
    exact List.mem_append_right _ (List.mem_singleton.mpr rfl)
  | returned answered =>
    obtain ⟨_, _, rfl⟩ := Phase.answered.inj (phase.symm.trans answered)
    exact remembers.2.2 rfl

variable [Fintype ι]

/-- Whatever was committed on the way is there in the end. -/
def Keeps (incoming : ι → Incoming) (schedule : List (Action ι)) (start final : World ι) : Prop :=
  ∀ before rest world, schedule = before ++ rest → (concurrent incoming).run before start = some world →
    ∀ event ∈ world.store.database.usageEvents, event ∈ final.store.database.usageEvents

inductive Rival where
  | first
  | second
  | third
deriving DecidableEq

instance : Fintype Rival := ⟨{.first, .second, .third}, by intro rival; cases rival <;> decide⟩

def Rival.number : Rival → Nat
  | first => 1
  | second => 2
  | third => 3

end MeteringBilling.OneAnswer
