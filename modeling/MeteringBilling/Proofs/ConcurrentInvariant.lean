import MeteringBilling.Proofs.ConcurrentSteps

/-! The uncommitted rows fit the committed ones and one another, whatever the interleaving.
Waiting for a clashing row is what makes this an invariant. -/

namespace MeteringBilling

variable {ι : Type} [DecidableEq ι] {incoming : ι → Incoming} {world next : World ι} {request : ι}

/-- What a phase remembers of its event: the key is the request's own, and an event that was
found is committed. -/
def Remembers (call : MeterCall) (database : Database) : Phase → Prop
  | .recorded event _ fresh => event.key = call.key ∧ (fresh = false → event ∈ database.usageEvents)
  | .answered response event fresh =>
    event.key = call.key ∧ response.usageEventId = event.id ∧ (fresh = false → event ∈ database.usageEvents)
  | _ => True

structure Consistent (incoming : ι → Incoming) (world : World ι) : Prop where
  fits : ∀ request, ∀ event ∈ (world.phase request).pending, world.store.database.usageEvents.Fits event
  separate : ∀ request, ∀ event ∈ (world.phase request).pending, Unblocked request event world
  remembers : ∀ request, Remembers (incoming request).call world.store.database (world.phase request)

namespace Remembers

variable {call : MeterCall} {database : Database} {event : UsageEvent} {info : QuotaInfo} {response : MeterResponse}
  {fresh : Bool}

theorem grow {after : Database} {phase : Phase} (remembers : Remembers call database phase)
    (grown : ∀ event ∈ database.usageEvents, event ∈ after.usageEvents) : Remembers call after phase := by
  cases phase with
  | recorded event info fresh => exact ⟨remembers.1, fun old => grown event (remembers.2 old)⟩
  | answered response event fresh =>
    exact ⟨remembers.1, remembers.2.1, fun old => grown event (remembers.2.2 old)⟩
  | _ => trivial

end Remembers

theorem eventOf?_mem {database : Database} {key : UsageKey} {event : UsageEvent}
    (stored : database.eventOf? key = some event) : event ∈ database.usageEvents ∧ event.key = key := by
  have selected := List.find?_some stored
  exact ⟨List.mem_of_find?_eq_some stored, eq_of_beq selected⟩

theorem eventOf?_of_mem {database : Database} {event : UsageEvent} (member : event ∈ database.usageEvents) :
    database.eventOf? event.key = some event := by
  cases found : database.eventOf? event.key with
  | none => exact absurd (beq_self_eq_true event.key) (List.find?_eq_none.mp found event member)
  | some stored =>
    obtain ⟨inside, same⟩ := eventOf?_mem found
    rw [Table.eq_of_clash inside member (Or.inr same)]

namespace Consistent

omit [DecidableEq ι] in
theorem initial (store : Store) {phase : Phase} (pending : phase.pending = none)
    (remembers : ∀ request, Remembers (incoming request).call store.database phase) :
    Consistent incoming ⟨store, fun _ => phase⟩ where
  fits request event member := by simp [pending] at member
  separate request event member := by simp [pending] at member
  remembers := remembers

/-- A request enters a phase. What others hold stays apart from each other and, when the
request holds a row of its own, from that. -/
theorem become (consistent : Consistent incoming world) {phase : Phase}
    (fits : ∀ event ∈ phase.pending, world.store.database.usageEvents.Fits event)
    (separate : ∀ event ∈ phase.pending, Unblocked request event world)
    (remembers : Remembers (incoming request).call world.store.database phase) :
    Consistent incoming (world.become request phase) where
  fits other event member := by
    by_cases same : other = request
    · subst same
      rw [World.become_phase] at member
      exact fits event member
    · rw [World.become_other same] at member
      exact consistent.fits other event member
  separate other event member third different held holding := by
    by_cases same : other = request
    · subst same
      rw [World.become_phase] at member
      rw [World.become_other different] at holding
      exact separate event member third different held holding
    · rw [World.become_other same] at member
      by_cases own : third = request
      · subst own
        rw [World.become_phase] at holding
        exact fun clash => separate held holding other same event member (Keyed.symm clash)
      · rw [World.become_other own] at holding
        exact consistent.separate other event member third different held holding
  remembers other := by
    by_cases same : other = request
    · subst same
      rw [World.become_phase]
      exact remembers
    · rw [World.become_other same]
      exact consistent.remembers other

theorem become_idle (consistent : Consistent incoming world) {phase : Phase} (idle : phase.pending = none)
    (remembers : Remembers (incoming request).call world.store.database phase) :
    Consistent incoming (world.become request phase) :=
  consistent.become (by simp [idle]) (by simp [idle]) remembers

theorem commit (consistent : Consistent incoming world) {event : UsageEvent} {phase : Phase}
    (own : event ∈ (world.phase request).pending) (idle : phase.pending = none)
    (remembers : Remembers (incoming request).call world.store.database phase)
    (fits : world.store.database.usageEvents.Fits event) : Consistent incoming { world.become request phase with
      store := { world.store with database := { world.store.database with
        usageEvents := world.store.database.usageEvents.add event fits } } } where
  fits other held member := by
    have different : other ≠ request := by
      rintro rfl
      simp [World.become, idle] at member
    have holding : held ∈ (world.phase other).pending := by simpa [World.become, different] using member
    intro stored inside clash
    rw [Table.add_rows, List.mem_append, List.mem_singleton] at inside
    rcases inside with inside | rfl
    · exact consistent.fits other held holding stored inside clash
    · exact consistent.separate request stored own other different held holding (Keyed.symm clash)
  separate := (consistent.become_idle idle remembers).separate
  remembers other := by
    apply ((consistent.become_idle idle remembers).remembers other).grow
    intro stored inside
    exact Table.mem_rows.mpr (List.mem_append_left _ inside)

end Consistent

theorem Moves.consistent {action : Action ι} (moves : Moves incoming action world next)
    (consistent : Consistent incoming world) : Consistent incoming next := by
  cases moves with
  | hit phase | missed phase => exact consistent.become_idle rfl trivial
  | admitted phase admission | refused phase admission => exact consistent.become_idle rfl trivial
  | inserted phase unblocked storable tenant fits =>
    refine consistent.become ?_ ?_ ⟨rfl, fun found => by cases found⟩
    · intro event member
      obtain rfl := Option.some.inj member
      exact fits
    · intro event member
      obtain rfl := Option.some.inj member
      exact unblocked
  | conflicted phase taken => exact consistent.become_idle rfl trivial
  | rejected phase refused => exact consistent.become_idle rfl trivial
  | found phase stored =>
    obtain ⟨member, key⟩ := eventOf?_mem stored
    exact consistent.become_idle rfl ⟨key, fun _ => member⟩
  | lost phase absent => exact consistent.become_idle rfl trivial
  | @responded _ request event info fresh _ phase reached =>
    subst reached
    have remembers := consistent.remembers request
    have held := consistent.fits request
    have apart := consistent.separate request
    rw [phase] at remembers held apart
    have pending : (Phase.answered (responseOf incoming request event info) event fresh).pending =
        (Phase.recorded event info fresh).pending := by cases fresh <;> rfl
    have after : Consistent incoming
        (world.become request (.answered (responseOf incoming request event info) event fresh)) :=
      consistent.become (by rw [pending]; exact held) (by rw [pending]; exact apart)
        ⟨remembers.1, rfl, remembers.2⟩
    exact ⟨after.fits, after.separate, after.remembers⟩
  | @committed _ request response event _ phase fits reached =>
    subst reached
    have own : event ∈ (world.phase request).pending := by rw [phase]; rfl
    have finished : Remembers (incoming request).call world.store.database (.finished (.ok response)) := trivial
    exact consistent.commit own rfl finished fits
  | returned phase => exact consistent.become_idle rfl trivial
  | aborted unfinished => exact consistent.become_idle rfl trivial
  | evicted => exact ⟨consistent.fits, consistent.separate, consistent.remembers⟩
  | reconfigured => exact ⟨consistent.fits, consistent.separate, consistent.remembers⟩

variable [Fintype ι]

theorem consistent_invariant : (concurrent incoming).Invariant (fun _ => True) (Consistent incoming) :=
  fun _ _ _ _ consistent taken => (step_moves taken).consistent consistent

end MeteringBilling
