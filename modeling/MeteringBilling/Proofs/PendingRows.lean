import MeteringBilling.Proofs.ConcurrentSteps

/-! What a request in flight has inserted and not committed is its own row. -/

namespace MeteringBilling

variable {ι : Type} [DecidableEq ι] {incoming : ι → Incoming} {world next : World ι} {request : ι}

def OwnRows (incoming : ι → Incoming) (world : World ι) : Prop :=
  ∀ request, ∀ event ∈ (world.phase request).pending, ∃ cost, event = rowOf incoming request cost

namespace OwnRows

omit [DecidableEq ι] in
theorem initial (store : Store) {phase : Phase} (idle : phase.pending = none) :
    OwnRows incoming ⟨store, fun _ => phase⟩ := by
  intro request event member
  simp [idle] at member

theorem become (own : OwnRows incoming world) {phase : Phase}
    (rows : ∀ event ∈ phase.pending, ∃ cost, event = rowOf incoming request cost) :
    OwnRows incoming (world.become request phase) := by
  intro other event member
  by_cases same : other = request
  · subst same
    rw [World.become_phase] at member
    exact rows event member
  · rw [World.become_other same] at member
    exact own other event member

theorem become_idle (own : OwnRows incoming world) {phase : Phase} (idle : phase.pending = none) :
    OwnRows incoming (world.become request phase) :=
  own.become (by simp [idle])

end OwnRows

theorem Moves.ownRows {action : Action ι} (moves : Moves incoming action world next) (own : OwnRows incoming world) :
    OwnRows incoming next := by
  cases moves with
  | hit phase | missed phase => exact own.become_idle rfl
  | admitted phase admission | refused phase admission => exact own.become_idle rfl
  | @inserted _ request info cost phase unblocked storable tenant fits =>
    refine own.become fun event member => ?_
    exact ⟨cost, (Option.some.inj member).symm⟩
  | conflicted phase taken => exact own.become_idle rfl
  | rejected phase refused => exact own.become_idle rfl
  | found phase stored => exact own.become_idle rfl
  | lost phase absent => exact own.become_idle rfl
  | @responded _ request event info fresh _ phase reached =>
    subst reached
    have rows := own request
    rw [phase] at rows
    exact own.become (by cases fresh <;> exact rows)
  | committed phase fits reached =>
    subst reached
    exact own.become_idle rfl
  | returned phase => exact own.become_idle rfl
  | aborted unfinished => exact own.become_idle rfl
  | evicted => exact own
  | reconfigured => exact own

end MeteringBilling
