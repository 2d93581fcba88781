import Mathlib.Algebra.Order.BigOperators.Ring.Finset
import MeteringBilling.Proofs.HardQuota
import MeteringBilling.Proofs.PendingRows

/-! How far concurrent recording can overrun a quota. A request is admitted against the committed
usage, so it can miss what other requests have open at that moment, and nothing else: the overrun is
bounded by the number of requests that are open at once. -/

namespace MeteringBilling.Overshoot

open Finset

/-- Requests that post usage while the plan stays as it is, in one month. -/
structure Crowd (ι : Type) where
  incoming : ι → Incoming
  store : Store
  tenantId : UUID
  usageType : UsageType
  limit : Int
  start : Int
  most : Nat
  limited : store.database.limit? tenantId usageType = some limit
  room : store.database.monthlyUsage tenantId usageType start ≤ limit
  month : ∀ request, (incoming request).call.tenantId = tenantId →
    (incoming request).call.request.usageType = usageType → (incoming request).env.monthStart = start
  bounded : ∀ request, (incoming request).call.tenantId = tenantId →
    (incoming request).call.request.usageType = usageType → (incoming request).call.request.qty ≤ most

/-- The request has passed its quota check and its transaction has not ended. -/
def opens : Phase → Bool
  | .admitted _ _ | .conflicted _ | .recorded _ _ _ | .answered _ _ _ => true
  | .arrived | .missed | .finished _ => false

namespace Crowd

variable {ι : Type} (crowd : Crowd ι)

def initial : World ι := ⟨crowd.store, fun _ => .arrived⟩

def quantity (request : ι) : Int := (crowd.incoming request).call.request.qty

def Counts (request : ι) : Prop :=
  (crowd.incoming request).call.tenantId = crowd.tenantId ∧
    (crowd.incoming request).call.request.usageType = crowd.usageType

instance : DecidablePred crowd.Counts := fun _ => inferInstanceAs (Decidable (_ ∧ _))

def used (world : World ι) : Int := world.store.database.monthlyUsage crowd.tenantId crowd.usageType crowd.start

variable [Fintype ι]

def inFlight (world : World ι) : Finset ι := univ.filter fun request => crowd.Counts request ∧ opens (world.phase request)

def weight (world : World ι) : Int := ∑ request ∈ crowd.inFlight world, crowd.quantity request

def AtMost (many : Nat) (world : World ι) : Prop := (crowd.inFlight world).card ≤ many

/-- The quota, overrun by what all but one of the open requests can ask for. -/
def Within (many : Nat) (world : World ι) : Prop := crowd.used world ≤ crowd.limit + ((many - 1) * crowd.most : Nat)

end Crowd

variable {ι : Type} [DecidableEq ι] [Fintype ι] {crowd : Crowd ι} {world next : World ι} {request : ι} {many : Nat}

structure Kept (crowd : Crowd ι) (many : Nat) (world : World ι) : Prop where
  limited : world.store.database.limit? crowd.tenantId crowd.usageType = some crowd.limit
  rows : OwnRows crowd.incoming world
  budget : crowd.used world + crowd.weight world ≤ crowd.limit + ((many - 1) * crowd.most : Nat)

omit [DecidableEq ι] [Fintype ι] in
theorem quantity_pos (request : ι) : 0 < crowd.quantity request := (crowd.incoming request).call.request.valid.1

omit [DecidableEq ι] in
theorem weight_nonneg (world : World ι) : 0 ≤ crowd.weight world :=
  sum_nonneg fun request _ => (quantity_pos request).le

omit [DecidableEq ι] in
theorem weight_le {count : Nat} (few : (crowd.inFlight world).card ≤ count) :
    crowd.weight world ≤ (count * crowd.most : Nat) := by
  have each : ∀ request ∈ crowd.inFlight world, crowd.quantity request ≤ crowd.most := by
    intro request member
    obtain ⟨_, ⟨tenant, type⟩, _⟩ := mem_filter.mp member
    exact crowd.bounded request tenant type
  have total : crowd.weight world ≤ (crowd.inFlight world).card • (crowd.most : Int) := sum_le_card_nsmul _ _ _ each
  rw [nsmul_eq_mul, ← Nat.cast_mul] at total
  exact total.trans (Int.ofNat_le.mpr (Nat.mul_le_mul_right _ few))

theorem inFlight_other {phase : Phase} {other : ι} (different : other ≠ request) :
    other ∈ crowd.inFlight (world.become request phase) ↔ other ∈ crowd.inFlight world := by
  simp only [Crowd.inFlight, mem_filter, World.become_other different]

theorem weight_become {phase : Phase} (stays : opens phase = true → opens (world.phase request) = true) :
    crowd.weight (world.become request phase) ≤ crowd.weight world := by
  apply sum_le_sum_of_subset_of_nonneg
  · intro other member
    by_cases same : other = request
    · subst same
      simp only [Crowd.inFlight, mem_filter, World.become_phase] at member ⊢
      exact ⟨member.1, member.2.1, stays member.2.2⟩
    · exact (inFlight_other same).mp member
  · exact fun other _ _ => (quantity_pos other).le

theorem inFlight_opened {phase : Phase} (counts : crowd.Counts request) (opened : opens phase = true)
    (closed : opens (world.phase request) = false) :
    request ∉ crowd.inFlight world ∧
      crowd.inFlight (world.become request phase) = insert request (crowd.inFlight world) := by
  constructor
  · simp [Crowd.inFlight, closed]
  · ext other
    rw [mem_insert]
    by_cases same : other = request
    · subst same
      simp [Crowd.inFlight, counts, opened]
    · simp [inFlight_other same, same]

theorem weight_closed {phase : Phase} (counts : crowd.Counts request) (closed : opens phase = false)
    (opened : opens (world.phase request) = true) :
    crowd.weight (world.become request phase) + crowd.quantity request = crowd.weight world := by
  have member : request ∈ crowd.inFlight world := by simp [Crowd.inFlight, counts, opened]
  have left : crowd.inFlight (world.become request phase) = (crowd.inFlight world).erase request := by
    ext other
    rw [mem_erase]
    by_cases same : other = request
    · subst same
      simp [Crowd.inFlight, closed]
    · simp [inFlight_other same, same]
  rw [Crowd.weight, Crowd.weight, left, sum_erase_add _ _ member]

omit [DecidableEq ι] [Fintype ι] in
theorem contribution_le (request : ι) (cost : Int) :
    (crowd.Counts request → Database.contribution crowd.tenantId crowd.usageType crowd.start
      (rowOf crowd.incoming request cost) ≤ crowd.quantity request) ∧
    (¬ crowd.Counts request → Database.contribution crowd.tenantId crowd.usageType crowd.start
      (rowOf crowd.incoming request cost) = 0) := by
  constructor
  · intro _
    unfold Database.contribution
    split
    · exact le_refl _
    · exact (quantity_pos request).le
  · exact fun not => if_neg fun counted => not ⟨counted.1, counted.2.1⟩

namespace Kept

theorem become (kept : Kept crowd many world) {phase : Phase} (rows : OwnRows crowd.incoming (world.become request phase))
    (stays : opens phase = true → opens (world.phase request) = true) :
    Kept crowd many (world.become request phase) where
  limited := kept.limited
  rows := rows
  budget := by
    have lighter : crowd.weight (world.become request phase) ≤ crowd.weight world := weight_become stays
    have budget := kept.budget
    have same : crowd.used (world.become request phase) = crowd.used world := rfl
    omega

theorem close (kept : Kept crowd many world) {phase : Phase} (idle : phase.pending = none) (closed : opens phase = false) :
    Kept crowd many (world.become request phase) :=
  kept.become (kept.rows.become_idle idle) (by simp [closed])

/-- A request passes the check: it fits the committed usage, and with it there are no more open
requests than allowed. -/
theorem admitted (kept : Kept crowd many world) {info : QuotaInfo} {cost : Int} (phase : world.phase request = .missed)
    (admission : admissionOf crowd.incoming request world = some (info, cost))
    (few : crowd.AtMost many (world.become request (.admitted info cost))) :
    Kept crowd many (world.become request (.admitted info cost)) := by
  have closed : opens (world.phase request) = false := by rw [phase]; rfl
  refine ⟨kept.limited, kept.rows.become_idle rfl, ?_⟩
  have used : crowd.used (world.become request (.admitted info cost)) = crowd.used world := rfl
  by_cases counts : crowd.Counts request
  · obtain ⟨absent, opened⟩ : request ∉ crowd.inFlight world ∧
        crowd.inFlight (world.become request (.admitted info cost)) = insert request (crowd.inFlight world) :=
      inFlight_opened counts rfl closed
    obtain ⟨limit, limited, room, _, _⟩ := admission?_eq_some.mp admission
    have tenant : (crowd.incoming request).call.record.tenantId = crowd.tenantId := counts.1
    have type : (crowd.incoming request).call.record.usageType = crowd.usageType := counts.2
    have quantity : (crowd.incoming request).call.record.qty = crowd.quantity request := rfl
    rw [tenant, type, kept.limited, Option.some.injEq] at limited
    rw [tenant, type, quantity, crowd.month request counts.1 counts.2, ← limited] at room
    have weight : crowd.weight (world.become request (.admitted info cost)) =
        crowd.quantity request + crowd.weight world := by
      rw [Crowd.weight, opened, sum_insert absent]
      rfl
    -- The others that are open are fewer by one, so they are what the check can miss.
    have others : crowd.weight world ≤ ((many - 1) * crowd.most : Nat) := by
      have count := few
      rw [Crowd.AtMost, opened, card_insert_of_notMem absent] at count
      exact weight_le (by omega)
    have fits : crowd.used world + crowd.quantity request ≤ crowd.limit := room
    omega
  · have same : crowd.inFlight (world.become request (.admitted info cost)) = crowd.inFlight world := by
      ext other
      by_cases own : other = request
      · subst own
        simp [Crowd.inFlight, counts]
      · exact inFlight_other own
    have weight : crowd.weight (world.become request (.admitted info cost)) = crowd.weight world := by
      rw [Crowd.weight, same, Crowd.weight]
    have budget := kept.budget
    omega

/-- What a commit adds to the usage it takes out of the weight. -/
theorem commit (kept : Kept crowd many world) {response : MeterResponse} {event : UsageEvent}
    (phase : world.phase request = .answered response event true)
    (fits : world.store.database.usageEvents.Fits event) :
    Kept crowd many { world.become request (.finished (.ok response)) with
      store := { world.store with database := { world.store.database with
        usageEvents := world.store.database.usageEvents.add event fits } } } := by
  have opened : opens (world.phase request) = true := by rw [phase]; rfl
  obtain ⟨cost, rfl⟩ := kept.rows request event (by rw [phase]; rfl)
  have finished : Kept crowd many (world.become request (.finished (.ok response))) := kept.close rfl rfl
  let after : World ι := { world.become request (.finished (.ok response)) with
    store := { world.store with database := { world.store.database with
      usageEvents := world.store.database.usageEvents.add (rowOf crowd.incoming request cost) fits } } }
  have used : crowd.used after = crowd.used world + Database.contribution crowd.tenantId crowd.usageType crowd.start
      (rowOf crowd.incoming request cost) := Database.monthlyUsage_append rfl _ _ _
  have weight : crowd.weight after = crowd.weight (world.become request (.finished (.ok response))) := rfl
  refine ⟨finished.limited, finished.rows, ?_⟩
  change crowd.used after + crowd.weight after ≤ _
  by_cases counts : crowd.Counts request
  · have freed : crowd.weight (world.become request (.finished (.ok response))) + crowd.quantity request =
        crowd.weight world := weight_closed counts rfl opened
    have added := (contribution_le request cost).1 counts
    have budget := kept.budget
    omega
  · have nothing := (contribution_le request cost).2 counts
    have budget := finished.budget
    have same : crowd.used (world.become request (.finished (.ok response))) = crowd.used world := rfl
    omega

theorem step {action : Action ι} (metering : action.Metering) (kept : Kept crowd many world)
    (moves : Moves crowd.incoming action world next) (few : crowd.AtMost many next) : Kept crowd many next := by
  have rows := moves.ownRows kept.rows
  cases moves with
  | hit phase | missed phase => exact kept.close rfl rfl
  | admitted phase admission => exact kept.admitted phase admission few
  | refused phase admission => exact kept.close rfl rfl
  | inserted phase unblocked storable tenant fits => exact kept.become rows fun _ => by rw [phase]; rfl
  | conflicted phase taken => exact kept.become rows fun _ => by rw [phase]; rfl
  | rejected phase refused => exact kept.close rfl rfl
  | found phase stored => exact kept.become rows fun _ => by rw [phase]; rfl
  | lost phase absent => exact kept.close rfl rfl
  | responded phase reached =>
    subst reached
    have after := kept.become rows fun _ => by rw [phase]; rfl
    exact ⟨after.limited, rows, after.budget⟩
  | committed phase fits reached =>
    subst reached
    exact kept.commit phase fits
  | returned phase => exact kept.close rfl rfl
  | aborted unfinished => exact kept.close rfl rfl
  | evicted => exact ⟨kept.limited, kept.rows, kept.budget⟩
  | reconfigured => exact metering.elim

omit [DecidableEq ι] in
theorem initial : Kept crowd many crowd.initial where
  limited := crowd.limited
  rows := .initial _ rfl
  budget := by
    have idle : crowd.inFlight crowd.initial = ∅ := filter_eq_empty_iff.mpr fun _ _ open' => Bool.noConfusion open'.2
    have weight : crowd.weight crowd.initial = 0 := by rw [Crowd.weight, idle, sum_empty]
    have room : crowd.used crowd.initial ≤ crowd.limit := crowd.room
    omega

end Kept

/-- While at most so many requests against a quota are open at once, committed usage never exceeds
the limit by more than all but one of them can ask for. -/
theorem overshoot_bounded {schedule : List (Action ι)} (metering : ∀ action ∈ schedule, action.Metering)
    (few : (concurrent crowd.incoming).Always (crowd.AtMost many) schedule crowd.initial) :
    (concurrent crowd.incoming).Always (crowd.Within many) schedule crowd.initial := by
  have counted : (concurrent crowd.incoming).Each (fun action world => ∀ next,
      (concurrent crowd.incoming).step action world = some next → crowd.AtMost many next) schedule crowd.initial :=
    few.each fun action world next taken _ after other reached => Option.some.inj (taken.symm.trans reached) ▸ after
  have kept : (concurrent crowd.incoming).Always (Kept crowd many) schedule crowd.initial :=
    Machine.always_of_each
      (fun action world next metering taken kept counted => kept.step metering (step_moves taken) (counted next taken))
      metering Kept.initial counted
  refine kept.imp fun world kept => ?_
  have budget := kept.budget
  have weight : 0 ≤ crowd.weight world := weight_nonneg world
  unfold Crowd.Within
  omega

def pair : Crowd Bool where
  incoming := HardQuota.boundary.incoming
  store := HardQuota.boundary.store
  tenantId := Seed.tenant.id
  usageType := .apiCall
  limit := 5000
  start := (Seed.env 0).monthStart
  most := 1
  limited := by decide
  room := by decide
  month _ _ _ := rfl
  bounded _ _ _ := Int.le_refl 1

def overlapping : List (Action Bool) := .lookup true :: .lookup false :: HardQuota.race

/-- Two open requests overrun the limit by one call, and the bound allows no more. -/
theorem pair_bounded : (concurrent pair.incoming).Always (pair.Within 2) overlapping pair.initial ∧
    pair.limit + ((2 - 1) * pair.most : Nat) = 5001 ∧
    ((concurrent pair.incoming).run overlapping pair.initial).map pair.used = some 5001 := by
  refine ⟨overshoot_bounded ?_ ?_, rfl, by decide⟩
  · intro action member
    simp only [overlapping, HardQuota.race, List.mem_cons, List.not_mem_nil, or_false] at member
    rcases member with rfl | rfl | rfl | rfl | rfl | rfl | rfl | rfl | rfl | rfl <;> trivial
  · have all (world : World Bool) : pair.AtMost 2 world := (pair.inFlight world).card_le_univ
    have kept : (concurrent pair.incoming).Invariant (fun _ => True) (pair.AtMost 2) := fun _ _ next _ _ _ => all next
    exact kept.always (fun _ _ => trivial) (all pair.initial)

end MeteringBilling.Overshoot
