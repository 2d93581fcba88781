import Mathlib.Algebra.BigOperators.Group.Finset.Basic
import Mathlib.Algebra.Order.BigOperators.Group.Finset
import MeteringBilling.Proofs.ConcurrentSteps
import MeteringBilling.Proofs.Usage
import MeteringBilling.Proofs.Writes
import MeteringBilling.Seed

/-! The quota under concurrent recording. Every request that fits the usage at the start may
pass the check before any of them commits, so the quota holds under every schedule exactly
if all of these requests fit together. -/

namespace MeteringBilling.HardQuota

open Finset

/-- Calls of `record` that arrive together in one month, and a quota they are checked against. -/
structure Load (ι : Type) where
  incoming : ι → Incoming
  store : Store
  tenantId : UUID
  usageType : UsageType
  limit : Int
  start : Int
  tenant : store.database.hasTenant tenantId = true
  limited : store.database.limit? tenantId usageType = some limit
  month : ∀ request, (incoming request).env.monthStart = start
  stored : ∀ request, start ≤ (incoming request).env.transactionStart
  keys : Function.Injective fun request => (incoming request).call.idempotencyKey
  identifiers : Function.Injective fun request => (incoming request).env.uuid4 0 .usageEvent
  unissued : ∀ request, ∀ event ∈ store.database.usageEvents, event.id ≠ (incoming request).env.uuid4 0 .usageEvent

namespace Load

variable {ι : Type} (load : Load ι)

def quantity (request : ι) : Int := (load.incoming request).call.request.qty

def used (world : World ι) : Int := world.store.database.monthlyUsage load.tenantId load.usageType load.start

/-- Every call is past the cache and before its quota check. -/
def initial : World ι := ⟨load.store, fun _ => .missed⟩

def Counts (request : ι) : Prop :=
  (load.incoming request).call.tenantId = load.tenantId ∧
    (load.incoming request).call.request.usageType = load.usageType

def price? (request : ι) : Option Int :=
  (CostService.calculate (load.incoming request).env.settings (load.incoming request).call.request.usageType
    (load.quantity request)).toOption

/-- The request has a price, and fits the usage at the start. -/
def Admissible (request : ι) : Prop :=
  (load.price? request).isSome = true ∧ load.used load.initial + load.quantity request ≤ load.limit

/-- The request can add usage: besides, the columns have room for its row, and its key is new. -/
def Competes (request : ι) : Prop :=
  load.Counts request ∧ load.Admissible request ∧
    (∀ cost ∈ load.price? request, (rowOf load.incoming request cost).Storable) ∧
    load.store.database.eventOf? (load.incoming request).call.key = none

instance : DecidablePred load.Competes := fun _ => inferInstanceAs (Decidable ((_ ∧ _) ∧ (_ ∧ _) ∧ _ ∧ _))

variable [Fintype ι]

def competitors : Finset ι := univ.filter load.Competes

def demand : Int := ∑ request ∈ load.competitors, load.quantity request

end Load

def ended : Phase → Bool
  | .finished _ => true
  | _ => false

variable {ι : Type} {load : Load ι} {world next : World ι} {request : ι}

/-- What is known of a request in flight. A row that is about to be committed is one of a
competitor, if it counts. -/
def Tracked (load : Load ι) (request : ι) : Phase → Prop
  | .admitted _ cost => load.price? request = some cost ∧ (load.Counts request → load.Admissible request)
  | .recorded event _ true | .answered _ event true =>
    (∃ cost, event = rowOf load.incoming request cost) ∧ (load.Counts request → load.Competes request)
  | _ => True

theorem eventOf?_none_of_fits {before after : Database} (event : UsageEvent)
    (kept : ∀ stored ∈ before.usageEvents, stored ∈ after.usageEvents) (fits : after.usageEvents.Fits event) :
    before.eventOf? event.key = none := by
  rw [Database.eventOf?, Table.find?, List.find?_eq_none]
  intro stored member same
  exact fits stored (kept stored member) (Or.inr (eq_of_beq same))

theorem contribution_rowOf (cost : Int) :
    (load.Counts request → Database.contribution load.tenantId load.usageType load.start
      (rowOf load.incoming request cost) = load.quantity request) ∧
    (¬ load.Counts request → Database.contribution load.tenantId load.usageType load.start
      (rowOf load.incoming request cost) = 0) := by
  refine ⟨fun counts => if_pos ⟨counts.1, counts.2, load.stored request⟩, fun not => if_neg fun counted => ?_⟩
  exact not ⟨counted.1, counted.2.1⟩

theorem rowOf_apart {other : ι} (different : request ≠ other) (first second : Int) :
    ¬ Keyed.Clash (rowOf load.incoming request first) (rowOf load.incoming other second) := by
  intro clash
  rcases clash with identifier | key
  · exact different (load.identifiers identifier)
  · exact different (load.keys (congrArg UsageKey.idempotencyKey key))

theorem rowOf_fits (free : load.store.database.eventOf? (load.incoming request).call.key = none) (cost : Int) :
    load.store.database.usageEvents.Fits (rowOf load.incoming request cost) := by
  intro stored member clash
  rcases clash with identifier | key
  · exact load.unissued request stored member identifier
  · exact List.find?_eq_none.mp free stored member (beq_iff_eq.mpr key)

theorem competes_admitted (competes : load.Competes request) (unchanged : world.store.database = load.store.database) :
    ∃ info cost, admissionOf load.incoming request world = some (info, cost) ∧
      (rowOf load.incoming request cost).Storable := by
  obtain ⟨⟨tenant, type⟩, ⟨priced, room⟩, storable, _⟩ := competes
  obtain ⟨cost, price⟩ := Option.isSome_iff_exists.mp priced
  have own : (load.incoming request).call.record.tenantId = load.tenantId := tenant
  have same : (load.incoming request).call.record.usageType = load.usageType := type
  refine ⟨_, cost, admission?_eq_some.mpr ⟨load.limit, ?_, ?_, toOption_eq_some.mp price, rfl⟩, storable cost price⟩
  · rw [unchanged, own, same]
    exact load.limited
  · rw [unchanged, own, same, load.month request]
    exact room

section

variable [Fintype ι]

/-- What unfinished competitors may still add. -/
def outstanding (load : Load ι) (world : World ι) : Int :=
  ∑ request ∈ load.competitors, if ended (world.phase request) then 0 else load.quantity request

structure Bounded (load : Load ι) (world : World ι) : Prop where
  limited : world.store.database.limit? load.tenantId load.usageType = some load.limit
  grown : load.used load.initial ≤ load.used world
  kept : ∀ event ∈ load.store.database.usageEvents, event ∈ world.store.database.usageEvents
  tracked : ∀ request, Tracked load request (world.phase request)
  budget : load.used world + outstanding load world ≤ load.used load.initial + load.demand

theorem bounded_initial : Bounded load load.initial where
  limited := load.limited
  grown := Int.le_refl _
  kept _ member := member
  tracked _ := trivial
  budget := Int.le_refl _

theorem Bounded.admissible (bounded : Bounded load world) {info : QuotaInfo} {cost : Int}
    (admission : admissionOf load.incoming request world = some (info, cost)) :
    load.price? request = some cost ∧ (load.Counts request → load.Admissible request) := by
  obtain ⟨limit, limited, room, priced, _⟩ := admission?_eq_some.mp admission
  have price : load.price? request = some cost := toOption_eq_some.mpr priced
  refine ⟨price, fun counts => ⟨Option.isSome_of_eq_some price, ?_⟩⟩
  have tenant : (load.incoming request).call.record.tenantId = load.tenantId := counts.1
  have type : (load.incoming request).call.record.usageType = load.usageType := counts.2
  have quantity : (load.incoming request).call.record.qty = load.quantity request := rfl
  rw [tenant, type, bounded.limited, Option.some.injEq] at limited
  rw [tenant, type, quantity, load.month request, ← limited] at room
  have grown := bounded.grown
  have now : load.used world = world.store.database.monthlyUsage load.tenantId load.usageType load.start := rfl
  omega

variable [DecidableEq ι]

theorem outstanding_become (phase : Phase) (unfinished : ended (world.phase request) = false) :
    outstanding load (world.become request phase) ≤ outstanding load world := by
  apply sum_le_sum
  intro other _
  by_cases same : other = request
  · subst same
    rw [World.become_phase, unfinished]
    have positive : 0 < load.quantity other := (load.incoming other).call.request.valid.1
    split <;> simp only [Bool.false_eq_true, if_false] <;> omega
  · rw [World.become_other same]

theorem outstanding_finish (reply : Except PyError MeterResponse) (unfinished : ended (world.phase request) = false)
    (competes : load.Competes request) :
    outstanding load (world.become request (.finished reply)) + load.quantity request = outstanding load world := by
  have member : request ∈ load.competitors := by
    rw [Load.competitors, mem_filter]
    exact ⟨mem_univ request, competes⟩
  have others : ∑ other ∈ load.competitors.erase request,
      (if ended ((world.become request (.finished reply)).phase other) then 0 else load.quantity other) =
      ∑ other ∈ load.competitors.erase request, if ended (world.phase other) then 0 else load.quantity other := by
    apply sum_congr rfl
    intro other inside
    rw [World.become_other (ne_of_mem_erase inside)]
  rw [outstanding, outstanding, ← add_sum_erase _ _ member, ← add_sum_erase _ _ member, World.become_phase, unfinished,
    others]
  simp only [ended, if_true, Bool.false_eq_true, if_false]
  omega

theorem Bounded.become (bounded : Bounded load world) {before after : Phase} (phase : world.phase request = before)
    (unfinished : ended before = false) (tracked : Tracked load request after) :
    Bounded load (world.become request after) where
  limited := bounded.limited
  grown := bounded.grown
  kept := bounded.kept
  tracked other := by
    by_cases same : other = request
    · subst same
      rw [World.become_phase]
      exact tracked
    · rw [World.become_other same]
      exact bounded.tracked other
  budget := by
    have fewer : outstanding load (world.become request after) ≤ outstanding load world :=
      outstanding_become after (by rw [phase]; exact unfinished)
    have budget := bounded.budget
    have same : load.used (world.become request after) = load.used world := rfl
    omega

theorem Bounded.commit (bounded : Bounded load world) {response : MeterResponse} {event : UsageEvent}
    (phase : world.phase request = .answered response event true)
    (fits : world.store.database.usageEvents.Fits event) :
    Bounded load { world.become request (.finished (.ok response)) with
      store := { world.store with database := { world.store.database with
        usageEvents := world.store.database.usageEvents.add event fits } } } := by
  have unfinished : ended (world.phase request) = false := by rw [phase]; rfl
  have tracked := bounded.tracked request
  rw [phase] at tracked
  obtain ⟨⟨cost, rfl⟩, competes⟩ := tracked
  have finished : Bounded load (world.become request (.finished (.ok response))) := bounded.become phase rfl trivial
  let after : World ι := { world.become request (.finished (.ok response)) with
    store := { world.store with database := { world.store.database with
      usageEvents := world.store.database.usageEvents.add (rowOf load.incoming request cost) fits } } }
  have used : load.used after = load.used world + Database.contribution load.tenantId load.usageType load.start
      (rowOf load.incoming request cost) := Database.monthlyUsage_append rfl _ _ _
  have same : outstanding load after = outstanding load (world.become request (.finished (.ok response))) := rfl
  have budget := bounded.budget
  have grown := bounded.grown
  have positive : 0 < load.quantity request := (load.incoming request).call.request.valid.1
  have kept : ∀ event ∈ load.store.database.usageEvents, event ∈ after.store.database.usageEvents := by
    intro event member
    exact Table.mem_rows.mpr (List.mem_append_left _ (bounded.kept event member))
  by_cases counts : load.Counts request
  · have freed := outstanding_finish (.ok response) unfinished (competes counts)
    rw [(contribution_rowOf cost).1 counts] at used
    have grown : load.used load.initial ≤ load.used after := by omega
    have budget : load.used after + outstanding load after ≤ load.used load.initial + load.demand := by omega
    exact ⟨finished.limited, grown, kept, finished.tracked, budget⟩
  · have fewer := finished.budget
    have unchanged : load.used (world.become request (.finished (.ok response))) = load.used world := rfl
    rw [(contribution_rowOf cost).2 counts] at used
    have grown : load.used load.initial ≤ load.used after := by omega
    have budget : load.used after + outstanding load after ≤ load.used load.initial + load.demand := by omega
    exact ⟨finished.limited, grown, kept, finished.tracked, budget⟩

theorem bounded_step {action : Action ι} (metering : action.Metering) (bounded : Bounded load world)
    (moves : Moves load.incoming action world next) : Bounded load next := by
  cases moves with
  | hit phase | missed phase => exact bounded.become phase rfl trivial
  | admitted phase admission => exact bounded.become phase rfl (bounded.admissible admission)
  | refused phase admission => exact bounded.become phase rfl trivial
  | @inserted _ request info cost phase unblocked storable tenant fits =>
    have tracked := bounded.tracked request
    rw [phase] at tracked
    obtain ⟨priced, admissible⟩ := tracked
    refine bounded.become phase rfl ⟨⟨cost, rfl⟩, fun counts => ⟨counts, admissible counts, ?_, ?_⟩⟩
    · intro price known
      rw [Option.some.inj (known.symm.trans priced)]
      exact storable
    · exact eventOf?_none_of_fits (rowOf load.incoming request cost) bounded.kept fits
  | conflicted phase taken => exact bounded.become phase rfl trivial
  | rejected phase refused => exact bounded.become phase rfl trivial
  | found phase stored => exact bounded.become phase rfl trivial
  | lost phase absent => exact bounded.become phase rfl trivial
  | @responded _ request event info fresh _ phase reached =>
    subst reached
    have tracked := bounded.tracked request
    rw [phase] at tracked
    have after : Bounded load
        (world.become request (.answered (responseOf load.incoming request event info) event fresh)) :=
      bounded.become phase rfl (by cases fresh <;> exact tracked)
    exact ⟨after.limited, after.grown, after.kept, after.tracked, after.budget⟩
  | committed phase fits reached =>
    subst reached
    exact bounded.commit phase fits
  | returned phase => exact bounded.become phase rfl trivial
  | @aborted _ request reply unfinished =>
    refine bounded.become rfl ?_ trivial
    cases phase : world.phase request with
    | finished _ => rw [phase] at unfinished; cases unfinished
    | _ => rfl
  | evicted => exact ⟨bounded.limited, bounded.grown, bounded.kept, bounded.tracked, bounded.budget⟩
  | reconfigured => exact metering.elim

theorem bounded_invariant : (concurrent load.incoming).Invariant Action.Metering (Bounded load) :=
  fun _ _ _ metering bounded taken => bounded_step metering bounded (step_moves taken)

/-- Every competitor passes its check before any of them inserts. -/
theorem checks_run (order : List ι) (nodup : order.Nodup) (competing : ∀ request ∈ order, load.Competes request)
    (unchanged : world.store.database = load.store.database) (ready : ∀ request ∈ order, world.phase request = .missed)
    (idle : ∀ request, (world.phase request).pending = none) :
    ∃ after, (concurrent load.incoming).run (order.map .check) world = some after ∧
      after.store.database = load.store.database ∧ (∀ request, (after.phase request).pending = none) ∧
      (∀ request ∈ order, ∃ info cost, after.phase request = .admitted info cost ∧
        (rowOf load.incoming request cost).Storable) ∧
      ∀ request, request ∉ order → after.phase request = world.phase request := by
  induction order generalizing world with
  | nil => exact ⟨world, rfl, unchanged, idle, by simp, fun _ _ => rfl⟩
  | cons request order ih =>
    obtain ⟨absent, nodup⟩ := List.nodup_cons.mp nodup
    obtain ⟨competes, competing⟩ := List.forall_mem_cons.mp competing
    obtain ⟨missed, ready⟩ := List.forall_mem_cons.mp ready
    obtain ⟨info, cost, admission, storable⟩ := competes_admitted competes unchanged
    have other {second : ι} (different : second ≠ request) :
        (world.become request (.admitted info cost)).phase second = world.phase second := World.become_other different _
    obtain ⟨after, ran, same, idle, admitted, others⟩ :=
      @ih (world.become request (.admitted info cost)) nodup competing unchanged
        (fun second member => by rw [other (fun equal => absent (equal ▸ member))]; exact ready second member)
        (fun second => by
          by_cases equal : second = request
          · subst equal; rw [World.become_phase]; rfl
          · rw [other equal]; exact idle second)
    refine ⟨after, Machine.run_step (check_step missed admission) ran, same, idle, ?_, ?_⟩
    · refine List.forall_mem_cons.mpr ⟨⟨info, cost, ?_, storable⟩, admitted⟩
      rw [others request absent, World.become_phase]
    · intro second outside
      rw [List.mem_cons, not_or] at outside
      rw [others second outside.2, other outside.1]

/-- Then they commit one after the other, and the usage grows by all they asked for. -/
theorem commits_run (order : List ι) (nodup : order.Nodup) (counting : ∀ request ∈ order, load.Counts request)
    (known : world.store.database.hasTenant load.tenantId = true)
    (fitting : ∀ request ∈ order, ∀ cost, world.store.database.usageEvents.Fits (rowOf load.incoming request cost))
    (idle : ∀ request, (world.phase request).pending = none)
    (admitted : ∀ request ∈ order, ∃ info cost, world.phase request = .admitted info cost ∧
      (rowOf load.incoming request cost).Storable) :
    ∃ after, (concurrent load.incoming).run
        (order.flatMap fun request => [.insert request, .respond request, .commit request]) world = some after ∧
      load.used after = load.used world + (order.map load.quantity).sum := by
  induction order generalizing world with
  | nil => exact ⟨world, rfl, by simp⟩
  | cons request order ih =>
    obtain ⟨absent, nodup⟩ := List.nodup_cons.mp nodup
    obtain ⟨counts, counting⟩ := List.forall_mem_cons.mp counting
    obtain ⟨fits, fitting⟩ := List.forall_mem_cons.mp fitting
    obtain ⟨⟨info, cost, phase, storable⟩, admitted⟩ := List.forall_mem_cons.mp admitted
    have unblocked : Unblocked request (rowOf load.incoming request cost) world := by
      intro other _ held holding
      rw [idle other] at holding
      cases holding
    have tenant : world.store.database.hasTenant (load.incoming request).call.tenantId = true := by
      rw [counts.1]; exact known
    let next := world.complete load.incoming request info (rowOf load.incoming request cost) (fits cost)
    have other {second : ι} (different : second ≠ request) : next.phase second = world.phase second :=
      World.become_other different _
    obtain ⟨after, ran, used⟩ := @ih next nodup counting known
      (fun second member price stored inside => by
        rw [show next.store.database.usageEvents.rows = world.store.database.usageEvents.rows ++
          [rowOf load.incoming request cost] from rfl, List.mem_append, List.mem_singleton] at inside
        rcases inside with inside | rfl
        · exact fitting second member price stored inside
        · exact rowOf_apart (fun equal => absent (by rw [equal]; exact member)) cost price)
      (fun second => by
        by_cases equal : second = request
        · subst equal; exact congrArg Phase.pending (World.become_phase _)
        · rw [other equal]; exact idle second)
      (fun second member => by rw [other (fun equal => absent (equal ▸ member))]; exact admitted second member)
    have added : load.used next = load.used world + load.quantity request := by
      rw [← (contribution_rowOf cost).1 counts]
      exact Database.monthlyUsage_append rfl _ _ _
    refine ⟨after, ?_, ?_⟩
    · rw [List.flatMap_cons]
      exact Machine.run_trans (complete_run phase unblocked storable tenant (fits cost)) ran
    · rw [used, added, List.map_cons, List.sum_cons, Int.add_assoc]

/-- Committed usage never exceeds the limit, whatever the schedule, exactly if the usage at
the start and everything the competitors ask for fit together. -/
theorem quota_respected_iff :
    (∀ schedule final, (∀ action ∈ schedule, action.Metering) →
      (concurrent load.incoming).run schedule load.initial = some final → load.used final ≤ load.limit) ↔
    load.used load.initial + load.demand ≤ load.limit := by
  constructor
  · intro respected
    have competing : ∀ request ∈ load.competitors.toList, load.Competes request := by
      intro request member
      exact (mem_filter.mp (mem_toList.mp member)).2
    obtain ⟨checked, started, unchanged, idle, admitted, _⟩ := @checks_run ι load load.initial _ _
      load.competitors.toList load.competitors.nodup_toList competing rfl (fun _ _ => rfl) (fun _ => rfl)
    obtain ⟨final, finished, used⟩ := commits_run load.competitors.toList load.competitors.nodup_toList
      (fun request member => (competing request member).1) (by rw [unchanged]; exact load.tenant)
      (fun request member cost => by rw [unchanged]; exact rowOf_fits (competing request member).2.2.2 cost) idle admitted
    have total : (load.competitors.toList.map load.quantity).sum = load.demand := sum_map_toList _ _
    have same : load.used checked = load.used load.initial := by rw [Load.used, Load.used, unchanged]; rfl
    rw [← total, ← same, ← used]
    refine respected _ final ?_ (Machine.run_trans started finished)
    intro action member
    rw [List.mem_append, List.mem_map, List.mem_flatMap] at member
    rcases member with ⟨_, _, rfl⟩ | ⟨_, _, member⟩
    · trivial
    · simp only [List.mem_cons, List.not_mem_nil, or_false] at member
      rcases member with rfl | rfl | rfl <;> trivial
  · intro fits schedule final metering ran
    have bounded := bounded_invariant.run metering bounded_initial ran
    have budget := bounded.budget
    have remaining : 0 ≤ outstanding load final := by
      apply sum_nonneg
      intro request _
      have positive : 0 < load.quantity request := (load.incoming request).call.request.valid.1
      split <;> omega
    omega

end

/-- One call below the free quota, and two requests for it. -/
def boundary : Load Bool where
  incoming first := ⟨Seed.env (if first then 11 else 12), Seed.apiCall (if first then "first" else "second")⟩
  store := { Seed.store with database := { Seed.database with usageEvents :=
    ⟨[RecordCall.event ⟨Seed.tenant.id, .apiCall, 4999, "seed", none, none⟩ (.ofInt 10) Seed.time.timestamp 4999000],
      by decide⟩ } }
  tenantId := Seed.tenant.id
  usageType := .apiCall
  limit := 5000
  start := (Seed.env 0).monthStart
  tenant := by decide
  limited := by decide
  month _ := rfl
  stored _ := (by decide : (Seed.env 0).monthStart ≤ Seed.time.timestamp)
  keys := by decide
  identifiers := by decide
  unissued := by decide

/-- Both check before either commits. -/
def race : List (Action Bool) :=
  [.check true, .check false, .insert true, .respond true, .commit true, .insert false, .respond false, .commit false]

theorem quota_exceeded : boundary.used boundary.initial ≤ boundary.limit ∧ (∀ action ∈ race, action.Metering) ∧
    ∃ final, (concurrent boundary.incoming).run race boundary.initial = some final ∧
      boundary.limit < boundary.used final := by
  refine ⟨by decide, ?_, ?_⟩
  · intro action member
    simp only [race, List.mem_cons, List.not_mem_nil, or_false] at member
    rcases member with rfl | rfl | rfl | rfl | rfl | rfl | rfl | rfl <;> trivial
  · have reached : ((concurrent boundary.incoming).run race boundary.initial).map boundary.used = some 5001 := by decide
    obtain ⟨final, ran, used⟩ := Option.map_eq_some_iff.mp reached
    exact ⟨final, ran, by rw [used]; decide⟩

end MeteringBilling.HardQuota
