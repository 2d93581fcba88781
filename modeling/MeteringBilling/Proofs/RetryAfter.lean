import MeteringBilling.Proofs.RateWindow

/-! When the wait that a rejected call is told is long enough. The rejected call has entered
the set as well, so one expiry makes room only where it takes further entries with it. -/

namespace MeteringBilling.RetryAfter
open RateWindow

variable {limiter : RedisRateLimiter} {calls : List ℚ} {traffic : Traffic} {now : ℚ}

def recent (limiter : RedisRateLimiter) (calls : List ℚ) (now : ℚ) : List ℚ :=
  calls.filter fun time => decide (now - limiter.windowSeconds < time)

theorem recent_recent {later : ℚ} (past : now ≤ later) :
    recent limiter (recent limiter calls now ++ [now]) later = recent limiter (calls ++ [now]) later := by
  simp only [recent, List.filter_append, List.filter_filter]
  congr 1
  apply List.filter_congr
  intro time _
  by_cases kept : later - limiter.windowSeconds < time
  · have earlier : now - limiter.windowSeconds < time := by linarith
    simp [kept, earlier]
  · simp [kept]

/-- No request comes before the wait is over, and then the next one is allowed. -/
def Honest (limiter : RedisRateLimiter) (now : ℚ) (retryAfter : Int) (key : RateKey) : Prop :=
  ∀ later, now + retryAfter ≤ later →
    (limiter.isAllowed true later (limiter.isAllowed true now key).2).1.1 = true

/-- Fewer calls than the limit are later than the first whole second after the oldest one,
counted back from now. -/
def Frees (limiter : RedisRateLimiter) (calls : List ℚ) (now : ℚ) : Prop :=
  ∀ oldest ∈ (recent limiter calls now).head?,
    ((recent limiter calls now ++ [now]).filter fun time => decide (now + 1 - ⌈now - oldest⌉ < time)).length <
      limiter.maxRequests

instance (limiter : RedisRateLimiter) (calls : List ℚ) (now : ℚ) : Decidable (Frees limiter calls now) :=
  inferInstanceAs (Decidable (∀ oldest ∈ (recent limiter calls now).head?, _ < _))

def entry (time : ℚ) : ℚ × ℚ := (time, time)

def Holds (limiter : RedisRateLimiter) (calls : List ℚ) (key : RateKey) : Prop :=
  ∀ now, (∀ time ∈ calls, time < now) → (limiter.window now key).entries = (recent limiter calls now).map entry

theorem holds_absent : Holds limiter [] .absent := fun _ _ => by
  simp [RedisRateLimiter.window, RateKey.live, RateKey.absent, SortedSet.removeRangeByScore, SortedSet.empty, recent]

theorem added_entries (holds : Holds limiter calls traffic.key) (latest : ∀ time ∈ calls, time < now) :
    (limiter.isAllowed true now traffic.key).2.requests.entries = (recent limiter calls now ++ [now]).map entry := by
  have fresh : ((recent limiter calls now).map entry).filter (fun pair => pair.1 != now) =
      (recent limiter calls now).map entry := by
    rw [List.filter_eq_self]
    intro pair member
    obtain ⟨time, kept, rfl⟩ := List.mem_map.mp member
    exact bne_iff_ne.mpr (latest time (List.mem_filter.mp kept).1).ne
  rw [isAllowed_key, SortedSet.add_entries, holds now latest, fresh, List.map_append]
  rfl

theorem Holds.after (holds : Holds limiter calls traffic.key) (latest : ∀ time ∈ calls, time < now)
    (started : ∀ time ∈ calls ++ [now], 0 ≤ time) :
    Holds limiter (calls ++ [now]) (limiter.isAllowed true now traffic.key).2 := by
  intro later after
  have past : now < later := after now (List.mem_append_right _ (List.mem_singleton.mpr rfl))
  have added := added_entries holds latest
  rw [RedisRateLimiter.window, SortedSet.removeRangeByScore_entries, RateKey.live]
  split
  · next expired =>
    obtain ⟨deadline, set, reached⟩ := expired
    rw [isAllowed_key] at set
    obtain rfl := Option.some.inj set
    have gone : recent limiter (calls ++ [now]) later = [] := by
      rw [recent, List.filter_eq_nil_iff]
      intro time member kept
      have before : time ≤ now := by
        rcases List.mem_append.mp member with old | last
        · exact (latest time old).le
        · exact (List.mem_singleton.mp last).le
      linarith [of_decide_eq_true kept]
    rw [gone]
    rfl
  · rw [← recent_recent past.le]
    simp only [added, List.filter_map]
    congr 1
    apply List.filter_congr
    intro time member
    have positive : 0 ≤ time := by
      apply started time
      rcases List.mem_append.mp member with old | last
      · exact List.mem_append_left _ (List.mem_filter.mp old).1
      · exact List.mem_append_right _ last
    have kept : 0 ≤ time ∧ time ≤ later - limiter.windowSeconds ↔ ¬ later - limiter.windowSeconds < time := by
      rw [not_lt]
      exact and_iff_right positive
    simp only [Function.comp_apply, entry, kept, decide_not, Bool.not_not]

theorem run_holds {past rest : List ℚ} {final : Traffic} (holds : Holds limiter past traffic.key)
    (ordered : (past ++ rest).Pairwise (· < ·)) (started : ∀ time ∈ past ++ rest, 0 ≤ time)
    (ran : (calling limiter).run rest traffic = some final) : Holds limiter (past ++ rest) final.key := by
  induction rest generalizing past traffic with
  | nil =>
    obtain rfl := Option.some.inj ran
    rw [List.append_nil]
    exact holds
  | cons time rest ih =>
    obtain ⟨next, taken, ran⟩ := Machine.run_cons_eq_some ran
    obtain ⟨_, rfl⟩ := step_eq_some.mp taken
    rw [List.append_cons] at ordered started ⊢
    refine ih (holds.after ?_ ?_) ordered started ran
    · intro before member
      exact (List.pairwise_append.mp (List.pairwise_append.mp ordered).1).2.2 before member time
        (List.mem_singleton.mpr rfl)
    · exact fun before member => started before (List.mem_append_left _ member)

theorem allowed_iff (holds : Holds limiter calls traffic.key) (latest : ∀ time ∈ calls, time < now) :
    (limiter.isAllowed true now traffic.key).1.1 = true ↔ (recent limiter calls now).length < limiter.maxRequests := by
  rw [isAllowed_allowed, SortedSet.card, holds now latest, List.length_map]

theorem first_added {oldest : ℚ} {rest : List ℚ} {lowest : ℚ × ℚ} (holds : Holds limiter calls traffic.key)
    (ordered : (calls ++ [now]).Pairwise (· < ·)) (window : recent limiter calls now = oldest :: rest)
    (found : ((limiter.window now traffic.key).add now now).first? = some lowest) : lowest.2 = oldest := by
  obtain ⟨_, _, apart⟩ := List.pairwise_append.mp ordered
  have added := added_entries holds fun time member => apart time member now (List.mem_singleton.mpr rfl)
  rw [isAllowed_key, window] at added
  apply le_antisymm
  · have present : entry oldest ∈ ((limiter.window now traffic.key).add now now).entries := by
      rw [added]
      exact List.mem_cons_self
    exact SortedSet.first?_le found present
  · have present := SortedSet.first?_mem found
    rw [added] at present
    obtain ⟨time, member, rfl⟩ := List.mem_map.mp present
    have increasing : (oldest :: rest ++ [now]).Pairwise (· < ·) := by
      rw [← window]
      exact ordered.sublist (List.filter_sublist.append (List.Sublist.refl _))
    rcases List.mem_cons.mp member with same | later
    · exact same ▸ le_refl _
    · exact (List.rel_of_pairwise_cons increasing later).le

/-- A rejected call is told to wait until the oldest call of the window is sure to be out of it. -/
theorem rejected {retryAfter : Int} (positive : 0 < limiter.maxRequests) (holds : Holds limiter calls traffic.key)
    (ordered : (calls ++ [now]).Pairwise (· < ·))
    (answer : (limiter.isAllowed true now traffic.key).1 = (false, retryAfter)) :
    ∃ oldest, (recent limiter calls now).head? = some oldest ∧
      retryAfter = ⌊oldest + limiter.windowSeconds - now⌋ + 1 ∧ 0 < oldest + limiter.windowSeconds - now := by
  obtain ⟨sorted, _, apart⟩ := List.pairwise_append.mp ordered
  have latest (time : ℚ) (member : time ∈ calls) : time < now := apart time member now (List.mem_singleton.mpr rfl)
  have full : limiter.maxRequests ≤ (recent limiter calls now).length := by
    rw [← Nat.not_lt, ← allowed_iff holds latest, answer]
    exact Bool.false_ne_true
  cases window : recent limiter calls now with
  | nil =>
    rw [window] at full
    exact (Nat.not_lt.mpr full positive).elim
  | cons oldest rest =>
    have inside : oldest ∈ recent limiter calls now := by rw [window]; exact List.mem_cons_self
    have reach := of_decide_eq_true (List.mem_filter.mp inside).2
    have alive : 0 < oldest + limiter.windowSeconds - now := by linarith
    refine ⟨oldest, rfl, ?_, alive⟩
    have added := added_entries holds latest
    rw [isAllowed_key, window] at added
    cases found : ((limiter.window now traffic.key).add now now).first? with
    | none =>
      rw [SortedSet.first?_eq_none.mp found] at added
      cases added
    | some lowest =>
      have score := first_added holds ordered window found
      have counted : limiter.maxRequests ≤ (limiter.window now traffic.key).card := by
        rw [SortedSet.card, holds now latest, List.length_map]
        exact full
      have told := (Prod.mk.inj ((isAllowed_rejected counted found).symm.trans answer)).2
      rw [score, truncate, if_pos alive.le] at told
      have whole := Int.floor_nonneg.mpr alive.le
      omega

theorem room_iff {later : ℚ} (holds : Holds limiter calls traffic.key) (latest : ∀ time ∈ calls, time < now)
    (started : ∀ time ∈ calls ++ [now], 0 ≤ time) (past : now < later) :
    (limiter.isAllowed true later (limiter.isAllowed true now traffic.key).2).1.1 = true ↔
      (recent limiter (calls ++ [now]) later).length < limiter.maxRequests := by
  apply @allowed_iff limiter (calls ++ [now]) (traffic.after limiter now) later (holds.after latest started)
  intro time member
  rcases List.mem_append.mp member with old | last
  · exact (latest time old).trans past
  · exact (List.mem_singleton.mp last).trans_lt past

theorem wait_eq (oldest : ℚ) : now + ((⌊oldest + limiter.windowSeconds - now⌋ + 1 : Int) : ℚ) - limiter.windowSeconds =
    now + 1 - ⌈now - oldest⌉ := by
  have shift : oldest + limiter.windowSeconds - now = -(now - oldest) + (limiter.windowSeconds : ℚ) := by ring
  rw [shift, Int.floor_add_natCast, Int.floor_neg]
  push_cast
  ring

/-- In every state that calls at increasing times reach. -/
theorem retryAfter_honest_iff {retryAfter : Int} (positive : 0 < limiter.maxRequests)
    (ordered : (calls ++ [now]).Pairwise (· < ·)) (started : ∀ time ∈ calls ++ [now], 0 ≤ time)
    (ran : (calling limiter).run calls .none = some traffic)
    (answer : (limiter.isAllowed true now traffic.key).1 = (false, retryAfter)) :
    Honest limiter now retryAfter traffic.key ↔ Frees limiter calls now := by
  obtain ⟨sorted, _, apart⟩ := List.pairwise_append.mp ordered
  have latest (time : ℚ) (member : time ∈ calls) : time < now := apart time member now (List.mem_singleton.mpr rfl)
  have holds := run_holds holds_absent (by exact sorted)
    (fun time member => started time (List.mem_append_left _ (by exact member))) ran
  rw [List.nil_append] at holds
  obtain ⟨oldest, head, rfl, alive⟩ := rejected positive holds ordered answer
  have whole := Int.floor_nonneg.mpr alive.le
  have wait : (1 : ℚ) ≤ ((⌊oldest + limiter.windowSeconds - now⌋ + 1 : Int) : ℚ) := by
    rw [← Int.cast_one, Int.cast_le]
    omega
  have left (later : ℚ) (past : now ≤ later) :
      recent limiter (calls ++ [now]) later = recent limiter (recent limiter calls now ++ [now]) later :=
    (recent_recent past).symm
  simp only [Frees, head, Option.mem_some_iff, forall_eq']
  rw [← @wait_eq limiter now oldest]
  constructor
  · intro honest
    have room := (room_iff holds latest started (by linarith)).mp (honest _ (le_refl _))
    rw [left _ (by linarith)] at room
    exact room
  · intro room later reached
    rw [room_iff holds latest started (by linarith), left _ (by linarith)]
    refine lt_of_le_of_lt ?_ room
    apply List.Sublist.length_le
    apply List.monotone_filter_right
    intro time kept
    rw [decide_eq_true_eq] at kept ⊢
    linarith

/-- Two calls two seconds apart, where ten seconds allow one: the second is told to wait nine
seconds, and is still in the window then itself. -/
def single : RedisRateLimiter := ⟨1, 10⟩

theorem second_rejected : (calling single).run [0] .none = some (Traffic.none.after single 0) ∧
    (single.isAllowed true 2 (Traffic.none.after single 0).key).1 = (false, 9) := by
  refine ⟨?_, by decide +kernel⟩
  rw [Machine.run_cons, step_eq_some.mpr ⟨by decide +kernel, rfl⟩]
  rfl

theorem wait_too_short : (single.isAllowed true 2 (Traffic.none.after single 0).key).1 = (false, 9) ∧
    ¬ Honest single 2 9 (Traffic.none.after single 0).key := by
  refine ⟨second_rejected.2, ?_⟩
  intro honest
  have allowed := honest 11 (by norm_num)
  revert allowed
  decide +kernel

theorem second_honest_iff : Honest single 2 9 (Traffic.none.after single 0).key ↔ Frees single [0] 2 :=
  retryAfter_honest_iff (by decide) (by decide +kernel) (by decide +kernel) second_rejected.1 second_rejected.2

end MeteringBilling.RetryAfter
