import MeteringBilling.RateLimit

/-! The limiter keeps its limit as long as every call it lets through gets an entry of its
own. A call that shares its clock reading with an earlier one does not: the sorted set
already has that member. -/

namespace MeteringBilling.RateWindow

variable {limiter : RedisRateLimiter} {traffic next : Traffic} {now : ℚ}

def allowedIn (limiter : RedisRateLimiter) (traffic : Traffic) (instant : ℚ) : List ℚ :=
  traffic.allowed.filter fun time => decide (instant - limiter.windowSeconds < time ∧ time ≤ instant)

def WithinLimit (limiter : RedisRateLimiter) (traffic : Traffic) : Prop :=
  ∀ instant, (allowedIn limiter traffic instant).length ≤ limiter.maxRequests

/-- A reading that is in the set already comes only when the set is full. -/
def Counted (limiter : RedisRateLimiter) (now : ℚ) (traffic : Traffic) : Prop :=
  now ∈ (limiter.window now traffic.key).members → limiter.maxRequests ≤ (limiter.window now traffic.key).card

instance (limiter : RedisRateLimiter) (now : ℚ) (traffic : Traffic) : Decidable (Counted limiter now traffic) :=
  inferInstanceAs (Decidable (_ → _))

/-- The set remembers every allowed call that a window can still hold, and each by itself. -/
structure Remembers (limiter : RedisRateLimiter) (traffic : Traffic) : Prop where
  apart : traffic.allowed.Nodup
  stored : ∀ time ∈ traffic.allowed, ∃ latest ∈ traffic.latest, time ≤ latest ∧
    (latest - limiter.windowSeconds < time → time ∈ traffic.key.requests.members)
  scored : ∀ entry ∈ traffic.key.requests.entries, entry.1 = entry.2
  deadline : ∀ deadline ∈ traffic.key.expiresAt, ∃ latest ∈ traffic.latest,
    deadline = latest + (limiter.windowSeconds + 1)

theorem remembers_none : Remembers limiter .none where
  apart := .nil
  stored _ member := (List.not_mem_nil member).elim
  scored _ member := (List.not_mem_nil member).elim
  deadline _ member := by cases member

@[simp] theorem isAllowed_key : (limiter.isAllowed true now traffic.key).2 =
    ⟨(limiter.window now traffic.key).add now now, some (now + (limiter.windowSeconds + 1))⟩ := by
  unfold RedisRateLimiter.isAllowed
  simp only [Bool.not_true, Bool.false_eq_true, if_false]
  split
  · split <;> rfl
  · rfl

@[simp] theorem isAllowed_allowed : (limiter.isAllowed true now traffic.key).1.1 = true ↔
    (limiter.window now traffic.key).card < limiter.maxRequests := by
  unfold RedisRateLimiter.isAllowed
  simp only [Bool.not_true, Bool.false_eq_true, if_false]
  split
  · next full => split <;> simp [full]
  · next free => simpa using free

theorem isAllowed_rejected {oldest : ℚ × ℚ} (full : limiter.maxRequests ≤ (limiter.window now traffic.key).card)
    (first : ((limiter.window now traffic.key).add now now).first? = some oldest) :
    (limiter.isAllowed true now traffic.key).1 =
      (false, max (truncate (oldest.2 + limiter.windowSeconds - now) + 1) 1) := by
  unfold RedisRateLimiter.isAllowed
  simp only [Bool.not_true, Bool.false_eq_true, if_false, full, if_true, first]

theorem mem_window {entry : ℚ × ℚ} : entry ∈ (limiter.window now traffic.key).entries ↔
    entry ∈ (traffic.key.live now).entries ∧ ¬ (0 ≤ entry.2 ∧ entry.2 ≤ now - limiter.windowSeconds) := by
  simp only [RedisRateLimiter.window, SortedSet.removeRangeByScore_entries, List.mem_filter, Bool.not_eq_true',
    decide_eq_false_iff_not]

theorem Remembers.window (remembers : Remembers limiter traffic) (ordered : ∀ before ∈ traffic.latest, before ≤ now)
    {time : ℚ} (member : time ∈ traffic.allowed) (recent : now - limiter.windowSeconds < time) :
    time ∈ (limiter.window now traffic.key).members := by
  obtain ⟨latest, known, older, stored⟩ := remembers.stored time member
  have later := ordered latest known
  obtain ⟨entry, present, rfl⟩ := List.mem_map.mp (stored (by linarith))
  refine List.mem_map.mpr ⟨entry, mem_window.mpr ⟨?_, ?_⟩, rfl⟩
  · rw [RateKey.live, if_neg]
    · exact present
    · intro expired
      obtain ⟨deadline, set, reached⟩ := expired
      obtain ⟨other, same, rfl⟩ := remembers.deadline deadline set
      obtain rfl := Option.some.inj (known.symm.trans same)
      linarith
  · rw [← remembers.scored entry present]
    intro removed
    linarith [removed.2]

theorem step_eq_some : (calling limiter).step now traffic = some next ↔
    (∀ before ∈ traffic.latest, before ≤ now) ∧ next = traffic.after limiter now := by
  simp only [calling]
  split <;> simp_all [eq_comm]

theorem Remembers.after (remembers : Remembers limiter traffic) (positive : 0 < limiter.windowSeconds)
    (ordered : ∀ before ∈ traffic.latest, before ≤ now) (counted : Counted limiter now traffic) :
    Remembers limiter (traffic.after limiter now) where
  apart := by
    have window : (0 : ℚ) < limiter.windowSeconds := by exact_mod_cast positive
    unfold Traffic.after
    split
    · next allowed =>
      refine List.nodup_append.mpr ⟨remembers.apart, List.pairwise_singleton _ _, ?_⟩
      intro time member last added same
      obtain rfl := List.mem_singleton.mp added
      have held := remembers.window ordered member (by linarith)
      have full := counted (same ▸ held)
      have free := isAllowed_allowed.mp allowed
      omega
    · exact remembers.apart
  stored := by
    have window : (0 : ℚ) < limiter.windowSeconds := by exact_mod_cast positive
    intro time member
    refine ⟨now, rfl, ?_⟩
    by_cases fresh : time = now
    · subst fresh
      refine ⟨le_refl _, fun _ => ?_⟩
      simp [Traffic.after, SortedSet.members]
    · have old : time ∈ traffic.allowed := by
        unfold Traffic.after at member
        split at member
        · rcases List.mem_append.mp member with old | added
          · exact old
          · exact (fresh (List.mem_singleton.mp added)).elim
        · exact member
      obtain ⟨latest, known, older, _⟩ := remembers.stored time old
      refine ⟨older.trans (ordered latest known), fun recent => ?_⟩
      obtain ⟨entry, present, rfl⟩ := List.mem_map.mp (remembers.window ordered old recent)
      simp only [Traffic.after, isAllowed_key, SortedSet.members, SortedSet.add_entries]
      refine List.mem_map.mpr ⟨entry, List.mem_append_left _ (List.mem_filter.mpr ⟨present, ?_⟩), rfl⟩
      exact bne_iff_ne.mpr fresh
  scored := by
    intro entry present
    simp only [Traffic.after, isAllowed_key, SortedSet.add_entries] at present
    rcases List.mem_append.mp present with old | added
    · have kept := (mem_window.mp (List.mem_filter.mp old).1).1
      unfold RateKey.live at kept
      split at kept
      · cases kept
      · exact remembers.scored entry kept
    · rw [List.mem_singleton.mp added]
  deadline := by
    intro deadline set
    simp only [Traffic.after, isAllowed_key] at set
    exact ⟨now, rfl, (Option.some.inj set).symm⟩

theorem within_after (within : WithinLimit limiter traffic) (remembers : Remembers limiter traffic)
    (ordered : ∀ before ∈ traffic.latest, before ≤ now) : WithinLimit limiter (traffic.after limiter now) := by
  intro instant
  by_cases allowed : (limiter.isAllowed true now traffic.key).1.1 = true
  · have free := isAllowed_allowed.mp allowed
    rw [allowedIn, Traffic.after]
    simp only [allowed, if_true, List.filter_append, List.length_append]
    by_cases inside : instant - limiter.windowSeconds < now ∧ now ≤ instant
    · -- The window reaches back no further than the one the limiter counts at this call.
      have counted : (allowedIn limiter traffic instant).length ≤ (limiter.window now traffic.key).card := by
        apply SortedSet.length_le_card (remembers.apart.filter _)
        intro time member
        obtain ⟨old, recent⟩ := List.mem_filter.mp member
        have recent := of_decide_eq_true recent
        exact remembers.window ordered old (by linarith)
      have last : ([now].filter fun time => decide (instant - limiter.windowSeconds < time ∧ time ≤ instant)).length ≤ 1 :=
        List.length_filter_le _ _
      unfold allowedIn at counted
      omega
    · have outside : [now].filter (fun time => decide (instant - limiter.windowSeconds < time ∧ time ≤ instant)) = [] := by
        simp [inside]
      rw [outside, List.length_nil, Nat.add_zero]
      exact within instant
  · rw [allowedIn, Traffic.after]
    simp only [allowed, Bool.false_eq_true, if_false]
    exact within instant

/-- The calls of any run are within the limit in every window, if no step lets a call through
that shares its reading with an entry. -/
theorem limit_kept (positive : 0 < limiter.windowSeconds) {schedule : List ℚ}
    (counted : (calling limiter).Each (Counted limiter) schedule .none) :
    (calling limiter).Always (WithinLimit limiter) schedule .none := by
  have kept : (calling limiter).Always
      (fun traffic => WithinLimit limiter traffic ∧ Remembers limiter traffic) schedule .none := by
    refine Machine.always_of_each ?_ (fun _ _ => trivial) ⟨fun instant => Nat.zero_le _, remembers_none⟩ counted
    intro now traffic next _ taken holds met
    obtain ⟨ordered, rfl⟩ := step_eq_some.mp taken
    exact ⟨within_after holds.1 holds.2 ordered, holds.2.after positive ordered met⟩
  exact kept.imp fun _ holds => holds.1

def pair : RedisRateLimiter := ⟨2, 60⟩

theorem burst_allowed : ¬ (calling pair).Always (WithinLimit pair) [0, 0, 0] .none := by
  intro always
  have first := always.2 _ (step_eq_some.mpr ⟨by decide +kernel, rfl⟩)
  have second := first.2 _ (step_eq_some.mpr ⟨by decide +kernel, rfl⟩)
  have third := second.2 _ (step_eq_some.mpr ⟨by decide +kernel, rfl⟩)
  have bound := third 0
  revert bound
  decide +kernel

theorem spread_kept : (calling pair).Always (WithinLimit pair) [0, 1, 2] .none := by
  apply limit_kept (by decide)
  intro next taken
  obtain ⟨_, rfl⟩ := step_eq_some.mp taken
  refine ⟨by decide +kernel, fun next taken => ?_⟩
  obtain ⟨_, rfl⟩ := step_eq_some.mp taken
  refine ⟨by decide +kernel, fun next taken => ?_⟩
  obtain ⟨_, rfl⟩ := step_eq_some.mp taken
  exact ⟨by decide +kernel, trivial⟩

end MeteringBilling.RateWindow
