import MeteringBilling.Proofs.WebhookSteps
import MeteringBilling.Seed

/-! Concurrent deliveries of one event: when the tables keep at most one mark of it. -/

namespace MeteringBilling.ExactlyOnce

variable {ι : Type} {event : StripeEvent} {envs : ι → Env} {site next : Site ι}

def Marked (event : StripeEvent) (site : Site ι) : Prop := site.store.database.processedRows event.id ≠ []

def AtMostOnce (event : StripeEvent) (site : Site ι) : Prop :=
  (site.store.database.processedRows event.id).length ≤ 1

instance : Decidable (Marked event site) := inferInstanceAs (Decidable (_ ≠ _))

instance : Decidable (AtMostOnce event site) := inferInstanceAs (Decidable (_ ≤ _))

/-- A delivery that starts when the event is marked is told so. -/
def Told (event : StripeEvent) (envs : ι → Env) (action : WebhookAction ι) (site : Site ι) : Prop :=
  ∀ delivery, action = .lookup delivery → Marked event site →
    isProcessedStep event envs delivery site = .finished (.ok .alreadyProcessed)

/-- A run that notes, for each delivery, whether another one has committed since its lookup. -/
structure Watched (ι : Type) where
  site : Site ι
  overtaken : ι → Bool

def Watched.note [DecidableEq ι] (watched : Watched ι) (action : WebhookAction ι) (site : Site ι) : Watched ι where
  site := site
  overtaken := match action with
    | .lookup delivery => Function.update watched.overtaken delivery false
    | _ => fun delivery => watched.overtaken delivery || decide (site.store.database ≠ watched.site.store.database)

def watching [DecidableEq ι] [Fintype ι] (event : StripeEvent) (envs : ι → Env) :
    Machine (WebhookAction ι) (Watched ι) where
  step action watched := ((concurrentWebhooks event envs).step action watched.site).map (watched.note action)

/-- No delivery commits its mark when another one has committed since its lookup. -/
def Unovertaken (event : StripeEvent) (envs : ι → Env) (action : WebhookAction ι) (watched : Watched ι) : Prop :=
  ∀ delivery change, action = .mark delivery → watched.site.stage delivery = .written change →
    change.committed? event (envs delivery) watched.site.store.database ≠ none → watched.overtaken delivery = false

def Working : Stage → Prop
  | .unprocessed | .planned _ | .written _ => True
  | _ => False

/-- A delivery found no mark, so there is one only if another delivery has committed. -/
def Tracks (event : StripeEvent) (watched : Watched ι) : Prop :=
  ∀ delivery, Working (watched.site.stage delivery) → (watched.overtaken delivery = true ↔ Marked event watched.site)

variable [DecidableEq ι]

theorem working_become {acting delivery : ι} {stage : Stage}
    (working : Working ((site.become acting stage).stage delivery)) :
    delivery = acting ∧ Working stage ∨ delivery ≠ acting ∧ Working (site.stage delivery) := by
  rw [become_stage] at working
  split at working
  · next same => exact Or.inl ⟨same, working⟩
  · next apart => exact Or.inr ⟨apart, working⟩

theorem working_cases {action : WebhookAction ι} (advances : Advances event envs site action next) {delivery : ι}
    (working : Working (next.stage delivery)) :
    Working (site.stage delivery) ∧ action ≠ .lookup delivery ∨ action = .lookup delivery ∧ ¬ Marked event site := by
  cases advances with
  | answered =>
    rcases working_become working with ⟨_, idle⟩ | ⟨apart, before⟩
    · exact idle.elim
    · exact Or.inl ⟨before, fun same => apart (WebhookAction.lookup.inj same).symm⟩
  | cleared _ unmarked =>
    rcases working_become working with ⟨rfl, _⟩ | ⟨apart, before⟩
    · exact Or.inr ⟨rfl, fun marked => marked unmarked⟩
    · exact Or.inl ⟨before, fun same => apart (WebhookAction.lookup.inj same).symm⟩
  | planned stage | written stage =>
    refine Or.inl ⟨?_, by rintro ⟨⟩⟩
    rcases working_become working with ⟨rfl, _⟩ | ⟨_, before⟩
    · rw [stage]
      trivial
    · exact before
  | committed | rejected | raised | refused | failed =>
    refine Or.inl ⟨?_, by rintro ⟨⟩⟩
    rcases working_become working with ⟨_, idle⟩ | ⟨_, before⟩
    · exact idle.elim
    · exact before

@[simp] theorem note_site (watched : Watched ι) (action : WebhookAction ι) (site : Site ι) :
    (watched.note action site).site = site := rfl

theorem note_lookup (watched : Watched ι) (delivery : ι) (site : Site ι) :
    (watched.note (.lookup delivery) site).overtaken delivery = false := Function.update_self _ _ _

theorem note_other {watched : Watched ι} {action : WebhookAction ι} {site : Site ι} {delivery : ι}
    (apart : action ≠ .lookup delivery) (reads : ∀ other, action = .lookup other →
      site.store.database = watched.site.store.database) : (watched.note action site).overtaken delivery =
        (watched.overtaken delivery || decide (site.store.database ≠ watched.site.store.database)) := by
  cases action with
  | lookup other =>
    have different : delivery ≠ other := fun equal => apart (by rw [equal])
    simp [Watched.note, Function.update_of_ne different, reads other rfl]
  | _ => rfl

variable [Fintype ι]

theorem tracks_step {watched after : Watched ι} {action : WebhookAction ι} (tracks : Tracks event watched)
    (taken : (watching event envs).step action watched = some after) : Tracks event after := by
  obtain ⟨next, stepped, rfl⟩ := Option.map_eq_some_iff.mp taken
  have advances := step_advances stepped
  have reads : ∀ other, action = .lookup other → next.store.database = watched.site.store.database := by
    intro other looks
    subst looks
    rcases advances_cases advances with ⟨_, _, ⟨⟩, _⟩ | ⟨same, _⟩
    exact same
  intro delivery working
  rcases working_cases advances working with ⟨before, apart⟩ | ⟨rfl, unmarked⟩
  · rw [note_other apart reads]
    rcases advances_cases advances with ⟨_, _, _, _, _, rows⟩ | ⟨same, _⟩
    · have changed : next.store.database ≠ watched.site.store.database := by
        intro same
        rw [same] at rows
        simpa using congrArg List.length rows
      exact iff_of_true (by simp [changed]) (by rw [Marked, note_site, rows]; simp)
    · simpa [same, Marked] using tracks delivery before
  · rw [note_lookup, Marked, note_site, reads delivery rfl]
    exact iff_of_false Bool.false_ne_true unmarked

theorem atMostOnce_step {watched after : Watched ι} {action : WebhookAction ι} (tracks : Tracks event watched)
    (once : AtMostOnce event watched.site) (taken : (watching event envs).step action watched = some after) :
    AtMostOnce event after.site ↔ Unovertaken event envs action watched := by
  obtain ⟨next, stepped, rfl⟩ := Option.map_eq_some_iff.mp taken
  rcases advances_cases (step_advances stepped) with ⟨delivery, change, rfl, stage, committable, rows⟩ | ⟨same, fails⟩
  · have tracked := tracks delivery (by rw [stage]; trivial)
    have unmarked : AtMostOnce event next ↔ ¬ Marked event watched.site := by
      rw [AtMostOnce, rows, List.length_append, List.length_singleton, Marked, not_not, ← List.length_eq_zero_iff]
      omega
    refine unmarked.trans ⟨?_, fun unovertaken marked => ?_⟩
    · intro unmarked other _ marks _ _
      cases marks
      exact Bool.eq_false_iff.mpr fun overtaken => unmarked (tracked.mp overtaken)
    · exact Bool.eq_false_iff.mp (unovertaken delivery change rfl stage committable) (tracked.mpr marked)
  · refine iff_of_true (by rw [AtMostOnce, note_site, same]; exact once) ?_
    intro delivery change marks stage committable
    exact (committable (fails delivery change marks stage)).elim

omit [DecidableEq ι] [Fintype ι] in
theorem told_of_once {action : WebhookAction ι} (once : AtMostOnce event site) : Told event envs action site := by
  intro delivery _ marked
  rw [isProcessedStep, isProcessed_one (envs delivery).calm_quiet rfl (by exact once)]
  cases rows : site.store.open.working.processedRows event.id with
  | nil => exact (marked rows).elim
  | cons row rest => rfl

theorem exactly_once_iff {schedule : List (WebhookAction ι)} {watched : Watched ι}
    (arrived : ∀ delivery, watched.site.stage delivery = .arrived) (start : AtMostOnce event watched.site) :
    (watching event envs).Always (fun watched => AtMostOnce event watched.site) schedule watched ∧
        (watching event envs).Each (fun action watched => Told event envs action watched.site) schedule watched ↔
      (watching event envs).Each (Unovertaken event envs) schedule watched := by
  have tracked : (watching event envs).Invariant (fun _ => True) (Tracks event) :=
    fun _ _ _ _ tracks taken => tracks_step tracks taken
  have exactly : (watching event envs).Always (fun watched => AtMostOnce event watched.site) schedule watched ↔
      (watching event envs).Each (Unovertaken event envs) schedule watched := by
    refine Machine.always_iff_each tracked ?_ (fun _ _ => trivial) ?_ start
    · exact fun _ _ _ _ tracks once taken => atMostOnce_step tracks once taken
    · intro delivery working
      rw [arrived] at working
      exact working.elim
  rw [← exactly]
  exact and_iff_left_of_imp fun always => Machine.Always.each always fun _ _ _ _ once _ => told_of_once once

def payment : StripeEvent := ⟨"evt_1", .paymentSucceeded ⟨some "in_1", some (some "sub_1"), some 2900⟩, Seed.payload⟩

def surroundings (delivery : Fin 3) : Env := Seed.env (50 + delivery)

def paying : Watched (Fin 3) where
  site :=
    { store := { Seed.store with database := { Seed.database with
        subscriptions := ⟨[{ Seed.subscription with stripeSubscriptionId := some "sub_1" }], by decide⟩ } }
      stage := fun _ => .arrived }
  overtaken _ := false

/-- Both look the event up before either commits; the second write waits for the first commit. -/
def overlapping : List (WebhookAction (Fin 3)) :=
  [.lookup 0, .lookup 1, .read 0, .read 1, .write 0, .mark 0, .write 1, .mark 1]

def doubled : Watched (Fin 3) := ((watching payment surroundings).run overlapping paying).get (by decide)

/-- Two rows are committed, and the third delivery is not told that the event is processed. -/
theorem marked_twice : (∀ delivery, paying.site.stage delivery = .arrived) ∧ AtMostOnce payment paying.site ∧
    (watching payment surroundings).run overlapping paying = some doubled ∧ ¬ AtMostOnce payment doubled.site ∧
    ¬ Told payment surroundings (.lookup 2) doubled.site := by
  refine ⟨fun _ => rfl, by decide, (Option.some_get _).symm, by decide, fun told => ?_⟩
  exact absurd (told 2 rfl (by decide)) (by decide)

theorem exactly_once_overlapping :
    (watching payment surroundings).Always (fun watched => AtMostOnce payment watched.site) overlapping paying ∧
        (watching payment surroundings).Each (fun action watched => Told payment surroundings action watched.site)
          overlapping paying ↔
      (watching payment surroundings).Each (Unovertaken payment surroundings) overlapping paying :=
  exactly_once_iff (fun _ => rfl) (by decide)

end MeteringBilling.ExactlyOnce
