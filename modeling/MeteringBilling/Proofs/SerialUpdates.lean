import MeteringBilling.Proofs.RacingUpdates
import MeteringBilling.Seed

/-! Two updates of one subscription in flight: the row ends as after one of the two orders
exactly if no commit mixes columns. -/

namespace MeteringBilling.SerialUpdates

variable {race : Race} {delivery first : Bool} {row other loaded assigned stored : Subscription} {done : Option Bool}
  {site next final : Site Bool} {action : WebhookAction Bool}

def Race.rowAfter (race : Race) : Option Bool → Subscription
  | none => race.row
  | some first => race.effect first race.row

/-- What a delivery that has not committed holds: the row as it was at first, or as it is now. -/
inductive Holds (race : Race) (done : Option Bool) (delivery : Bool) : Stage → Prop
  | arrived : Holds race done delivery .arrived
  | unprocessed (fresh : race.store.database.processedRows (race.eventId delivery) = []) :
      Holds race done delivery .unprocessed
  | planned {loaded assigned : Subscription} (seen : loaded = race.row ∨ loaded = race.rowAfter done)
      (fresh : race.store.database.processedRows (race.eventId delivery) = [])
      (computed : assignUpdate (race.env delivery).settings (race.payload delivery) loaded = .ok assigned) :
      Holds race done delivery (.planned (.assign (race.env delivery).transactionStart loaded assigned))
  | written {loaded assigned : Subscription} (seen : loaded = race.row ∨ loaded = race.rowAfter done)
      (accepted : race.accepted? delivery loaded = some assigned) :
      Holds race done delivery (.written (.assign (race.env delivery).transactionStart loaded assigned))
  | unserialized {change : Change} (unserialized : race.json delivery = none) : Holds race done delivery (.written change)
  | refused {reply : Except PyError WebhookStatus} (refused : race.accepted? delivery race.row = none) :
      Holds race done delivery (.finished reply)

def Answered (site : Site Bool) : Prop := ∀ delivery, ∃ reply, site.stage delivery = .finished reply

/-- A state in which at most one of the updates has been committed. -/
structure History (race : Race) (done : Option Bool) (site : Site Bool) : Prop where
  tables : Tables race site.store.database (race.rowAfter done)
  unmoved : ∀ delivery, done ≠ some delivery → Unmoved race delivery site.store.database
  holds : ∀ delivery, done ≠ some delivery → Holds race done delivery (site.stage delivery)
  finished : ∀ delivery, done = some delivery → ∃ reply, site.stage delivery = .finished reply
  accepted : ∀ delivery, done = some delivery → ∃ assigned, race.accepted? delivery race.row = some assigned

/-- What a step can do: it leaves the tables, or it commits what its delivery has written. -/
inductive Turns (race : Race) (done : Option Bool) (site : Site Bool) : WebhookAction Bool → Site Bool → Prop
  | moves {action : WebhookAction Bool} {stage : Stage} {redis : Redis} (uncommitted : done ≠ some action.delivery)
      (unkept : ∀ delivery, action = .mark delivery → race.json delivery = none)
      (holds : Holds race done action.delivery stage) :
      Turns race done site action
        { site.become action.delivery stage with store := { site.store with redis } }
  | commits {delivery : Bool} {loaded assigned : Subscription} {after : Database} (uncommitted : done ≠ some delivery)
      (stage : site.stage delivery = .written (.assign (race.env delivery).transactionStart loaded assigned))
      (seen : loaded = race.row ∨ loaded = race.rowAfter done)
      (accepted : race.accepted? delivery loaded = some assigned)
      (tables : Tables race after
        (Database.flushed (race.env delivery).transactionStart loaded assigned (race.rowAfter done)))
      (unmoved : Unmoved race (!delivery) site.store.database → Unmoved race (!delivery) after) :
      Turns race done site (.mark delivery)
        { site.become delivery (.finished (.ok .success)) with store := { site.store with database := after } }

theorem refused_other (planned : race.store.database.hasPlan other.planId = true)
    (refused : race.accepted? delivery row = none) : race.accepted? delivery other = none := by
  rw [Option.eq_none_iff_forall_ne_some]
  intro assigned accepted
  have taken := accepted?_other planned accepted row
  rw [refused] at taken
  cases taken

theorem refused_unserialized (unserialized : race.json delivery = none) : race.accepted? delivery row = none := by
  rw [Option.eq_none_iff_forall_ne_some]
  intro assigned accepted
  exact (accepted?_eq_some.mp accepted).2.2.1 unserialized

theorem unkept_turns (unserialized : race.json delivery = none) (uncommitted : done ≠ some delivery) (change : Change) :
    Turns race done site (.mark delivery)
      (markStep (race.incoming delivery).event (fun each => (race.incoming each).env) delivery change site) := by
  have failed : markStep (race.incoming delivery).event (fun each => (race.incoming each).env) delivery change site =
      site.become delivery (.finished (.error webhookFailed)) := by
    unfold markStep
    rw [committed?_unserialized unserialized]
  rw [failed]
  refine .moves uncommitted ?_ (.refused (refused_unserialized unserialized))
  intro other same
  exact WebhookAction.mark.inj same ▸ unserialized

theorem effect_accepted (accepted : race.accepted? delivery row = some assigned) : race.effect delivery row =
    Database.flushed (race.env delivery).transactionStart row assigned row := by
  rw [Race.effect, accepted]

theorem effect_refused (refused : race.accepted? delivery row = none) : race.effect delivery row = row := by
  rw [Race.effect, refused]

theorem effect_id (delivery : Bool) (row : Subscription) : (race.effect delivery row).id = row.id := by
  unfold Race.effect
  split
  · exact flushed_id _ _ _ _
  · rfl

namespace History

variable (history : History race done site)

include history

theorem planned : race.store.database.hasPlan (race.rowAfter done).planId = true := by
  cases done with
  | none => exact race.planned
  | some first =>
    obtain ⟨assigned, accepted⟩ := history.accepted first rfl
    have plan : (race.rowAfter (some first)).planId = assigned.planId :=
      (congrArg Subscription.planId (content_effect accepted race.row)).trans
        (congrArg Subscription.planId (assigned_columns (accepted?_eq_some.mp accepted).1)).symm
    rw [plan]
    by_cases same : assigned.planId = race.row.planId
    · rw [same]
      exact race.planned
    · exact (accepted?_eq_some.mp accepted).2.2.2 same

theorem seen_id (seen : loaded = race.row ∨ loaded = race.rowAfter done) : (race.rowAfter done).id = loaded.id := by
  have same : (race.rowAfter done).id = race.row.id := by
    cases done with
    | none => rfl
    | some first => exact effect_id first race.row
  rcases seen with rfl | rfl
  · exact same
  · rfl

theorem held {stage : Stage} (reached : site.stage delivery = stage) (pending : ∀ reply, stage ≠ .finished reply) :
    done ≠ some delivery ∧ Holds race done delivery stage := by
  have uncommitted : done ≠ some delivery := by
    intro committed
    obtain ⟨reply, finished⟩ := history.finished delivery committed
    exact pending reply (reached.symm.trans finished)
  exact ⟨uncommitted, reached ▸ history.holds delivery uncommitted⟩

theorem looked (uncommitted : done ≠ some delivery) (envs : Bool → Env) :
    Holds race done delivery (isProcessedStep (race.incoming delivery).event envs delivery site) := by
  by_cases unmarked : site.store.database.processedRows (race.eventId delivery) = []
  · have cleared : isProcessedStep (race.incoming delivery).event envs delivery site = .unprocessed :=
      isProcessedStep_unmarked delivery unmarked
    rw [cleared]
    exact .unprocessed ((history.unmoved delivery uncommitted).symm.trans unmarked)
  · have answered := @isProcessedStep_marked _ (race.incoming delivery).event envs site delivery unmarked
    rw [answered]
    refine .refused ?_
    rw [Option.eq_none_iff_forall_ne_some]
    intro assigned accepted
    exact unmarked ((history.unmoved delivery uncommitted).trans (accepted?_eq_some.mp accepted).2.1)

theorem read (fresh : race.store.database.processedRows (race.eventId delivery) = []) :
    Holds race done delivery
      (readStep (race.incoming delivery).event (fun each => (race.incoming each).env) delivery site) := by
  unfold readStep
  rw [change?_eq history.tables]
  dsimp only [Race.incoming]
  cases computed : assignUpdate (race.env delivery).settings (race.payload delivery) (race.rowAfter done) with
  | ok assigned => exact .planned (Or.inr rfl) fresh computed
  | error exc =>
    refine .refused (@refused_other race delivery (race.rowAfter done) race.row race.planned ?_)
    unfold Race.accepted?
    rw [computed]
    rfl

theorem wrote (seen : loaded = race.row ∨ loaded = race.rowAfter done)
    (fresh : race.store.database.processedRows (race.eventId delivery) = [])
    (computed : assignUpdate (race.env delivery).settings (race.payload delivery) loaded = .ok assigned)
    (envs : Bool → Env) : ∃ stage redis, Holds race done delivery stage ∧
      writeStep envs delivery (.assign (race.env delivery).transactionStart loaded assigned) site =
        { site.become delivery stage with store := { site.store with redis } } := by
  unfold writeStep
  split
  · next after applied =>
    obtain ⟨plan, _⟩ := updateSubscription_ok.mp (toOption_eq_some.mp applied)
    by_cases serialized : race.json delivery = none
    · exact ⟨_, _, .unserialized serialized, rfl⟩
    · refine ⟨_, _, .written seen (accepted?_eq_some.mpr ⟨computed, fresh, serialized, ?_⟩), rfl⟩
      intro moved
      exact (hasPlan_eq history.tables _).symm.trans (plan moved)
  · next refused =>
    refine ⟨_, site.store.redis, .refused (@refused_other race delivery loaded race.row race.planned ?_), rfl⟩
    rw [Option.eq_none_iff_forall_ne_some]
    intro other accepted
    obtain ⟨same, _, _, plan⟩ := accepted?_eq_some.mp accepted
    obtain rfl := Except.ok.inj (computed.symm.trans same)
    have written := (@updateSubscription_ok site.store.database _ (race.env delivery).transactionStart loaded assigned).mpr
      ⟨fun moved => (hasPlan_eq history.tables _).trans (plan moved), rfl⟩
    have applied : (Change.assign _ loaded assigned).applied? site.store.database = some _ := toOption_eq_some.mpr written
    rw [refused] at applied
    cases applied

theorem marked (uncommitted : done ≠ some delivery) (seen : loaded = race.row ∨ loaded = race.rowAfter done)
    (accepted : race.accepted? delivery loaded = some assigned)
    (stage : site.stage delivery = .written (.assign (race.env delivery).transactionStart loaded assigned)) :
    Turns race done site (.mark delivery) (markStep (race.incoming delivery).event (fun each => (race.incoming each).env)
      delivery (.assign (race.env delivery).transactionStart loaded assigned) site) := by
  obtain ⟨_, fresh, serialized, plan⟩ := accepted?_eq_some.mp accepted
  have unmarked := (history.unmoved delivery uncommitted).trans fresh
  obtain ⟨after, committed, tables, unmoved⟩ :=
    committed_row history.tables (history.seen_id seen) plan unmarked serialized (race.env delivery)
  have marked : markStep (race.incoming delivery).event (fun each => (race.incoming each).env) delivery
      (.assign (race.env delivery).transactionStart loaded assigned) site =
      { site.become delivery (.finished (.ok .success)) with store := { site.store with database := after } } := by
    rw [markStep, show (race.incoming delivery).env = race.env delivery from rfl, committed]
  rw [marked]
  exact .commits uncommitted stage seen accepted tables unmoved

theorem turns (sound : ∀ delivery, action ≠ .fail delivery)
    (taken : (concurrentDeliveries race.incoming).step action site = some next) : Turns race done site action next := by
  cases action with
  | lookup delivery =>
    simp only [concurrentDeliveries, concurrentWebhooks] at taken
    split at taken
    · next stage =>
      obtain rfl := Option.some.inj taken
      obtain ⟨uncommitted, _⟩ := history.held stage (by intro reply finished; cases finished)
      exact .moves uncommitted (by intro other same; cases same) (history.looked uncommitted _)
    · cases taken
  | read delivery =>
    simp only [concurrentDeliveries, concurrentWebhooks] at taken
    split at taken
    · next stage =>
      obtain rfl := Option.some.inj taken
      obtain ⟨uncommitted, held⟩ := history.held stage (by intro reply finished; cases finished)
      cases held with
      | unprocessed fresh => exact .moves uncommitted (by intro other same; cases same) (history.read fresh)
    · cases taken
  | write delivery =>
    simp only [concurrentDeliveries, concurrentWebhooks] at taken
    split at taken
    · next stage =>
      split at taken
      · obtain rfl := Option.some.inj taken
        obtain ⟨uncommitted, held⟩ := history.held stage (by intro reply finished; cases finished)
        cases held with
        | planned seen fresh computed =>
          obtain ⟨after, redis, holds, same⟩ := history.wrote seen fresh computed fun each => (race.incoming each).env
          rw [same]
          exact .moves uncommitted (by intro other same; cases same) holds
      · cases taken
    · cases taken
  | mark delivery =>
    simp only [concurrentDeliveries, concurrentWebhooks] at taken
    split at taken
    · next stage =>
      obtain rfl := Option.some.inj taken
      obtain ⟨uncommitted, held⟩ := history.held stage (by intro reply finished; cases finished)
      cases held with
      | written seen accepted => exact history.marked uncommitted seen accepted stage
      | unserialized unserialized => exact unkept_turns unserialized uncommitted _
    · cases taken
  | fail delivery => exact (sound delivery rfl).elim

theorem moves {stage : Stage} {redis : Redis} (uncommitted : done ≠ some delivery)
    (holds : Holds race done delivery stage) :
    History race done { site.become delivery stage with store := { site.store with redis } } where
  tables := history.tables
  unmoved := history.unmoved
  holds := by
    intro each open_
    change Holds race done each ((site.become delivery stage).stage each)
    rw [become_stage]
    split
    · next same => exact same ▸ holds
    · exact history.holds each open_
  finished := by
    intro each committed
    change ∃ reply, (site.become delivery stage).stage each = .finished reply
    have apart : each ≠ delivery := fun same => uncommitted (same ▸ committed)
    rw [become_stage, if_neg apart]
    exact history.finished each committed
  accepted := history.accepted

end History

theorem Holds.grow {stage : Stage} (holds : Holds race none delivery stage) : Holds race done delivery stage := by
  cases holds with
  | arrived => exact .arrived
  | unprocessed fresh => exact .unprocessed fresh
  | planned seen fresh computed => exact .planned (Or.inl (seen.elim id id)) fresh computed
  | written seen accepted => exact .written (Or.inl (seen.elim id id)) accepted
  | unserialized unserialized => exact .unserialized unserialized
  | refused refused => exact .refused refused

theorem History.commits {after : Database} (history : History race none site)
    (accepted : race.accepted? delivery race.row = some assigned)
    (tables : Tables race after (Database.flushed (race.env delivery).transactionStart race.row assigned race.row))
    (unmoved : Unmoved race (!delivery) site.store.database → Unmoved race (!delivery) after) :
    History race (some delivery)
      { site.become delivery (.finished (.ok .success)) with store := { site.store with database := after } } where
  tables := by
    change Tables race after (race.effect delivery race.row)
    rw [effect_accepted accepted]
    exact tables
  unmoved := by
    intro each other
    have apart : each ≠ delivery := fun same => other (same ▸ rfl)
    obtain rfl := Bool.eq_not_of_ne apart
    exact unmoved (history.unmoved _ (by simp))
  holds := by
    intro each other
    have apart : each ≠ delivery := fun same => other (same ▸ rfl)
    change Holds race (some delivery) each ((site.become delivery _).stage each)
    rw [become_stage, if_neg apart]
    exact (history.holds each (by simp)).grow
  finished := by
    intro each committed
    obtain rfl := Option.some.inj committed
    exact ⟨_, Function.update_self _ _ _⟩
  accepted := by
    intro each committed
    obtain rfl := Option.some.inj committed
    exact ⟨assigned, accepted⟩

theorem History.settled (history : History race done site) (answered : Answered site) :
    race.Serializable site.store.database := by
  have refused (each : Bool) (uncommitted : done ≠ some each) : race.accepted? each race.row = none := by
    obtain ⟨reply, finished⟩ := answered each
    have holds := history.holds each uncommitted
    rw [finished] at holds
    cases holds with
    | refused refused => exact refused
  have found := history.tables.found
  cases done with
  | none =>
    refine ⟨true, ?_⟩
    rw [serially_row, effect_refused (refused true (by simp)), effect_refused (refused (!true) (by simp)), found]
    rfl
  | some first =>
    refine ⟨first, ?_⟩
    have late := refused_other history.planned (refused (!first) (by simp))
    change race.accepted? (!first) (race.effect first race.row) = none at late
    rw [serially_row, effect_refused late, found]
    rfl

theorem prevails_fresh (accepted : race.accepted? delivery loaded = some assigned) :
    race.Prevails delivery loaded assigned loaded where
  status := Eq.symm
  periodStart := Eq.symm
  periodEnd := Eq.symm
  cancelAtPeriodEnd := Eq.symm
  planId := by
    intro left
    exact (congrArg Subscription.planId (assigned_columns (accepted?_eq_some.mp accepted).1)).symm.trans left

theorem serializable_iff_content {database : Database} (tables : Tables race database stored) (delivery : Bool) :
    race.Serializable database ↔ content stored = content (race.effect delivery (race.effect (!delivery) race.row)) ∨
      content stored = content (race.effect (!delivery) (race.effect delivery race.row)) := by
  have serial (first : Bool) : (database.subscription? race.id).map content =
        ((race.serially first).database.subscription? race.id).map content ↔
      content stored = content (race.effect (!first) (race.effect first race.row)) := by
    rw [serially_row, tables.found, Option.map_some, Option.map_some, Option.some.injEq]
  constructor
  · intro ⟨first, same⟩
    have ended := (serial first).mp same
    by_cases which : first = delivery
    · exact Or.inr (which ▸ ended)
    · obtain rfl := Bool.eq_not_of_ne which
      rw [Bool.not_not] at ended
      exact Or.inl ended
  · intro ended
    rcases ended with behind | ahead
    · refine ⟨!delivery, (serial _).mpr ?_⟩
      rw [Bool.not_not]
      exact behind
    · exact ⟨delivery, (serial _).mpr ahead⟩

theorem harmless_iff (tables : Tables race site.store.database stored) (serialized : race.json delivery ≠ none) {time : Int}
    (stage : site.stage delivery = .written (.assign time loaded assigned)) : race.Harmless (.mark delivery) site ↔
      race.Prevails delivery loaded assigned stored ∨ race.Yields delivery loaded assigned stored := by
  constructor
  · intro harmless
    exact harmless delivery time loaded assigned stored rfl serialized stage tables.found
  · intro fits other _ _ _ _ which _ reached found
    obtain rfl := WebhookAction.mark.inj which
    obtain ⟨rfl, rfl, rfl⟩ := Change.assign.inj (Stage.written.inj (stage.symm.trans reached))
    obtain rfl := Option.some.inj (tables.found.symm.trans found)
    exact fits

theorem second_commit {after : Database} (history : History race (some (!delivery)) site)
    (stage : site.stage delivery = .written (.assign (race.env delivery).transactionStart loaded assigned))
    (seen : loaded = race.row ∨ loaded = race.effect (!delivery) race.row)
    (accepted : race.accepted? delivery loaded = some assigned)
    (tables : Tables race after (Database.flushed (race.env delivery).transactionStart loaded assigned
      (race.effect (!delivery) race.row))) :
    race.Serializable after ↔ race.Harmless (.mark delivery) site := by
  rw [harmless_iff history.tables (accepted?_eq_some.mp accepted).2.2.1 stage]
  change _ ↔ race.Prevails delivery loaded assigned (race.effect (!delivery) race.row) ∨ _
  rw [serializable_iff_content tables delivery]
  rcases seen with rfl | rfl
  · obtain ⟨ahead, early⟩ := history.accepted (!delivery) rfl
    exact or_congr (content_after accepted early) (content_before accepted early)
  · refine iff_of_true (Or.inl ?_) (Or.inl (prevails_fresh accepted))
    rw [effect_accepted accepted]

theorem answered_done {actions : List (WebhookAction Bool)} (answered : Answered site)
    (ran : (concurrentDeliveries race.incoming).run actions site = some final) : actions = [] := by
  cases actions with
  | nil => rfl
  | cons action rest =>
    obtain ⟨next, taken, _⟩ := Machine.run_cons_eq_some ran
    obtain ⟨reply, finished⟩ := answered action.delivery
    cases action <;> simp [concurrentDeliveries, concurrentWebhooks, WebhookAction.delivery] at finished taken <;>
      rw [finished] at taken <;> cases taken

theorem serializable_each {actions : List (WebhookAction Bool)}
    (sound : ∀ action ∈ actions, ∀ delivery, action ≠ .fail delivery)
    (history : History race done site) (ran : (concurrentDeliveries race.incoming).run actions site = some final)
    (answered : Answered final) : race.Serializable final.store.database ↔
      (concurrentDeliveries race.incoming).Each race.Harmless actions site := by
  induction actions generalizing site done with
  | nil =>
    obtain rfl := Option.some.inj ran
    exact iff_of_true (history.settled answered) trivial
  | cons action rest ih =>
    obtain ⟨next, taken, later⟩ := Machine.run_cons_eq_some ran
    obtain ⟨here, remaining⟩ := List.forall_mem_cons.mp sound
    rw [Machine.each_cons taken]
    cases history.turns here taken with
    | moves uncommitted unkept holds =>
      rw [ih remaining (history.moves uncommitted holds) later]
      refine (and_iff_right ?_).symm
      intro delivery _ _ _ _ marks serialized
      exact (serialized (unkept delivery marks)).elim
    | @commits delivery loaded assigned after uncommitted stage seen accepted tables unmoved =>
      cases done with
      | none =>
        obtain rfl : loaded = race.row := seen.elim id id
        rw [ih remaining (history.commits accepted tables unmoved) later]
        refine (and_iff_right ?_).symm
        exact (harmless_iff history.tables (accepted?_eq_some.mp accepted).2.2.1 stage).mpr
          (Or.inl (prevails_fresh accepted))
      | some first =>
        have apart : first ≠ delivery := fun same => uncommitted (same ▸ rfl)
        obtain rfl := Bool.eq_not_of_ne apart
        obtain ⟨reply, finished⟩ := history.finished (!delivery) rfl
        have ended : Answered { site.become delivery (.finished (.ok .success)) with
            store := { site.store with database := after } } := by
          intro each
          change ∃ reply, (site.become delivery _).stage each = .finished reply
          rw [become_stage]
          split
          · exact ⟨_, rfl⟩
          · next other =>
            obtain rfl := Bool.eq_not_of_ne other
            exact ⟨reply, finished⟩
        obtain rfl := answered_done ended later
        obtain rfl := Option.some.inj later
        rw [and_iff_left (by trivial)]
        exact second_commit history stage seen accepted tables

/-- The row ends as after one of the two orders exactly if no commit mixes columns. -/
theorem serializable_iff (race : Race) {actions : List (WebhookAction Bool)} {final : Site Bool}
    (sound : ∀ action ∈ actions, ∀ delivery, action ≠ .fail delivery)
    (ran : (concurrentDeliveries race.incoming).run actions race.initial = some final)
    (answered : ∀ delivery, ∃ reply, final.stage delivery = .finished reply) :
    race.Serializable final.store.database ↔
      (concurrentDeliveries race.incoming).Each race.Harmless actions race.initial := by
  have initial : History race none race.initial := by
    refine ⟨⟨race.found, rfl⟩, ?_, ?_, ?_, ?_⟩
    · exact fun _ _ => rfl
    · exact fun _ _ => .arrived
    · intro delivery committed
      cases committed
    · intro delivery committed
      cases committed
  exact serializable_each sound initial ran answered

/-- The payment is overdue, and the subscription ends with its period. -/
def overdueAndEnding : Race where
  env delivery := Seed.env (if delivery then 41 else 40)
  eventId delivery := if delivery then "evt_2" else "evt_1"
  json _ := Seed.payload
  payload delivery := { Seed.stripeSubscription (if delivery then "active" else "past_due") [] with
    cancelAtPeriodEnd := some delivery }
  id := "sub_1"
  store := Seed.paid
  row := Seed.paying
  about _ := rfl
  distinct := by decide
  found := rfl
  planned := rfl

/-- Both load the row before either commits. -/
def overlapping : List (WebhookAction Bool) :=
  [.lookup false, .lookup true, .read false, .read true, .write false, .mark false, .write true, .mark true]

theorem overlapping_sound : ∀ action ∈ overlapping, ∀ delivery, action ≠ .fail delivery := by
  intro action member delivery same
  subst same
  simp [overlapping] at member

theorem overlapping_run : ((concurrentDeliveries overdueAndEnding.incoming).run overlapping overdueAndEnding.initial).map
      (fun site => (site.stage, (site.store.database.subscription? "sub_1").map content)) =
    some (fun _ => .finished (.ok .success), some { content Seed.paying with
      status := .pastDue
      currentPeriodStart := some 1750000000000000
      currentPeriodEnd := some 1752592000000000
      cancelAtPeriodEnd := true }) := by
  decide

/-- The row is overdue and ends with its period, as neither order leaves it. -/
theorem updates_mixed : (∀ action ∈ overlapping, ∀ delivery, action ≠ .fail delivery) ∧ ∃ final,
    (concurrentDeliveries overdueAndEnding.incoming).run overlapping overdueAndEnding.initial = some final ∧
      (∀ delivery, final.stage delivery = .finished (.ok .success)) ∧
      ¬ overdueAndEnding.Serializable final.store.database := by
  refine ⟨overlapping_sound, ?_⟩
  obtain ⟨final, ran, ended⟩ := Option.map_eq_some_iff.mp overlapping_run
  obtain ⟨stages, row⟩ := Prod.mk.inj ended
  refine ⟨final, ran, congrFun stages, ?_⟩
  intro ⟨first, same⟩
  rw [show overdueAndEnding.id = "sub_1" from rfl, row] at same
  revert same
  cases first <;> decide

theorem overlapping_iff : ∃ final,
    (concurrentDeliveries overdueAndEnding.incoming).run overlapping overdueAndEnding.initial = some final ∧
      (overdueAndEnding.Serializable final.store.database ↔
        (concurrentDeliveries overdueAndEnding.incoming).Each overdueAndEnding.Harmless overlapping
          overdueAndEnding.initial) := by
  obtain ⟨final, ran, ended⟩ := Option.map_eq_some_iff.mp overlapping_run
  obtain ⟨stages, _⟩ := Prod.mk.inj ended
  exact ⟨final, ran,
    serializable_iff overdueAndEnding overlapping_sound ran fun delivery => ⟨_, congrFun stages delivery⟩⟩

end MeteringBilling.SerialUpdates
