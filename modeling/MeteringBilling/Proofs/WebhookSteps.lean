import MeteringBilling.ConcurrentWebhooks
import MeteringBilling.Proofs.Deliveries

/-! The steps of concurrent deliveries, said once for all invariants. -/

namespace MeteringBilling

variable {ι : Type} {event : StripeEvent} {envs : ι → Env} {site next : Site ι}

theorem committed?_processedRows {change : Change} {env : Env} {database after : Database}
    (committed : change.committed? event env database = some after) :
    after.processedRows event.id = database.processedRows event.id ++ [event.mark env] := by
  obtain ⟨written, applied, inserted⟩ := Option.bind_eq_some_iff.mp committed
  obtain ⟨_, _, rfl⟩ := insertProcessedEvent_ok.mp (toOption_eq_some.mp inserted)
  have same := (Change.applied?_extends applied).processed
  simp [Database.processedRows, Table.select, same, StripeEvent.mark]

theorem isProcessedStep_unmarked (delivery : ι) (unmarked : site.store.database.processedRows event.id = []) :
    isProcessedStep event envs delivery site = .unprocessed := by
  have same : site.store.open.working.processedRows event.id = [] := unmarked
  rw [isProcessedStep, isProcessed_one (envs delivery).calm_quiet rfl (by simp [same]), same]
  rfl

theorem isProcessedStep_marked (delivery : ι) (marked : site.store.database.processedRows event.id ≠ []) :
    isProcessedStep event envs delivery site = .finished
      (if 1 < (site.store.database.processedRows event.id).length then .error .multipleResultsFound
        else .ok .alreadyProcessed) := by
  by_cases many : 1 < (site.store.database.processedRows event.id).length
  · rw [if_pos many, isProcessedStep, isProcessed_many (envs delivery).calm_quiet rfl (by exact many)]
  · rw [if_neg many, isProcessedStep,
      isProcessed_one (envs delivery).calm_quiet rfl (by exact Nat.not_lt.mp many)]
    cases rows : site.store.open.working.processedRows event.id with
    | nil => exact (marked rows).elim
    | cons row rest => rfl

variable [DecidableEq ι]

/-- What a step can do. -/
inductive Advances (event : StripeEvent) (envs : ι → Env) (site : Site ι) : WebhookAction ι → Site ι → Prop
  | answered {delivery : ι} {reply : Except PyError WebhookStatus} (stage : site.stage delivery = .arrived) :
      Advances event envs site (.lookup delivery) (site.become delivery (.finished reply))
  | cleared {delivery : ι} (stage : site.stage delivery = .arrived)
      (unmarked : site.store.database.processedRows event.id = []) :
      Advances event envs site (.lookup delivery) (site.become delivery .unprocessed)
  | planned {delivery : ι} {change : Change} (stage : site.stage delivery = .unprocessed) :
      Advances event envs site (.read delivery) (site.become delivery (.planned change))
  | raised {delivery : ι} (stage : site.stage delivery = .unprocessed) :
      Advances event envs site (.read delivery) (site.become delivery (.finished (.error webhookFailed)))
  | written {delivery : ι} {change : Change} {redis : Redis} (stage : site.stage delivery = .planned change) :
      Advances event envs site (.write delivery)
        { site.become delivery (.written change) with store := { site.store with redis } }
  | refused {delivery : ι} {change : Change} (stage : site.stage delivery = .planned change) :
      Advances event envs site (.write delivery) (site.become delivery (.finished (.error webhookFailed)))
  | committed {delivery : ι} {change : Change} {database : Database} (stage : site.stage delivery = .written change)
      (committed : change.committed? event (envs delivery) site.store.database = some database) :
      Advances event envs site (.mark delivery)
        { site.become delivery (.finished (.ok .success)) with store := { site.store with database } }
  | rejected {delivery : ι} {change : Change} (stage : site.stage delivery = .written change)
      (rejected : change.committed? event (envs delivery) site.store.database = none) :
      Advances event envs site (.mark delivery) (site.become delivery (.finished (.error webhookFailed)))
  | failed {delivery : ι} (unfinished : ∀ reply, site.stage delivery ≠ .finished reply) :
      Advances event envs site (.fail delivery) (site.become delivery (.finished (.error webhookFailed)))

theorem step_advances [Fintype ι] {action : WebhookAction ι}
    (taken : (concurrentWebhooks event envs).step action site = some next) :
    Advances event envs site action next := by
  cases action with
  | lookup delivery =>
    simp only [concurrentWebhooks] at taken
    split at taken
    · next stage =>
      obtain rfl := Option.some.inj taken
      by_cases unmarked : site.store.database.processedRows event.id = []
      · rw [isProcessedStep_unmarked delivery unmarked]
        exact .cleared stage unmarked
      · rw [isProcessedStep_marked delivery unmarked]
        exact .answered stage
    · cases taken
  | read delivery =>
    simp only [concurrentWebhooks] at taken
    split at taken
    · next stage =>
      obtain rfl := Option.some.inj taken
      unfold readStep
      split
      · exact .planned stage
      · exact .raised stage
    · cases taken
  | write delivery =>
    simp only [concurrentWebhooks] at taken
    split at taken
    · next stage =>
      split at taken
      · obtain rfl := Option.some.inj taken
        unfold writeStep
        split
        · exact .written stage
        · exact .refused stage
      · cases taken
    · cases taken
  | mark delivery =>
    simp only [concurrentWebhooks] at taken
    split at taken
    · next stage =>
      obtain rfl := Option.some.inj taken
      unfold markStep
      split
      · next committed => exact .committed stage committed
      · next rejected => exact .rejected stage rejected
    · cases taken
  | fail delivery =>
    simp only [concurrentWebhooks] at taken
    split at taken
    · next stage =>
      obtain rfl := Option.some.inj taken
      exact .failed (by simp [stage])
    · next stage =>
      obtain rfl := Option.some.inj taken
      exact .failed (by simp [stage])
    · next stage =>
      obtain rfl := Option.some.inj taken
      exact .failed (by simp [stage])
    · cases taken

theorem become_stage (delivery other : ι) (stage : Stage) :
    (site.become other stage).stage delivery = if delivery = other then stage else site.stage delivery :=
  Function.update_apply _ _ _ _

/-- Only a mark that can be committed changes the tables, and it adds itself. -/
theorem advances_cases {action : WebhookAction ι} (advances : Advances event envs site action next) :
    (∃ delivery change, action = .mark delivery ∧ site.stage delivery = .written change ∧
      change.committed? event (envs delivery) site.store.database ≠ none ∧
      next.store.database.processedRows event.id =
        site.store.database.processedRows event.id ++ [event.mark (envs delivery)]) ∨
    next.store.database = site.store.database ∧ ∀ delivery change, action = .mark delivery →
      site.stage delivery = .written change → change.committed? event (envs delivery) site.store.database = none := by
  cases advances with
  | @committed delivery change database stage committed =>
    refine Or.inl ⟨delivery, change, rfl, stage, ?_, committed?_processedRows committed⟩
    rw [committed]
    exact Option.some_ne_none _
  | rejected stage rejected =>
    refine Or.inr ⟨rfl, ?_⟩
    rintro _ other ⟨⟩ same
    obtain rfl := Stage.written.inj (stage.symm.trans same)
    exact rejected
  | _ => exact Or.inr ⟨rfl, by rintro _ _ ⟨⟩⟩

theorem applied?_eq (event : StripeEvent) (env : Env) (database : Database) :
    event.applied? env database =
      (event.data.change? env database).bind fun change => change.committed? event env database := by
  rw [StripeEvent.applied?, EventData.process?]
  exact Option.bind_assoc _ _ _

def Ended {ι : Type} (delivery : ι) (before : Database) (outcome : Option Database) (final : Site ι) : Prop :=
  match outcome with
  | some after => final.store.database = after ∧ final.stage delivery = .finished (.ok .success)
  | none => final.store.database = before ∧ final.stage delivery = .finished (.error webhookFailed)

section

variable [Fintype ι] {delivery : ι} {change : Change}

private theorem written_run (site : Site ι) (stage : site.stage delivery = .written change) :
    ∃ schedule final, (concurrentWebhooks event envs).run schedule site = some final ∧
      Ended delivery site.store.database (change.committed? event (envs delivery) site.store.database) final := by
  have marked : (concurrentWebhooks event envs).step (.mark delivery) site =
      some (markStep event envs delivery change site) := by
    simp only [concurrentWebhooks, stage]
  refine ⟨[.mark delivery], _, Machine.run_step marked (Machine.run_nil _), ?_⟩
  unfold markStep
  cases change.committed? event (envs delivery) site.store.database <;> exact ⟨rfl, Function.update_self _ _ _⟩

private theorem planned_run (stage : site.stage delivery = .planned change)
    (uncontended : Uncontended delivery change site) :
    ∃ schedule final, (concurrentWebhooks event envs).run schedule site = some final ∧
      Ended delivery site.store.database (change.committed? event (envs delivery) site.store.database) final := by
  have wrote : (concurrentWebhooks event envs).step (.write delivery) site =
      some (writeStep envs delivery change site) := by
    simp only [concurrentWebhooks, stage, if_pos uncontended]
  unfold writeStep at wrote
  cases applied : change.applied? site.store.database with
  | none =>
    rw [applied] at wrote
    refine ⟨[.write delivery], _, Machine.run_step wrote (Machine.run_nil _), ?_⟩
    rw [Change.committed?, applied]
    exact ⟨rfl, Function.update_self _ _ _⟩
  | some written =>
    rw [applied] at wrote
    let writing : Site ι := { site.become delivery (.written change) with
      store := { site.store with redis := change.invalidated (envs delivery) site.store.redis } }
    obtain ⟨schedule, final, ran, ended⟩ := written_run writing (Function.update_self _ _ _)
    exact ⟨_, final, Machine.run_step wrote ran, ended⟩

private theorem unprocessed_run (stage : site.stage delivery = .unprocessed)
    (idle : ∀ other, other ≠ delivery → (site.stage other).pending = none) :
    ∃ schedule final, (concurrentWebhooks event envs).run schedule site = some final ∧
      Ended delivery site.store.database (event.applied? (envs delivery) site.store.database) final := by
  have asked : (concurrentWebhooks event envs).step (.read delivery) site =
      some (site.become delivery (readStep event envs delivery site)) := by
    simp only [concurrentWebhooks, stage]
  unfold readStep at asked
  rw [applied?_eq]
  cases planned : event.data.change? (envs delivery) site.store.database with
  | none =>
    rw [planned] at asked
    exact ⟨[.read delivery], _, Machine.run_step asked (Machine.run_nil _), rfl, Function.update_self _ _ _⟩
  | some change =>
    rw [planned] at asked
    have uncontended : Uncontended delivery change (site.become delivery (.planned change)) := by
      intro other different held holding
      rw [become_stage, if_neg different, idle other different] at holding
      cases holding
    obtain ⟨schedule, final, ran, ended⟩ := planned_run (Function.update_self _ _ _) uncontended
    exact ⟨_, final, Machine.run_step asked ran, ended⟩

end

/-- A delivery that nobody interrupts ends as it does when it is served on its own. -/
theorem delivery_run [Fintype ι] {delivery : ι} (quiet : (envs delivery).Quiet) (arrived : site.stage delivery = .arrived)
    (idle : ∀ other, (site.stage other).pending = none) :
    ∃ schedule final, (concurrentWebhooks event envs).run schedule site = some final ∧
      final.store.database = ((Delivery.mk (envs delivery) event).after site.store).database ∧
      final.stage delivery = .finished ((Delivery.mk (envs delivery) event).reply site.store) := by
  have looked : (concurrentWebhooks event envs).step (.lookup delivery) site =
      some (site.become delivery (isProcessedStep event envs delivery site)) := by
    simp only [concurrentWebhooks, arrived]
  by_cases unmarked : site.store.database.processedRows event.id = []
  · rw [isProcessedStep_unmarked delivery unmarked] at looked
    have idle : ∀ other, other ≠ delivery → ((site.become delivery .unprocessed).stage other).pending = none := by
      intro other different
      rw [become_stage, if_neg different, idle]
    obtain ⟨schedule, final, ran, ended⟩ := unprocessed_run (Function.update_self _ _ _) idle
    refine ⟨_, final, Machine.run_step looked ran, ?_⟩
    have answered : (Delivery.mk (envs delivery) event).reply site.store = _ := reply_first quiet unmarked
    rw [answered]
    change Ended delivery site.store.database (event.applied? (envs delivery) site.store.database) final at ended
    cases applied : event.applied? (envs delivery) site.store.database with
    | some after =>
      rw [applied] at ended
      exact ⟨ended.1.trans (delivered_first quiet unmarked applied).2.symm, ended.2⟩
    | none =>
      rw [applied] at ended
      exact ⟨ended.1.trans (delivered_unchanged fun _ => applied).symm, ended.2⟩
  · have unchanged : ((Delivery.mk (envs delivery) event).after site.store).database = site.store.database :=
      delivered_unchanged fun marked => (unmarked marked).elim
    rw [isProcessedStep_marked delivery unmarked] at looked
    refine ⟨[.lookup delivery], _, Machine.run_step looked (Machine.run_nil _), unchanged.symm, ?_⟩
    rw [become_stage, if_pos rfl, reply_marked quiet unmarked]

end MeteringBilling
