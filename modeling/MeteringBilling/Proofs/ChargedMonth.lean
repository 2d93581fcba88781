import MeteringBilling.Proofs.Faults
import MeteringBilling.Proofs.Usage
import MeteringBilling.Runs
import MeteringBilling.Seed

/-! The month that usage is charged to. The check reads the application's clock, the row is
dated by the start of the transaction, which is earlier: at the turn of a month the row can
fall into the month before the one it was checked against. -/

namespace MeteringBilling.ChargedMonth

def monthTotal (database : Database) (tenantId : UUID) (usageType : UsageType) (month : DateTime) : Int :=
  ((database.usageEvents.rows.filter fun row => decide (row.tenantId = tenantId ∧ row.usageType = usageType ∧
    month.startOfMonth.timestamp ≤ row.createdAt ∧ row.createdAt < month.endOfMonth)).map UsageEvent.quantity).sum

/-- No month of any tenant has more usage of a type than the limit in force. -/
def MonthsWithin (store : Store) : Prop :=
  ∀ tenantId usageType limit, store.database.limit? tenantId usageType = some limit →
    ∀ month, monthTotal store.database tenantId usageType month ≤ limit

/-- The event a request adds lies in the window it was checked against. -/
def Charged (action : Env × MeterCall) (store : Store) : Prop :=
  ∀ event ∈ (serve (recordUsage action.2) action.1 store).2.database.usageEvents, event ∉ store.database.usageEvents →
    action.1.monthStart ≤ event.createdAt

/-- Redis has no response to the request, which passes the check, and its row is new. -/
def Recordable (action : Env × MeterCall) (store : Store) : Prop :=
  action.2.cached? action.1 store.redis = none ∧ ∃ cost, action.2.record.Inserts action.1 store.database cost

/-- The transaction of a request that can be recorded starts in the month of the check, not before. -/
def Timely (action : Env × MeterCall) (store : Store) : Prop :=
  Recordable action store → action.1.monthStart ≤ action.1.transactionStart

/-- The transaction starts before the check reads the clock. -/
def Clocked (action : Env × MeterCall) : Prop :=
  action.1.transactionStart ≤ (action.1.now 0 .checkQuota).timestamp

instance (action : Env × MeterCall) : Decidable (Clocked action) :=
  inferInstanceAs (Decidable (_ ≤ _))

def Positive (store : Store) : Prop := ∀ event ∈ store.database.usageEvents, 0 ≤ event.quantity

variable {store next : Store} {action : Env × MeterCall} {tenantId : UUID} {usageType : UsageType}

theorem filter_sum_le {α : Type} {weight : α → Int} {first second : α → Bool} (rows : List α)
    (nonneg : ∀ row ∈ rows, 0 ≤ weight row) (implies : ∀ row, first row = true → second row = true) :
    ((rows.filter first).map weight).sum ≤ ((rows.filter second).map weight).sum := by
  induction rows with
  | nil => exact le_refl 0
  | cons row rows ih =>
    obtain ⟨here, rest⟩ := List.forall_mem_cons.mp nonneg
    have below := ih rest
    by_cases counted : first row = true
    · rw [List.filter_cons_of_pos counted, List.filter_cons_of_pos (implies row counted)]
      simp only [List.map_cons, List.sum_cons]
      omega
    · rw [List.filter_cons_of_neg counted, List.filter_cons]
      split
      · simp only [List.map_cons, List.sum_cons]
        omega
      · exact below

theorem monthTotal_le (positive : Positive store) (month : DateTime) :
    monthTotal store.database tenantId usageType month ≤
      store.database.monthlyUsage tenantId usageType month.startOfMonth.timestamp := by
  rw [monthTotal, Database.monthlyUsage, Database.monthlyEvents, Table.select, List.filter_filter]
  apply filter_sum_le _ positive
  intro row counted
  have holds := of_decide_eq_true counted
  simp [holds.1, holds.2.1, holds.2.2.1]

theorem monthTotal_append {before after : Database} {event : UsageEvent}
    (rows : after.usageEvents.rows = before.usageEvents.rows ++ [event]) (month : DateTime) :
    monthTotal after tenantId usageType month = monthTotal before tenantId usageType month +
      if event.tenantId = tenantId ∧ event.usageType = usageType ∧
        month.startOfMonth.timestamp ≤ event.createdAt ∧ event.createdAt < month.endOfMonth then event.quantity
      else 0 := by
  rw [monthTotal, rows, List.filter_append, List.map_append, List.sum_append, monthTotal, List.filter_singleton]
  split
  · next counted => simp [counted]
  · next uncounted =>
    rw [decide_eq_false uncounted]
    rfl

theorem positive_after (positive : Positive store) (action : Env × MeterCall) :
    Positive (serve (recordUsage action.2) action.1 store).2 :=
  metered_all positive fun _ _ => action.2.request.valid.1.le

theorem recorded_rows (action : Env × MeterCall) (store : Store) :
    (serve (recordUsage action.2) action.1 store).2.database = store.database ∨
      action.2.cached? action.1 store.redis = none ∧
      ∃ cost, ∃ inserts : action.2.record.Inserts action.1 store.database cost,
        (serve (recordUsage action.2) action.1 store).2.database =
          { store.database with usageEvents := store.database.usageEvents.add _ inserts.fits } := by
  cases looked : action.2.cached? action.1 store.redis with
  | some cached => exact Or.inl (metered_hit looked)
  | none => exact (metered_rows action.2 action.1 store).imp_right fun added => ⟨rfl, added⟩

theorem charged_of_timely (timely : Timely action store) : Charged action store := by
  intro event member new
  rcases recorded_rows action store with same | ⟨missed, cost, inserts, final⟩
  · rw [same] at member
    exact (new member).elim
  · rw [final] at member
    rcases List.mem_append.mp member with old | last
    · exact (new old).elim
    · rw [List.mem_singleton.mp last]
      exact timely ⟨missed, cost, inserts⟩

theorem timely_of_charged (quiet : action.1.Quiet) (charged : Charged action store) : Timely action store := by
  intro recordable
  obtain ⟨missed, cost, inserts⟩ := recordable
  have served := serve_recordUsage_miss store quiet missed
  obtain ⟨info, recorded⟩ := record_of_inserts inserts
  rw [recorded] at served
  have added : action.2.record.fresh action.1 cost ∈
      (serve (recordUsage action.2) action.1 store).2.database.usageEvents := by
    rw [served]
    exact List.mem_append_right _ (List.mem_singleton.mpr rfl)
  exact charged _ added fun member => inserts.fits _ member (Or.inl rfl)

theorem within_after (clocked : Clocked action) (positive : Positive store) (timely : Timely action store)
    (within : MonthsWithin store) : MonthsWithin (serve (recordUsage action.2) action.1 store).2 := by
  rcases recorded_rows action store with same | ⟨missed, cost, inserts, final⟩
  · rw [MonthsWithin, same]
    exact within
  · have start : action.1.monthStart ≤ action.1.transactionStart := timely ⟨missed, cost, inserts⟩
    rw [MonthsWithin, final]
    intro tenantId usageType limit limited month
    have before := within tenantId usageType limit limited month
    rw [monthTotal_append rfl]
    split
    · next counted =>
      obtain ⟨tenant, type, inside⟩ := counted
      obtain ⟨info, admitted⟩ := inserts.admitted
      obtain ⟨other, limited', room, _⟩ := admission?_eq_some.mp admitted
      rw [show action.2.record.tenantId = tenantId from tenant, show action.2.record.usageType = usageType from type]
        at limited' room
      obtain rfl : limit = other := Option.some.inj (limited.symm.trans limited')
      have checked := (action.1.now 0 .checkQuota).lt_endOfMonth
      have monthly : month.startOfMonth.timestamp = action.1.monthStart :=
        DateTime.startOfMonth_unique inside ⟨start, lt_of_le_of_lt clocked checked⟩
      have below := @monthTotal_le store tenantId usageType positive month
      rw [monthly] at below
      have quantity : (action.2.record.fresh action.1 cost).quantity = action.2.record.qty := rfl
      omega
    · rw [Int.add_zero]
      exact before

/-- In every serial run of requests, whatever fails: where no transaction of a request that can be
recorded started in the month before its check, each event lies in the window it was checked
against, and no month exceeds the limit. Where the database works, only there. -/
theorem charged_in_month {calls : List (Env × MeterCall)} (clocked : ∀ action ∈ calls, Clocked action)
    (positive : Positive store) (within : MonthsWithin store) :
    (meterRuns.Each Timely calls store → meterRuns.Each Charged calls store ∧ meterRuns.Always MonthsWithin calls store) ∧
      ((∀ action ∈ calls, action.1.Quiet) → meterRuns.Each Charged calls store → meterRuns.Each Timely calls store) := by
  constructor
  · intro timely
    refine ⟨timely.imp fun _ _ _ => charged_of_timely, ?_⟩
    have kept : meterRuns.Always (fun store => MonthsWithin store ∧ Positive store) calls store := by
      refine Machine.always_of_each ?_ clocked ⟨within, positive⟩ timely
      intro action store next clocked taken holds timely
      obtain rfl := Option.some.inj taken
      exact ⟨within_after clocked holds.2 timely holds.1, positive_after holds.2 action⟩
    exact kept.imp fun _ holds => holds.1
  · intro working charged
    exact charged.imp fun action member _ => timely_of_charged (working action member)

def midnight : DateTime := ⟨2025, 7, 1, 0, 0, 0, 0, by decide⟩

/-- A request for one API call whose check comes a millisecond after its transaction started, in
the next month. -/
def straddling : Env × MeterCall :=
  ({ Seed.env 21 with transactionStart := midnight.timestamp - 1000, now := fun _ _ => midnight }, Seed.apiCall "second")

def exhausting : Env × MeterCall := (Seed.env 20, { Seed.apiCall "first" with request := Seed.wholeQuota })

theorem straddling_clocked : ∀ action ∈ [exhausting, straddling], Clocked action := by
  intro action member
  rcases List.mem_pair.mp member with rfl | rfl
  · exact (by decide : Clocked exhausting)
  · exact (by decide : Clocked straddling)

theorem seeded_positive : Positive Seed.store := fun _ member => (List.not_mem_nil member).elim

theorem seeded_within : MonthsWithin Seed.store := by
  intro tenantId usageType limit limited month
  obtain ⟨subscription, _, planned⟩ := Option.bind_eq_some_iff.mp limited
  obtain ⟨plan, stored, same⟩ := Option.bind_eq_some_iff.mp planned
  obtain rfl := Option.some.inj same
  have member : plan ∈ [Seed.free, Seed.pro] := (Table.find?_mem stored).1
  have total : monthTotal Seed.store.database tenantId usageType month = 0 := rfl
  rw [total, QuotaService.limit]
  rcases List.mem_pair.mp member with rfl | rfl
  · split <;> decide
  · split <;> decide

/-- The check sees an empty July, and the row is dated in June. -/
theorem june_exceeded : (∀ action ∈ [exhausting, straddling], Clocked action) ∧ Positive Seed.store ∧
    MonthsWithin Seed.store ∧ ¬ meterRuns.Each Charged [exhausting, straddling] Seed.store ∧
    ¬ meterRuns.Always MonthsWithin [exhausting, straddling] Seed.store := by
  refine ⟨straddling_clocked, seeded_positive, seeded_within, ?_, ?_⟩
  · intro charged
    have second := ((charged _ rfl).2 _ rfl).1 (straddling.2.record.fresh straddling.1 1000)
    have early := second (by decide) (by decide)
    revert early
    decide
  · intro always
    have last := ((always.2 _ rfl).2 _ rfl) Seed.tenant.id .apiCall 5000 (by decide) Seed.time
    revert last
    decide

theorem straddling_in_month :
    (meterRuns.Each Timely [exhausting, straddling] Seed.store →
        meterRuns.Each Charged [exhausting, straddling] Seed.store ∧
          meterRuns.Always MonthsWithin [exhausting, straddling] Seed.store) ∧
      ((∀ action ∈ [exhausting, straddling], action.1.Quiet) →
        meterRuns.Each Charged [exhausting, straddling] Seed.store →
          meterRuns.Each Timely [exhausting, straddling] Seed.store) :=
  charged_in_month straddling_clocked seeded_positive seeded_within

end MeteringBilling.ChargedMonth
