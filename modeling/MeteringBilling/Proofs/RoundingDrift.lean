import MeteringBilling.Proofs.CostRounding
import MeteringBilling.Proofs.MonthlyBill

/-! How far costs that are rounded event by event can drift from the exact price: half a microunit
an event, and none where the price is a whole number of microunits. -/

namespace MeteringBilling.RoundingDrift

open CostRounding MonthlyBill

/-- The costs of the quantities against their exact price, and against the cost of their sum. -/
structure Drifts (price : Int) (quantities costs : List Int) (whole : Int) : Prop where
  exact : |1000 * costs.sum - price * quantities.sum| ≤ 500 * quantities.length
  repriced : 2 * |costs.sum - whole| ≤ quantities.length + 1
  none : 1000 ∣ price → 1000 * costs.sum = price * quantities.sum ∧ costs.sum = whole

variable {settings : Settings} {usageType : UsageType} {quantities : List Int} {store : Store}

theorem counted_sum (counted : ∀ quantity ∈ quantities, 1 ≤ quantity) : 0 ≤ quantities.sum :=
  List.sum_nonneg fun quantity member => (by decide : (0 : Int) ≤ 1).trans (counted quantity member)

section

variable {price : Int} (charged : 0 < price)

include charged

theorem cost_within {quantity : Int} (counted : 0 ≤ quantity) (fits : price * quantity < 10 ^ 28) :
    ∃ cost, calculateCostMicrounits quantity price = .ok cost ∧ |1000 * cost - price * quantity| ≤ 500 ∧
      (1000 ∣ price → 1000 * cost = price * quantity) := by
  rw [Int.mul_comm] at fits
  rw [Int.mul_comm price]
  by_cases empty : quantity = 0
  · subst empty
    exact ⟨0, cost_nothing (Or.inl (le_refl 0)), by simp, fun _ => by simp⟩
  · refine ⟨_, cost_exact (by omega) fits, abs_le.mpr ⟨by omega, by omega⟩, fun whole => ?_⟩
    have product : 1000 ∣ quantity * price := whole.mul_left quantity
    omega

theorem costs_within (counted : ∀ quantity ∈ quantities, 1 ≤ quantity) (fits : price * quantities.sum < 10 ^ 28) :
    ∃ costs, quantities.mapM (fun quantity => calculateCostMicrounits quantity price) = .ok costs ∧
      |1000 * costs.sum - price * quantities.sum| ≤ 500 * quantities.length ∧
      (1000 ∣ price → 1000 * costs.sum = price * quantities.sum) := by
  induction quantities with
  | nil => exact ⟨[], rfl, by simp, fun _ => by simp⟩
  | cons quantity quantities ih =>
    obtain ⟨here, rest⟩ := List.forall_mem_cons.mp counted
    have first := Int.mul_nonneg charged.le ((by decide : (0 : Int) ≤ 1).trans here)
    have later := Int.mul_nonneg charged.le (counted_sum rest)
    rw [List.sum_cons, Int.mul_add] at fits
    obtain ⟨cost, priced, near, whole⟩ := cost_within charged (by omega : 0 ≤ quantity) (by omega)
    obtain ⟨costs, all, close, even⟩ := ih rest (by omega)
    refine ⟨cost :: costs, ?_, ?_, fun multiple => ?_⟩
    · rw [List.mapM_cons, priced, all]
      rfl
    · rw [List.sum_cons, List.sum_cons, List.length_cons, Int.mul_add, Int.mul_add]
      rw [abs_le] at near close ⊢
      push_cast
      omega
    · have one := whole multiple
      have others := even multiple
      rw [List.sum_cons, List.sum_cons, Int.mul_add, Int.mul_add, one, others]

theorem costs_drift (counted : ∀ quantity ∈ quantities, 1 ≤ quantity) (fits : price * quantities.sum < 10 ^ 28) :
    ∃ costs whole, quantities.mapM (fun quantity => calculateCostMicrounits quantity price) = .ok costs ∧
      calculateCostMicrounits quantities.sum price = .ok whole ∧ Drifts price quantities costs whole := by
  obtain ⟨costs, all, close, even⟩ := costs_within charged counted fits
  obtain ⟨whole, priced, near, exact⟩ := cost_within charged (counted_sum counted) fits
  refine ⟨costs, whole, all, priced, close, ?_, fun multiple => ?_⟩
  · rw [abs_le] at close near
    have apart : |costs.sum - whole| ≤ (quantities.length + 1) / 2 := abs_le.mpr ⟨by omega, by omega⟩
    omega
  · have sum := even multiple
    have one := exact multiple
    exact ⟨sum, by omega⟩

end

/-- The costs of recorded quantities and what rounding makes of them. -/
theorem drift_bounded (charged : 0 < pricePerThousand settings usageType)
    (counted : ∀ quantity ∈ quantities, 1 ≤ quantity) (fits : pricePerThousand settings usageType * quantities.sum < 10 ^ 28) :
    ∃ costs whole, quantities.mapM (CostService.calculate settings usageType) = .ok costs ∧
      CostService.calculate settings usageType quantities.sum = .ok whole ∧
      Drifts (pricePerThousand settings usageType) quantities costs whole := by
  obtain ⟨costs, whole, all, priced, drifts⟩ := costs_drift charged counted fits
  refine ⟨costs, whole, ?_, (calculate_eq ..).trans priced, drifts⟩
  rw [funext (calculate_eq settings usageType)]
  exact all

theorem three_drift : ∃ costs whole, [2, 2, 3].mapM (CostService.calculate {} .outputTokens) = .ok costs ∧
    CostService.calculate {} .outputTokens 7 = .ok whole ∧ Drifts 600 [2, 2, 3] costs whole :=
  @drift_bounded {} .outputTokens [2, 2, 3] (by decide) (by decide) (by decide)

def counted (database : Database) (tenantId : UUID) (usageType : UsageType) (start : Int) : List UsageEvent :=
  (database.monthlyEvents tenantId start).filter (·.usageType == usageType)

theorem stored_costs {events : List UsageEvent} (typed : ∀ event ∈ events, event.usageType = usageType)
    (priced : ∀ event ∈ events, CostService.calculate settings event.usageType event.quantity = .ok event.costMicrounits) :
    (events.map UsageEvent.quantity).mapM (CostService.calculate settings usageType) =
      .ok (events.map UsageEvent.costMicrounits) := by
  induction events with
  | nil => rfl
  | cons event events ih =>
    obtain ⟨type, others⟩ := List.forall_mem_cons.mp typed
    obtain ⟨here, rest⟩ := List.forall_mem_cons.mp priced
    rw [type] at here
    rw [List.map_cons, List.mapM_cons, here, ih others rest]
    rfl

/-- After any run of recordings, what a month has stored for a type is that close to its price. -/
theorem stored_drift {calls : List (Env × MeterCall)} (configured : ∀ action ∈ calls, action.1.settings = settings)
    {fresh : Store} (unused : fresh.database.usageEvents.rows = []) (ran : meterRuns.run calls fresh = some store)
    (charged : 0 < pricePerThousand settings usageType) (tenantId : UUID) (start : Int)
    (fits : pricePerThousand settings usageType * store.database.monthlyUsage tenantId usageType start < 10 ^ 28) :
    ∃ whole, CostService.calculate settings usageType (store.database.monthlyUsage tenantId usageType start) = .ok whole ∧
      Drifts (pricePerThousand settings usageType)
        ((counted store.database tenantId usageType start).map UsageEvent.quantity)
        ((counted store.database tenantId usageType start).map UsageEvent.costMicrounits) whole := by
  have none := Table.not_mem_of_empty unused
  have priced : Priced settings store :=
    priced_invariant.run configured (fun event member => (none event member).elim) ran
  have positive := counts_invariant.run (fun _ _ => trivial) (fun event member => (none event member).elim) ran
  have stored (event : UsageEvent) (member : event ∈ counted store.database tenantId usageType start) :
      event ∈ store.database.usageEvents := List.mem_of_mem_filter (List.mem_of_mem_filter member)
  have costs := @stored_costs settings usageType (counted store.database tenantId usageType start)
    (fun event member => eq_of_beq (List.mem_filter.mp member).2) fun event member => priced event (stored event member)
  rw [funext (calculate_eq settings usageType)] at costs
  obtain ⟨all, whole, computed, sum, drifts⟩ := costs_drift charged
    (List.forall_mem_map.mpr fun event member => positive event (stored event member)) fits
  obtain rfl := Except.ok.inj (costs.symm.trans computed)
  exact ⟨whole, (calculate_eq ..).trans sum, drifts⟩

end MeteringBilling.RoundingDrift
