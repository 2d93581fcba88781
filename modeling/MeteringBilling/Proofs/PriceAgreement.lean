import MeteringBilling.Proofs.CostRounding
import MeteringBilling.UsageReport

/-! The rollup prices reasoning tokens as output tokens, recording prices them at a setting of
their own. The two agree exactly where that setting is the output price. -/

namespace MeteringBilling.PriceAgreement

open CostRounding

def Charging (settings : Settings) : Prop :=
  0 < settings.priceApiCallPerThousand ∧ 0 < settings.priceInputTokenPerThousand ∧
    0 < settings.priceCachedInputTokenPerThousand ∧ 0 < settings.priceOutputTokenPerThousand ∧
      0 < settings.priceReasoningTokenPerThousand

def recordedCosts (settings : Settings) (input cached output reasoning : Int) : Except PyError Int := do
  let input ← CostService.calculate settings .inputTokens input
  let cached ← CostService.calculate settings .cachedInputTokens cached
  let output ← CostService.calculate settings .outputTokens output
  let reasoning ← CostService.calculate settings .reasoningTokens reasoning
  pure (input + cached + output + reasoning)

/-- The two prices of the same counts differ by at most a microunit. -/
def PricedAlike (settings : Settings) (input cached output reasoning : Int) : Prop :=
  ∀ breakdown recorded,
    CostService.calculateTokenBreakdown settings input cached output reasoning = .ok breakdown →
    recordedCosts settings input cached output reasoning = .ok recorded →
      breakdown.sum ≤ recorded + 1 ∧ recorded ≤ breakdown.sum + 1

variable {settings : Settings} {input cached output reasoning : Int}

theorem near_exact {quantity price cost : Int} (counted : 0 ≤ quantity)
    (returned : calculateCostMicrounits quantity price = .ok cost) :
    1000 * cost ≤ quantity * max 0 price + 550 ∧ quantity * max 0 price ≤ 1000 * cost + 550 := by
  by_cases charged : 0 < quantity ∧ 0 < price
  · rw [max_eq_right charged.2.le]
    exact cost_near charged returned
  · have nothing : quantity * max 0 price = 0 := by
      rcases not_and_or.mp charged with empty | free
      · rw [show quantity = 0 by omega, Int.zero_mul]
      · rw [max_eq_left (Int.not_lt.mp free), Int.mul_zero]
    rw [cost_nothing (by omega)] at returned
    rw [← Except.ok.inj returned, nothing]
    decide

theorem alike_of_equal (equal : settings.priceReasoningTokenPerThousand = settings.priceOutputTokenPerThousand)
    (counted : 0 ≤ output ∧ 0 ≤ reasoning) : PricedAlike settings input cached output reasoning := by
  intro breakdown recorded priced stored
  obtain ⟨inputCost, one, priced⟩ := except_bind_ok.mp priced
  obtain ⟨cachedCost, two, priced⟩ := except_bind_ok.mp priced
  obtain ⟨combined, three, priced⟩ := except_bind_ok.mp priced
  obtain rfl := Except.ok.inj priced
  obtain ⟨_, same, stored⟩ := except_bind_ok.mp stored
  obtain rfl := Except.ok.inj (one.symm.trans same)
  obtain ⟨_, same, stored⟩ := except_bind_ok.mp stored
  obtain rfl := Except.ok.inj (two.symm.trans same)
  obtain ⟨outputCost, four, stored⟩ := except_bind_ok.mp stored
  obtain ⟨reasoningCost, five, stored⟩ := except_bind_ok.mp stored
  obtain rfl := Except.ok.inj stored
  change calculateCostMicrounits _ settings.priceReasoningTokenPerThousand = _ at five
  rw [equal] at five
  have sum := near_exact (by omega) three
  have first := near_exact counted.1 four
  have second := near_exact counted.2 five
  rw [Int.add_mul] at sum
  unfold TokenCosts.sum
  dsimp only
  omega

theorem cost_defined {quantity price : Int} (fits : quantity * price < 10 ^ 28) :
    ∃ cost, calculateCostMicrounits quantity price = .ok cost := by
  obtain ⟨cost, _, priced, _⟩ := cost_mono (le_refl quantity) (le_refl price) fits
  exact ⟨cost, priced⟩

def InRange (settings : Settings) (input cached output reasoning : Int) : Prop :=
  input * settings.priceInputTokenPerThousand < 10 ^ 28 ∧ cached * settings.priceCachedInputTokenPerThousand < 10 ^ 28 ∧
    (output + reasoning) * settings.priceOutputTokenPerThousand < 10 ^ 28

theorem both_defined (charging : Charging settings)
    (equal : settings.priceReasoningTokenPerThousand = settings.priceOutputTokenPerThousand)
    (counted : 0 ≤ output ∧ 0 ≤ reasoning) (fits : InRange settings input cached output reasoning) :
    (∃ breakdown, CostService.calculateTokenBreakdown settings input cached output reasoning = .ok breakdown) ∧
      ∃ recorded, recordedCosts settings input cached output reasoning = .ok recorded := by
  obtain ⟨inputFits, cachedFits, outputFits⟩ := fits
  obtain ⟨_, _, _, paid, _⟩ := charging
  have first := Int.mul_nonneg counted.1 paid.le
  have second := Int.mul_nonneg counted.2 paid.le
  have parts := Int.add_mul output reasoning settings.priceOutputTokenPerThousand
  obtain ⟨inputCost, one⟩ := cost_defined inputFits
  obtain ⟨cachedCost, two⟩ := cost_defined cachedFits
  obtain ⟨combinedCost, three⟩ := cost_defined outputFits
  obtain ⟨outputCost, four⟩ := @cost_defined output settings.priceOutputTokenPerThousand (by omega)
  obtain ⟨reasoningCost, five⟩ := @cost_defined reasoning settings.priceReasoningTokenPerThousand (by rw [equal]; omega)
  constructor
  · exact ⟨⟨inputCost, cachedCost, combinedCost⟩, except_bind_ok.mpr ⟨inputCost, one,
      except_bind_ok.mpr ⟨cachedCost, two, except_bind_ok.mpr ⟨combinedCost, three, rfl⟩⟩⟩⟩
  · exact ⟨_, except_bind_ok.mpr ⟨inputCost, one, except_bind_ok.mpr ⟨cachedCost, two,
      except_bind_ok.mpr ⟨outputCost, four, except_bind_ok.mpr ⟨reasoningCost, five, rfl⟩⟩⟩⟩⟩

theorem calculate_zero (settings : Settings) (usageType : UsageType) :
    CostService.calculate settings usageType 0 = .ok 0 := by
  obtain ⟨price, priced⟩ := calculate_price settings usageType
  rw [priced]
  exact cost_nothing (Or.inl (le_refl 0))

theorem equal_of_alike (charging : Charging settings)
    (outputFits : 2000 * settings.priceOutputTokenPerThousand < 10 ^ 28)
    (reasoningFits : 2000 * settings.priceReasoningTokenPerThousand < 10 ^ 28)
    (alike : PricedAlike settings 0 0 0 2000) :
    settings.priceReasoningTokenPerThousand = settings.priceOutputTokenPerThousand := by
  obtain ⟨_, _, _, outputPaid, reasoningPaid⟩ := charging
  have priced : CostService.calculateTokenBreakdown settings 0 0 0 2000 =
      .ok ⟨0, 0, (2000 * settings.priceOutputTokenPerThousand + 500) / 1000⟩ := by
    refine except_bind_ok.mpr ⟨0, calculate_zero settings _, ?_⟩
    refine except_bind_ok.mpr ⟨0, calculate_zero settings _, ?_⟩
    exact except_bind_ok.mpr ⟨_, cost_exact ⟨by decide, outputPaid⟩ outputFits, rfl⟩
  have stored : recordedCosts settings 0 0 0 2000 =
      .ok (0 + 0 + 0 + (2000 * settings.priceReasoningTokenPerThousand + 500) / 1000) := by
    refine except_bind_ok.mpr ⟨0, calculate_zero settings _, ?_⟩
    refine except_bind_ok.mpr ⟨0, calculate_zero settings _, ?_⟩
    refine except_bind_ok.mpr ⟨0, calculate_zero settings _, ?_⟩
    exact except_bind_ok.mpr ⟨_, cost_exact ⟨by decide, reasoningPaid⟩ reasoningFits, rfl⟩
  have near := alike _ _ priced stored
  unfold TokenCosts.sum at near
  dsimp only at near
  omega

/-- Equal prices suffice for any counts. Different ones show as soon as two thousand tokens can be
priced at both. -/
theorem priced_alike_iff_equal (charging : Charging settings) :
    (settings.priceReasoningTokenPerThousand = settings.priceOutputTokenPerThousand →
      ∀ input cached output reasoning, 0 ≤ input ∧ 0 ≤ cached → 0 ≤ output ∧ 0 ≤ reasoning →
        PricedAlike settings input cached output reasoning ∧ (InRange settings input cached output reasoning →
          (∃ breakdown, CostService.calculateTokenBreakdown settings input cached output reasoning = .ok breakdown) ∧
            ∃ recorded, recordedCosts settings input cached output reasoning = .ok recorded)) ∧
    (2000 * settings.priceOutputTokenPerThousand < 10 ^ 28 → 2000 * settings.priceReasoningTokenPerThousand < 10 ^ 28 →
      (∀ input cached output reasoning, 0 ≤ input ∧ 0 ≤ cached → 0 ≤ output ∧ 0 ≤ reasoning →
        PricedAlike settings input cached output reasoning) →
      settings.priceReasoningTokenPerThousand = settings.priceOutputTokenPerThousand) := by
  constructor
  · intro equal input cached output reasoning _ counted
    exact ⟨alike_of_equal equal counted, both_defined charging equal counted⟩
  · intro outputFits reasoningFits alike
    exact equal_of_alike charging outputFits reasoningFits (alike 0 0 0 2000 (by decide) (by decide))

/-- Reasoning tokens at twice the output price: recording stores 2400 for what the rollup prices at
1200. -/
def dear : Settings := { priceReasoningTokenPerThousand := 1200 }

theorem dear_reasoning : Charging dear ∧ ¬ PricedAlike dear 0 0 0 2000 := by
  refine ⟨by unfold Charging; decide, ?_⟩
  intro alike
  have near := alike ⟨0, 0, 1200⟩ 2400 (by decide) (by decide)
  revert near
  decide

theorem default_alike : PricedAlike {} 1500 700 333 250 :=
  ((priced_alike_iff_equal (show Charging {} by unfold Charging; decide)).1 rfl 1500 700 333 250 (by decide) (by decide)).1

end MeteringBilling.PriceAgreement
