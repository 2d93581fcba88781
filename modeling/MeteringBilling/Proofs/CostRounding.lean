import MeteringBilling.Library.Rounding
import MeteringBilling.Pricing

/-! The price of a quantity. Up to the precision of the context the product and the quotient are
exact, and only the last step rounds. -/

namespace MeteringBilling.CostRounding

open Decimal

def product (quantity price : Int) : Decimal :=
  mul decimalPrecision (.ofNat quantity.toNat) (.ofNat price.toNat)

/-- A product as the context keeps it: it has 28 digits at most, the last of them rounded. -/
def significant (product : Int) : Int :=
  let unit := 10 ^ (digits product.toNat - decimalPrecision)
  halfEven product.toNat unit * unit

def quotient (quantity price : Int) : Decimal := div decimalPrecision (product quantity price) (.ofNat 1000)

variable {quantity price : Int}

theorem significant_of_fits {product : Int} (counted : 0 ≤ product) (fits : product < 10 ^ 28) :
    significant product = product := by
  have narrow : digits product.toNat ≤ decimalPrecision :=
    (digits_le_iff (by decide)).mpr (by rw [decimalPrecision]; omega)
  rw [significant, Nat.sub_eq_zero_of_le narrow, pow_zero, halfEven_one]
  omega

theorem cost_nothing (free : quantity ≤ 0 ∨ price ≤ 0) : calculateCostMicrounits quantity price = .ok 0 :=
  if_pos free

theorem calculate_price (settings : Settings) (usageType : UsageType) :
    ∃ price, ∀ quantity, CostService.calculate settings usageType quantity = calculateCostMicrounits quantity price := by
  cases usageType <;> exact ⟨_, fun _ => rfl⟩

theorem cost_of_product {n shift : Nat} (charged : 0 < quantity ∧ 0 < price)
    (stands : product quantity price = ⟨n, shift⟩) (present : n ≠ 0) (fits : digits n ≤ decimalPrecision) :
    calculateCostMicrounits quantity price =
      if decimalPrecision + 3 < digits n + shift ∨ decimalPrecision < digits (halfUp (n * 10 ^ shift) (10 ^ 3)) then
        .error .invalidOperation
      else .ok (halfUp (n * 10 ^ shift) (10 ^ 3) : Nat) := by
  have unit : Decimal.ofNat 1000 = ⟨10 ^ 3, 0⟩ := rfl
  rw [calculateCostMicrounits, if_neg (by omega)]
  dsimp only
  rw [show mul decimalPrecision (.ofNat quantity.toNat) (.ofNat price.toNat) = _ from stands, unit,
    quantize?_div 3 present fits]
  by_cases refused : decimalPrecision + 3 < digits n + shift ∨ decimalPrecision < digits (halfUp (n * 10 ^ shift) (10 ^ 3))
  · rw [if_pos refused, if_pos refused]
  · rw [if_neg refused, if_neg refused]

theorem product_natCast (charged : 0 < quantity ∧ 0 < price) :
    ((quantity.toNat * price.toNat : Nat) : Int) = quantity * price := by
  rw [Int.natCast_mul, Int.toNat_of_nonneg charged.1.le, Int.toNat_of_nonneg charged.2.le]

theorem product_fits (charged : 0 < quantity ∧ 0 < price) (fits : quantity * price < 10 ^ 28) :
    ∃ n : Nat, product quantity price = ⟨n, 0⟩ ∧ (n : Int) = quantity * price ∧ n ≠ 0 ∧ digits n ≤ decimalPrecision := by
  have exact := product_natCast charged
  have positive : 0 < quantity.toNat * price.toNat := Nat.mul_pos (by omega) (by omega)
  have narrow : digits (quantity.toNat * price.toNat) ≤ decimalPrecision :=
    (digits_le_iff (by decide)).mpr (by rw [decimalPrecision]; omega)
  exact ⟨_, fix_of_fits narrow, exact, positive.ne', narrow⟩

theorem values_exact (charged : 0 < quantity ∧ 0 < price) (fits : quantity * price < 10 ^ 28) :
    (product quantity price).value = quantity * price ∧ (quotient quantity price).value = quantity * price / 1000 := by
  obtain ⟨n, stands, exact, present, narrow⟩ := product_fits charged fits
  have whole : (product quantity price).value = quantity * price := by
    have same : ((n : Int) : ℚ) = quantity * price := by exact_mod_cast exact
    rw [stands, value, ← same]
    simp
  refine ⟨whole, ?_⟩
  have unit : Decimal.ofNat 1000 = ⟨10 ^ 3, 0⟩ := rfl
  rw [← whole, quotient, unit, stands, div_pow_value 3 0 narrow]
  norm_num

theorem cost_exact (charged : 0 < quantity ∧ 0 < price) (fits : quantity * price < 10 ^ 28) :
    calculateCostMicrounits quantity price = .ok ((quantity * price + 500) / 1000) := by
  obtain ⟨n, stands, exact, present, narrow⟩ := product_fits charged fits
  have rounded : ((halfUp n (10 ^ 3) : Nat) : Int) = (quantity * price + 500) / 1000 := by
    rw [← exact, halfUp]
    omega
  have short : digits (halfUp n (10 ^ 3)) ≤ decimalPrecision := by
    refine (digits_mono ?_).trans narrow
    rw [halfUp]
    omega
  have priced := @cost_of_product quantity price n 0 charged stands present narrow
  rw [pow_zero, Nat.mul_one, if_neg (by omega), rounded] at priced
  exact priced

theorem product_cases (charged : 0 < quantity ∧ 0 < price) :
    ∃ n shift : Nat, product quantity price = ⟨n, shift⟩ ∧ n ≠ 0 ∧ digits n ≤ decimalPrecision ∧
      ((n * 10 ^ shift : Nat) : Int) = significant (quantity * price) ∧
      (shift = 0 ∧ (n : Int) = quantity * price ∨
        digits n = decimalPrecision ∧ 0 < shift ∧ 2 * (n * 10 ^ shift : Nat) ≤ 2 * (quantity * price) + (10 ^ shift : Nat) ∧
          2 * (quantity * price) ≤ 2 * (n * 10 ^ shift : Nat) + (10 ^ shift : Nat)) := by
  by_cases fits : quantity * price < 10 ^ 28
  · obtain ⟨n, stands, exact, present, narrow⟩ := product_fits charged fits
    refine ⟨n, 0, stands, present, narrow, ?_, Or.inl ⟨rfl, exact⟩⟩
    rw [pow_zero, Nat.mul_one, exact, significant_of_fits (Int.mul_pos charged.1 charged.2).le fits]
  · have exact := product_natCast charged
    have long : decimalPrecision < digits (quantity.toNat * price.toNat) := by
      rw [← Nat.not_le, digits_le_iff (by decide), decimalPrecision]
      omega
    obtain ⟨n, shift, fixed, width, moved, ⟨near, close⟩, kept⟩ := fix_long 0 (by decide) long
    refine ⟨n, shift, ?_, ?_, width.le, ?_, Or.inr ⟨width, moved, ?_, ?_⟩⟩
    · rw [← Int.zero_add (shift : Int)]
      exact fixed
    · rintro rfl
      exact absurd width (by decide)
    · rw [kept, ← exact, significant, Int.toNat_natCast]
      push_cast
      rfl
    · rw [← exact]
      exact_mod_cast near
    · rw [← exact]
      exact_mod_cast close

/-- Wherever a price is returned it is off by at most a half and a twentieth of a microunit:
a product longer than the precision is rounded twice. -/
theorem cost_near {cost : Int} (charged : 0 < quantity ∧ 0 < price)
    (returned : calculateCostMicrounits quantity price = .ok cost) :
    1000 * cost ≤ quantity * price + 550 ∧ quantity * price ≤ 1000 * cost + 550 := by
  obtain ⟨n, shift, stands, present, fits, _, kept⟩ := product_cases charged
  rw [cost_of_product charged stands present fits] at returned
  split at returned
  · cases returned
  · next accepted =>
    obtain rfl := Except.ok.inj returned
    obtain ⟨above, below⟩ := halfUp_bounds (n * 10 ^ shift) (show 0 < 10 ^ 3 by decide)
    rcases kept with ⟨rfl, whole⟩ | ⟨width, moved, near, close⟩
    · rw [← whole]
      omega
    · have short : shift ≤ 3 := by omega
      obtain rfl | rfl | rfl : shift = 1 ∨ shift = 2 ∨ shift = 3 := by omega
      · omega
      · omega
      · rw [halfUp_multiple n (by decide)]
        omega

/-- Wherever a price is returned it is the product as it is kept, rounded half up. -/
theorem cost_significant {cost : Int} (charged : 0 < quantity ∧ 0 < price)
    (returned : calculateCostMicrounits quantity price = .ok cost) :
    cost = (significant (quantity * price) + 500) / 1000 := by
  obtain ⟨n, shift, stands, present, fits, kept, _⟩ := product_cases charged
  rw [cost_of_product charged stands present fits] at returned
  split at returned
  · cases returned
  · rw [← Except.ok.inj returned, ← kept, halfUp]
    omega

theorem cost_mono {more higher : Int} (tokens : quantity ≤ more) (prices : price ≤ higher) (fits : more * higher < 10 ^ 28) :
    ∃ low high, calculateCostMicrounits quantity price = .ok low ∧ calculateCostMicrounits more higher = .ok high ∧
      low ≤ high := by
  by_cases free : more ≤ 0 ∨ higher ≤ 0
  · exact ⟨0, 0, cost_nothing (by omega), cost_nothing free, le_refl 0⟩
  · have charged : 0 < more ∧ 0 < higher := by omega
    have paid := Int.mul_pos charged.1 charged.2
    by_cases nothing : quantity ≤ 0 ∨ price ≤ 0
    · exact ⟨0, _, cost_nothing nothing, cost_exact charged fits, by omega⟩
    · have less : quantity * price ≤ more * higher := Int.mul_le_mul tokens prices (by omega) charged.1.le
      exact ⟨_, _, cost_exact (by omega) (by omega), cost_exact charged fits, by omega⟩

theorem bigint_fits {quantity price : Int} (charged : 0 < quantity ∧ 0 < price) (big : quantity < 2 ^ 63)
    (high : price ≤ 10 ^ 9) : quantity * price < 10 ^ 28 := by
  have most : quantity * price ≤ (2 ^ 63 - 1) * 10 ^ 9 := Int.mul_le_mul (by omega) high charged.2.le (by decide)
  omega

/-- The arithmetic of a price, in the range of the default context. -/
theorem cost_rounds_half_up :
    (∀ quantity price, quantity ≤ 0 ∨ price ≤ 0 → calculateCostMicrounits quantity price = .ok 0) ∧
    (∀ quantity price, 0 < quantity ∧ 0 < price → quantity * price < 10 ^ 28 →
      (product quantity price).value = quantity * price ∧ (quotient quantity price).value = quantity * price / 1000 ∧
        calculateCostMicrounits quantity price = .ok ((quantity * price + 500) / 1000)) ∧
    (∀ quantity price : Int, 0 < quantity ∧ 0 < price → quantity < 2 ^ 63 → price ≤ 10 ^ 9 → quantity * price < 10 ^ 28) ∧
    (∀ quantity more price higher : Int, quantity ≤ more → price ≤ higher → more * higher < 10 ^ 28 →
      ∃ low high, calculateCostMicrounits quantity price = .ok low ∧ calculateCostMicrounits more higher = .ok high ∧
        low ≤ high) ∧
    (∀ settings : Settings, ∀ quantity : Int,
      settings.priceCachedInputTokenPerThousand ≤ settings.priceInputTokenPerThousand →
      quantity * settings.priceInputTokenPerThousand < 10 ^ 28 →
      ∃ cached regular, CostService.calculate settings .cachedInputTokens quantity = .ok cached ∧
        CostService.calculate settings .inputTokens quantity = .ok regular ∧ cached ≤ regular) := by
  refine ⟨fun _ _ => cost_nothing, ?_, fun _ _ => bigint_fits, fun _ _ _ _ => cost_mono, ?_⟩
  · intro quantity price charged fits
    obtain ⟨whole, exact⟩ := values_exact charged fits
    exact ⟨whole, exact, cost_exact charged fits⟩
  · intro settings quantity cheaper fits
    exact cost_mono (le_refl quantity) cheaper fits

theorem largest_cost : calculateCostMicrounits 9223372036854775807 1000000000 = .ok 9223372036854775807000000 :=
  (cost_rounds_half_up.2.1 9223372036854775807 1000000000 (by decide) (by decide)).2.2

end MeteringBilling.CostRounding
