import Mathlib.Data.Rat.Cast.Defs
import Mathlib.Tactic.FieldSimp
import Mathlib.Tactic.Positivity
import Mathlib.Tactic.Ring
import MeteringBilling.Library.Decimal

/-! How far the decimal operations round, and where they do not round at all. -/

namespace Decimal

def value (number : Decimal) : ℚ := number.coefficient * 10 ^ number.exponent

theorem digits_le_iff {n precision : Nat} (positive : 0 < precision) : digits n ≤ precision ↔ n < 10 ^ precision := by
  rw [digits, Nat.succ_le_iff]
  by_cases zero : n = 0
  · simp [zero, positive]
  · exact Nat.log_lt_iff_lt_pow (by decide) zero

theorem lt_digits_iff {n precision : Nat} (nonzero : n ≠ 0) : precision < digits n ↔ 10 ^ precision ≤ n := by
  rw [digits, Nat.lt_succ_iff]
  exact Nat.le_log_iff_pow_le (by decide) nonzero

theorem digits_mono {first second : Nat} (le : first ≤ second) : digits first ≤ digits second :=
  Nat.succ_le_succ (Nat.log_mono_right le)

theorem digits_shift {n : Nat} (count : Nat) (nonzero : n ≠ 0) : digits (n * 10 ^ count) = digits n + count := by
  induction count with
  | zero => simp
  | succ count ih =>
    rw [Nat.pow_succ, ← Nat.mul_assoc, digits, Nat.log_mul_base (by decide) (by positivity)]
    unfold digits at ih ⊢
    omega

theorem fix_of_fits {precision : Nat} {value : Decimal} (fits : digits value.coefficient ≤ precision) :
    fix precision value = value := by
  rw [fix, if_pos (by omega)]

theorem strip_spec (limit n : Nat) (exponent : Int) : ∃ rest zeros : Nat,
    strip limit ⟨n, exponent⟩ = ⟨rest, exponent + zeros⟩ ∧ rest * 10 ^ zeros = n ∧ zeros ≤ limit ∧
      (zeros < limit → rest % 10 ≠ 0) := by
  induction limit generalizing n exponent with
  | zero => exact ⟨n, 0, by simp [strip], by simp, by simp, by simp⟩
  | succ limit ih =>
    rw [strip]
    dsimp only
    split
    · next zero =>
      obtain ⟨rest, zeros, stripped, same, bound, last⟩ := ih (n / 10) (exponent + 1)
      refine ⟨rest, zeros + 1, ?_, ?_, by omega, fun below => last (by omega)⟩
      · rw [stripped]
        congr 1
        omega
      · rw [Nat.pow_succ, ← Nat.mul_assoc, same]
        omega
    · next nonzero => exact ⟨n, 0, by simp, by simp, by omega, fun _ => nonzero⟩

theorem strip_shifted (places spare n : Nat) (exponent : Int) : ∃ rest zeros : Nat,
    strip (places + spare) ⟨n * 10 ^ spare, exponent⟩ = ⟨rest, exponent + spare + zeros⟩ ∧
      rest * 10 ^ zeros = n ∧ zeros ≤ places := by
  obtain ⟨rest, zeros, stripped, same, bound, last⟩ := strip_spec (places + spare) (n * 10 ^ spare) exponent
  have enough : spare ≤ zeros := by
    by_contra few
    obtain ⟨more, gap⟩ : ∃ more, spare = zeros + (more + 1) := ⟨spare - zeros - 1, by omega⟩
    apply last (by omega)
    have equal : rest * 10 ^ zeros = n * 10 ^ more * 10 * 10 ^ zeros := by
      rw [same, gap, Nat.pow_add, Nat.pow_succ]
      ring
    rw [Nat.eq_of_mul_eq_mul_right (by positivity) equal, Nat.mul_mod_left]
  obtain ⟨kept, rfl⟩ := Nat.exists_eq_add_of_le enough
  refine ⟨rest, kept, ?_, ?_, by omega⟩
  · rw [stripped]
    congr 1
    omega
  · have equal : rest * 10 ^ kept * 10 ^ spare = n * 10 ^ spare := by
      rw [← same, Nat.pow_add]
      ring
    exact Nat.eq_of_mul_eq_mul_right (by positivity) equal

theorem digits_pow (places : Nat) : digits (10 ^ places) = places + 1 := by
  have shifted := digits_shift places one_ne_zero
  rw [one_mul] at shifted
  rw [shifted, Nat.add_comm]
  rfl

/-- Dividing by a power of ten is exact: no digit of the coefficient is lost. -/
theorem div_pow {precision n : Nat} (places : Nat) (exponent : Int) (fits : digits n ≤ precision) :
    ∃ rest zeros : Nat, div precision ⟨n, exponent⟩ ⟨10 ^ places, 0⟩ = ⟨rest, exponent - places + zeros⟩ ∧
      rest * 10 ^ zeros = n ∧ zeros ≤ places := by
  obtain ⟨spare, wide⟩ := Nat.exists_eq_add_of_le fits
  have shift : (digits (10 ^ places) : Int) - digits n + precision + 1 = ((places + (spare + 2) : Nat) : Int) := by
    rw [digits_pow]
    omega
  have numerator : n * 10 ^ (places + (spare + 2)) = n * 10 ^ (spare + 2) * 10 ^ places := by
    rw [Nat.pow_add]
    ring
  have whole : n * 10 ^ (places + (spare + 2)) / 10 ^ places = n * 10 ^ (spare + 2) := by
    rw [numerator, Nat.mul_div_cancel _ (by positivity)]
  have remainder : n * 10 ^ (places + (spare + 2)) % 10 ^ places = 0 := by
    rw [numerator, Nat.mul_mod_left]
  obtain ⟨rest, zeros, stripped, same, bound⟩ := strip_shifted places (spare + 2) n
    (exponent - 0 - ((places + (spare + 2) : Nat) : Int))
  have narrow : digits rest ≤ precision := by
    refine le_trans (digits_mono ?_) fits
    rw [← same]
    exact Nat.le_mul_of_pos_right _ (by positivity)
  refine ⟨rest, zeros, ?_, same, bound⟩
  unfold div
  simp only [shift, Int.toNat_natCast, Int.toNat_neg_natCast, pow_zero, Nat.mul_one, remainder, if_true, whole]
  rw [stripped, fix_of_fits narrow]
  congr 1
  push_cast
  omega

theorem div_pow_value {precision n : Nat} (places : Nat) (exponent : Int) (fits : digits n ≤ precision) :
    (div precision ⟨n, exponent⟩ ⟨10 ^ places, 0⟩).value = value ⟨n, exponent⟩ / 10 ^ places := by
  obtain ⟨rest, zeros, divided, rfl, _⟩ := div_pow places exponent fits
  rw [divided, value, value]
  dsimp only
  rw [zpow_add₀ (by norm_num), zpow_sub₀ (by norm_num), zpow_natCast, zpow_natCast]
  push_cast
  field_simp

theorem halfUp_mul (n d : Nat) {factor : Nat} (positive : 0 < factor) : halfUp (n * factor) (d * factor) = halfUp n d := by
  have numerator : 2 * (n * factor) + d * factor = (2 * n + d) * factor := by ring
  have denominator : 2 * (d * factor) = 2 * d * factor := by ring
  rw [halfUp, halfUp, numerator, denominator, Nat.mul_div_mul_right _ _ positive]

theorem halfUp_one (n : Nat) : halfUp n 1 = n := by
  unfold halfUp
  omega

theorem halfUp_multiple (n : Nat) {d : Nat} (positive : 0 < d) : halfUp (n * d) d = n := by
  have scaled := halfUp_mul n 1 positive
  rw [Nat.one_mul] at scaled
  rw [scaled, halfUp_one]

theorem halfUp_bounds (n : Nat) {d : Nat} (positive : 0 < d) :
    2 * (halfUp n d * d) ≤ 2 * n + d ∧ 2 * n < 2 * (halfUp n d * d) + d := by
  have low := Nat.mul_div_le (2 * n + d) (2 * d)
  have high := Nat.lt_mul_div_succ (2 * n + d) (show 0 < 2 * d by omega)
  have same : 2 * d * halfUp n d = 2 * (halfUp n d * d) := by ring
  rw [Nat.mul_add, Nat.mul_one] at high
  change 2 * d * halfUp n d ≤ _ at low
  change _ < 2 * d * halfUp n d + 2 * d at high
  rw [same] at low high
  omega

theorem halfEven_bounds (n : Nat) {d : Nat} (positive : 0 < d) :
    2 * (halfEven n d * d) ≤ 2 * n + d ∧ 2 * n ≤ 2 * (halfEven n d * d) + d := by
  have parts := Nat.div_add_mod n d
  have below := Nat.mod_lt n positive
  have swap : d * (n / d) = n / d * d := Nat.mul_comm _ _
  have next : (n / d + 1) * d = n / d * d + d := by ring
  unfold halfEven
  split
  · omega
  · split
    · rw [next]
      omega
    · rcases Nat.mod_two_eq_zero_or_one (n / d) with even | odd
      · rw [even, Nat.add_zero]
        omega
      · rw [odd, next]
        omega

theorem halfEven_one (n : Nat) : halfEven n 1 = n := by
  unfold halfEven
  rw [if_pos (by omega), Nat.div_one]

theorem halfEven_le (n d : Nat) : n / d ≤ halfEven n d ∧ halfEven n d ≤ n / d + 1 := by
  unfold halfEven
  split
  · omega
  · split <;> omega

/-- A number too long for the precision keeps its leading digits, and moves by at most half a
unit of the last of them. -/
theorem fix_long {precision n : Nat} (exponent : Int) (positive : 0 < precision) (long : precision < digits n) :
    ∃ rest shift : Nat, fix precision ⟨n, exponent⟩ = ⟨rest, exponent + shift⟩ ∧ digits rest = precision ∧ 0 < shift ∧
      (2 * (rest * 10 ^ shift) ≤ 2 * n + 10 ^ shift ∧ 2 * n ≤ 2 * (rest * 10 ^ shift) + 10 ^ shift) ∧
        rest * 10 ^ shift = halfEven n (10 ^ (digits n - precision)) * 10 ^ (digits n - precision) := by
  obtain ⟨places, rfl⟩ := Nat.exists_eq_succ_of_ne_zero positive.ne'
  obtain ⟨excess, width⟩ := Nat.exists_eq_add_of_lt long
  have nonzero : n ≠ 0 := by
    rintro rfl
    simp [digits] at long
  have unit : 0 < 10 ^ (excess + 1) := by positivity
  have upper : n < 10 ^ (places + 1) * 10 ^ (excess + 1) := by
    rw [← Nat.pow_add]
    exact (digits_le_iff (by omega)).mp (by omega)
  have lower : 10 ^ places * 10 ^ (excess + 1) ≤ n := by
    rw [← Nat.pow_add]
    exact (lt_digits_iff nonzero).mp (by omega)
  have few : n / 10 ^ (excess + 1) < 10 ^ (places + 1) := (Nat.div_lt_iff_lt_mul unit).mpr upper
  have many : 10 ^ places ≤ n / 10 ^ (excess + 1) := (Nat.le_div_iff_mul_le unit).mpr lower
  obtain ⟨above, below⟩ := halfEven_le n (10 ^ (excess + 1))
  obtain ⟨near, close⟩ := halfEven_bounds n unit
  have present : halfEven n (10 ^ (excess + 1)) ≠ 0 := by
    have start : 0 < 10 ^ places := by positivity
    omega
  have shift : digits n - (places + 1) = excess + 1 := by omega
  rw [fix]
  dsimp only
  rw [shift, if_neg (Nat.succ_ne_zero excess)]
  by_cases carried : places + 1 < digits (halfEven n (10 ^ (excess + 1)))
  · -- Rounding up a run of nines leaves a power of ten.
    have power : halfEven n (10 ^ (excess + 1)) = 10 ^ places * 10 := by
      have reached := (lt_digits_iff present).mp carried
      have next : 10 ^ (places + 1) = 10 ^ places * 10 := Nat.pow_succ ..
      rw [next] at few reached
      omega
    rw [if_pos carried, power, Nat.mul_div_cancel _ (by decide)]
    have same : 10 ^ places * 10 * 10 ^ (excess + 1) = 10 ^ places * 10 ^ (excess + 2) := by
      rw [Nat.mul_assoc, ← Nat.pow_succ']
    have wider : 10 ^ (excess + 1) ≤ 10 ^ (excess + 2) := Nat.pow_le_pow_right (by decide) (by omega)
    rw [power, same] at near close
    rw [same]
    exact ⟨10 ^ places, excess + 2, by push_cast; ring_nf, digits_pow places, by omega, ⟨by omega, by omega⟩, rfl⟩
  · rw [if_neg carried]
    refine ⟨_, excess + 1, rfl, ?_, by omega, ⟨near, close⟩, rfl⟩
    have enough := (lt_digits_iff present).mpr (many.trans above)
    omega

theorem quantize?_div {precision n shift : Nat} (places : Nat) (nonzero : n ≠ 0) (fits : digits n ≤ precision) :
    quantize? precision 0 (div precision ⟨n, shift⟩ ⟨10 ^ places, 0⟩) =
      if precision + places < digits n + shift ∨ precision < digits (halfUp (n * 10 ^ shift) (10 ^ places)) then none
      else some ⟨halfUp (n * 10 ^ shift) (10 ^ places), 0⟩ := by
  obtain ⟨rest, zeros, divided, same, bound⟩ := div_pow places shift fits
  have present : rest ≠ 0 := by
    intro zero
    rw [zero, Nat.zero_mul] at same
    exact nonzero same.symm
  have length : digits n = digits rest + zeros := by
    rw [← same, digits_shift zeros present]
  have rescaled : halfUp (rest * 10 ^ ((shift : Int) - places + zeros - 0).toNat)
      (10 ^ (0 - ((shift : Int) - places + zeros)).toNat) = halfUp (n * 10 ^ shift) (10 ^ places) := by
    rcases Nat.le_total places (shift + zeros) with above | below
    · obtain ⟨up, high⟩ := Nat.exists_eq_add_of_le above
      have left : ((shift : Int) - places + zeros - 0).toNat = up := by omega
      have right : (0 - ((shift : Int) - places + zeros)).toNat = 0 := by omega
      rw [left, right, pow_zero, halfUp_one, ← same]
      have scaled : rest * 10 ^ zeros * 10 ^ shift = rest * 10 ^ up * 10 ^ places := by
        rw [Nat.mul_assoc, ← Nat.pow_add, Nat.mul_assoc, ← Nat.pow_add, Nat.add_comm zeros, high, Nat.add_comm places]
      rw [scaled, halfUp_multiple _ (by positivity)]
    · obtain ⟨down, low⟩ := Nat.exists_eq_add_of_le below
      have left : ((shift : Int) - places + zeros - 0).toNat = 0 := by omega
      have right : (0 - ((shift : Int) - places + zeros)).toNat = down := by omega
      rw [left, right, pow_zero, Nat.mul_one, ← same, low, Nat.pow_add, Nat.mul_assoc, ← Nat.pow_add, Nat.add_comm zeros,
        Nat.mul_comm (10 ^ (shift + zeros)), halfUp_mul _ _ (by positivity)]
  rw [divided, quantize?]
  dsimp only
  rw [if_neg present, rescaled]
  by_cases long : precision + places < digits n + shift
  · rw [if_pos (by omega), if_pos (Or.inl long)]
  · rw [if_neg (by omega)]
    by_cases wide : precision < digits (halfUp (n * 10 ^ shift) (10 ^ places))
    · rw [if_pos wide, if_pos (Or.inr wide)]
    · rw [if_neg wide, if_neg (not_or.mpr ⟨long, wide⟩)]

end Decimal
