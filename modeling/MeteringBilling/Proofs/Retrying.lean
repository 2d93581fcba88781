import Mathlib.Data.List.Chain
import MeteringBilling.Proofs.Statements
import MeteringBilling.Retry

/-! The retry loop, attempt by attempt, and the errors it gives up on: those the services raise
themselves contain none of the transient phrases. -/

namespace MeteringBilling

section

universe u

variable {ρ ε σ α : Type u} {policy : RetryPolicy} {transient : ε → Bool} {sleep : ℚ → Effect ρ ε σ PUnit}
  {func : Nat → Effect ρ ε σ α} {noException : ε} {env : ρ} {state after : σ}

theorem retryAttempts_ok {attempt : Nat} {rest : List Nat} {lastExc : ε} {value : α}
    (returned : func attempt env state = (.ok value, after)) :
    retryAttempts policy transient sleep func (attempt :: rest) lastExc env state = (.ok value, after) := by
  rw [retryAttempts, Effect.handle, returned]

theorem retryAttempts_final {attempt : Nat} {rest : List Nat} {lastExc exc : ε}
    (raised : func attempt env state = (.error exc, after)) (final : transient exc = false) :
    retryAttempts policy transient sleep func (attempt :: rest) lastExc env state = (.error exc, after) := by
  rw [retryAttempts, Effect.handle, raised]
  simp [final]

private theorem range_of_pos {n : Nat} (positive : 0 < n) : ∃ rest, List.range n = 0 :: rest := by
  obtain ⟨m, rfl⟩ := Nat.exists_eq_add_of_lt positive
  exact ⟨(List.range m).map Nat.succ, by rw [Nat.zero_add, List.range_succ_eq_map]⟩

theorem withDbRetry_ok {value : α} (tries : 0 < policy.maxRetries) (returned : func 0 env state = (.ok value, after)) :
    withDbRetry policy transient sleep func noException env state = (.ok value, after) := by
  obtain ⟨rest, range⟩ := range_of_pos tries
  rw [withDbRetry, range]
  exact retryAttempts_ok returned

theorem withDbRetry_final {exc : ε} (tries : 0 < policy.maxRetries) (raised : func 0 env state = (.error exc, after))
    (final : transient exc = false) :
    withDbRetry policy transient sleep func noException env state = (.error exc, after) := by
  obtain ⟨rest, range⟩ := range_of_pos tries
  rw [withDbRetry, range]
  exact retryAttempts_final raised final

theorem retryAttempts_keeps {τ : Type u} {view : σ → τ} (slept : ∀ wait, Effect.Keeps view (sleep wait))
    (kept : ∀ attempt, Effect.Keeps view (func attempt)) (attempts : List Nat) (lastExc : ε) :
    Effect.Keeps view (retryAttempts policy transient sleep func attempts lastExc) := by
  induction attempts generalizing lastExc with
  | nil => exact .raise lastExc
  | cons attempt rest ih =>
    refine .handle (kept attempt) fun exc => ?_
    split
    · exact .raise exc
    · exact .bind (slept _) fun _ => ih exc

theorem withDbRetry_keeps {τ : Type u} {view : σ → τ} (slept : ∀ wait, Effect.Keeps view (sleep wait))
    (kept : ∀ attempt, Effect.Keeps view (func attempt)) :
    Effect.Keeps view (withDbRetry policy transient sleep func noException) :=
  retryAttempts_keeps slept kept _ _

end

/-- Every space of the text follows one of four characters. -/
def Spaced (text : List Char) : Prop :=
  text.IsChain fun before char => char = ' ' → before ∈ ['a', 'd', 'r', ',']

theorem Spaced.append {first second : List Char} (left : Spaced first) (right : Spaced second)
    (starts : second.head? ≠ some ' ') : Spaced (first ++ second) := by
  apply List.IsChain.append left right
  intro before _ char head space
  rw [Option.mem_def] at head
  exact (starts (space ▸ head)).elim

theorem spaced_of_solid {text : List Char} (solid : ' ' ∉ text) : Spaced text := by
  rw [Spaced, List.isChain_iff_getElem]
  intro index _ space
  exact (solid (space ▸ List.getElem_mem _)).elim

theorem infix_of_occursIn {phrase text : List Char} (occurs : occursIn phrase text = true) : phrase <:+: text := by
  induction text with
  | nil =>
    obtain rfl := List.isEmpty_iff.mp occurs
    exact List.infix_refl []
  | cons char rest ih =>
    rcases (Bool.or_eq_true _ _).mp occurs with here | later
    · exact (List.isPrefixOf_iff_prefix.mp here).isInfix
    · exact (ih later).trans (List.suffix_cons char rest).isInfix

private theorem phrase_unspaced : ∀ phrase ∈ transientErrors, ¬ Spaced phrase.toList := by
  unfold Spaced
  decide

theorem isTransientError_of_spaced {exc : PyError} (spaced : Spaced (exc.message.toList.map Char.toLower)) :
    isTransientError exc = false := by
  rw [isTransientError, List.any_eq_false]
  intro phrase member occurs
  have within : Spaced phrase.toList := spaced.infix (infix_of_occursIn occurs)
  exact phrase_unspaced phrase member within

private theorem digits_solid (n : Nat) : ∀ char ∈ n.repr.toList, char.toLower ≠ ' ' := by
  intro char member
  rw [Nat.toList_repr] at member
  have digit := Nat.isDigit_of_mem_toDigits (by decide) (by decide) member
  intro space
  have lower : char.toLower = char := by
    simp only [Char.isDigit, Bool.and_eq_true, decide_eq_true_eq] at digit
    have low : char.val ≤ 57 := digit.2
    have notUpper : ¬ (char.val ≥ 'A'.val ∧ char.val ≤ 'Z'.val) := by
      intro upper
      have high : 65 ≤ char.val := upper.1
      rw [UInt32.le_iff_toNat_le] at low high
      exact absurd (high.trans low) (by decide)
    exact dif_neg notUpper
  rw [lower] at space
  subst space
  exact absurd digit (by decide)

private theorem int_solid (i : Int) : ' ' ∉ (toString i).toList.map Char.toLower := by
  intro member
  obtain ⟨char, inside, space⟩ := List.mem_map.mp member
  rw [Int.toString_eq_repr, Int.repr_eq_if] at inside
  split at inside
  · exact digits_solid _ char inside space
  · rw [String.toList_append, List.mem_append] at inside
    rcases inside with sign | inside
    · rw [show "-".toList = ['-'] by decide, List.mem_singleton] at sign
      subst sign
      exact absurd space (by decide)
    · exact digits_solid _ char inside space

private theorem solid_head {text : List Char} (solid : ' ' ∉ text) : text.head? ≠ some ' ' :=
  fun head => solid (List.mem_of_head? head)

/-- A quota rejection is never retried, whatever numbers it reports. -/
theorem quotaExceeded_final (usageType : UsageType) (used limit requested : Int) :
    isTransientError (.quotaExceeded usageType used limit requested) = false := by
  apply isTransientError_of_spaced
  unfold PyError.message
  simp only [String.toList_append, List.map_append]
  have type : ' ' ∉ usageType.value.toList.map Char.toLower := by cases usageType <;> decide
  have first : Spaced ("Quota exceeded for ".toList.map Char.toLower) := by unfold Spaced; decide
  have second : Spaced (", limit=".toList.map Char.toLower) := by unfold Spaced; decide
  have third : Spaced (", reqested=".toList.map Char.toLower) := by unfold Spaced; decide
  have ints (i : Int) : Spaced ((toString i).toList.map Char.toLower) := spaced_of_solid (int_solid i)
  have heads (i : Int) : ((toString i).toList.map Char.toLower).head? ≠ some ' ' := solid_head (int_solid i)
  have named := first.append (spaced_of_solid type) (solid_head type)
  have used' : ' ' ∉ ":used=".toList.map Char.toLower := by decide
  have labelled := named.append (spaced_of_solid used') (solid_head used')
  have upToLimit := (labelled.append (ints used) (heads used)).append second (by decide)
  have upToRequest := (upToLimit.append (ints limit) (heads limit)).append third (by decide)
  exact upToRequest.append (ints requested) (heads requested)

end MeteringBilling
