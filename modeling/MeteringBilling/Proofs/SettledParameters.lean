import MeteringBilling.Proofs.SettledText

/-! What redaction leaves of passwords that stand in parameters, and of those in database URLs. -/

namespace MeteringBilling.SettledParameters

open Overlap Regex SettledText

theorem parameter_redacted (text : String) {before after : List Char} {char : Char}
    (occurs : (redact text).toList = before ++ (password.word ++ char :: after)) (secret : parameterChar char = true) :
    ∃ rest, char :: after = redacted ++ rest ∧ Stops parameterChar rest := by
  obtain ⟨rest, found⟩ := Option.isSome_iff_exists.mp
    (@run_complete _ parameterChar some after [char] (List.cons_ne_nil _ _) (List.forall_mem_singleton.mpr secret) rfl)
  have settled := redact_settled text password (by simp [rules, tokens]) before _ rest occurs
    (matchAt_literal.mpr ⟨char :: after, rfl, found⟩)
  rw [Rule.mask, List.append_assoc] at settled
  obtain ⟨_, _, _, _, stops⟩ := run_some.mp found
  exact ⟨rest, List.append_cancel_left settled, stops⟩

theorem url_redacted (text : String) {before name secret after : List Char}
    (occurs : (redact text).toList = before ++ (postgres.word ++ (name ++ ':' :: (secret ++ '@' :: after))))
    (named : name ≠ []) (plain : ':' ∉ name) (filled : secret ≠ []) (single : '@' ∉ secret) :
    name = "user".toList ∧ secret = redacted := by
  have found : matchAt postgres.pieces (name ++ ':' :: (secret ++ '@' :: after)) = some after :=
    postgres_found.mpr ⟨name, secret, rfl, named, plain, filled, single⟩
  have settled := redact_settled text postgres (by simp [rules]) before _ after occurs (matchAt_literal.mpr ⟨_, rfl, found⟩)
  rw [Rule.mask, List.append_assoc] at settled
  have shape : name ++ ':' :: (secret ++ '@' :: after) = "user".toList ++ ':' :: (redacted ++ '@' :: after) :=
    List.append_cancel_left settled
  obtain ⟨user, rest⟩ := before_separator plain (by decide) shape
  exact ⟨user, (before_separator single (by decide) rest).1⟩

/-- After redaction every password in a parameter is its replacement, up to the end of the parameter, and so are the user
and the password of every database URL. -/
theorem passwords_settled (text : String) :
    (∀ before char after, (redact text).toList = before ++ ("password=".toList ++ char :: after) → parameterChar char = true →
      ∃ rest, char :: after = "REDACTED".toList ++ rest ∧ Stops parameterChar rest) ∧
    ∀ before name secret after,
      (redact text).toList = before ++ ("postgresql://".toList ++ (name ++ ':' :: (secret ++ '@' :: after))) →
        name ≠ [] → ':' ∉ name → secret ≠ [] → '@' ∉ secret → name = "user".toList ∧ secret = "REDACTED".toList :=
  ⟨fun _ _ _ => parameter_redacted text, fun _ _ _ _ => url_redacted text⟩

end MeteringBilling.SettledParameters
