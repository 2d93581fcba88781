import MeteringBilling.Library.MaskRules
import MeteringBilling.Redaction

/-! What redaction leaves of secrets. Each pattern settles the text, and no later pattern
brings up a match of an earlier one. -/

namespace MeteringBilling.SettledText

open Overlap Regex

def redacted : List Char := "REDACTED".toList

def skTest : Rule Char := ⟨"sk_test_".toList, [.many tokenChar], redacted⟩

def skLive : Rule Char := ⟨"sk_live_".toList, [.many tokenChar], redacted⟩

def whsec : Rule Char := ⟨"whsec_".toList, [.many tokenChar], redacted⟩

def password : Rule Char := ⟨"password=".toList, [.many parameterChar], redacted⟩

def postgres : Rule Char :=
  ⟨"postgresql://".toList, [.many (· != ':'), .one ':', .many (· != '@'), .one '@'], "user:REDACTED@".toList⟩

def tokens : List (Rule Char) := [skTest, skLive, whsec, password]

def rules : List (Rule Char) := tokens ++ [postgres]

theorem redact_toList (text : String) :
    (redact text).toList = rules.foldl (fun text rule => rule.apply text) text.toList := by
  simp only [redact, sensitivePatterns, List.foldl_cons, List.foldl_nil, String.toList_ofList]
  rfl

theorem rules_fit : ∀ rule ∈ rules, rule.Fit := by decide

theorem rules_independent : rules.Pairwise Rule.Independent := by decide

theorem token {accepts : Char → Bool} (word : List Char) (accepted : ∀ char ∈ redacted, accepts char = true) :
    (Rule.mk word [.many accepts] redacted).Token accepts :=
  ⟨rfl, List.cons_ne_nil _ _, accepted⟩

theorem tokens_token : ∀ rule ∈ tokens, ∃ accepts, rule.Token accepts := by
  have secret : ∀ char ∈ redacted, tokenChar char = true := List.all_eq_true.mp rfl
  have parameter : ∀ char ∈ redacted, parameterChar char = true := List.all_eq_true.mp rfl
  simp only [tokens, List.forall_mem_cons]
  exact ⟨⟨_, token _ secret⟩, ⟨_, token _ secret⟩, ⟨_, token _ secret⟩, ⟨_, token _ parameter⟩,
    fun rule member => (List.not_mem_nil member).elim⟩

variable {text out after taken : List Char}

theorem postgres_found : matchAt postgres.pieces text = some after ↔
    ∃ name secret, text = name ++ ':' :: (secret ++ '@' :: after) ∧ name ≠ [] ∧ ':' ∉ name ∧ secret ≠ [] ∧ '@' ∉ secret := by
  have other {separator : Char} {run : List Char} : (∀ char ∈ run, (char != separator) = true) ↔ separator ∉ run := by
    simp only [bne_iff_ne]
    exact ⟨fun different member => different separator member rfl, fun absent char member same => absent (same ▸ member)⟩
  have inner {tail after : List Char} : matchAt [.many (· != '@'), .one '@'] tail = some after ↔
      ∃ secret last, tail = secret ++ '@' :: last ∧ secret ≠ [] ∧ '@' ∉ secret ∧ last = after := by
    rw [matchAt_separated (by decide)]
    simp only [other, matchAt, Option.some.injEq]
  have outer : matchAt postgres.pieces text = some after ↔
      ∃ name tail, text = name ++ ':' :: tail ∧ name ≠ [] ∧ ':' ∉ name ∧
        matchAt [.many (· != '@'), .one '@'] tail = some after := by
    simp only [← other]
    exact matchAt_separated (by decide)
  simp only [outer, inner]
  constructor
  · rintro ⟨name, tail, rfl, nonempty, plain, secret, last, rfl, filled, free, rfl⟩
    exact ⟨name, secret, rfl, nonempty, plain, filled, free⟩
  · rintro ⟨name, secret, rfl, nonempty, plain, filled, free⟩
    exact ⟨name, _, rfl, nonempty, plain, secret, after, rfl, filled, free, rfl⟩

theorem postgres_taken (found : matchAt postgres.pattern (taken ++ after) = some after) :
    ∃ name secret, taken = postgres.word ++ (name ++ ':' :: (secret ++ ['@'])) := by
  obtain ⟨tail, shape, inner⟩ := matchAt_literal.mp found
  obtain ⟨name, secret, rfl, _⟩ := postgres_found.mp inner
  refine ⟨name, secret, List.append_cancel_right (shape.trans ?_)⟩
  simp

abbrev PostgresScan (text out : List Char) : Prop := Scans postgres.pattern postgres.mask [] text out

theorem source_separator {separator : Char} (one : separator = ':' ∨ separator = '@') (scan : PostgresScan text out)
    (member : separator ∈ out) : separator ∈ text := by
  induction scan with
  | nil => exact member
  | kept missed scan ih =>
    rcases List.mem_cons.mp member with rfl | inside
    · exact List.mem_cons_self
    · exact List.mem_cons_of_mem _ (ih inside)
  | masked found scan ih =>
    obtain ⟨name, secret, rfl⟩ := postgres_taken found
    refine List.mem_append_left _ ?_
    rcases one with rfl | rfl <;> simp

/-- The first colon of the text is the first of the result, or it belongs to the word of a masked URL. -/
theorem first_colon {name behind : List Char} (plain : ':' ∉ name) (scan : PostgresScan text out)
    (shape : text = name ++ ':' :: behind) :
    (∃ back, out = name ++ ':' :: back ∧ PostgresScan behind back) ∨ ∃ more, behind = '/' :: more ∧ '@' ∈ more := by
  have word : postgres.word = "postgresql".toList ++ ':' :: "//".toList := by decide
  induction name generalizing text out with
  | nil =>
    cases scan with
    | nil => cases shape
    | kept missed scan =>
      obtain ⟨rfl, rfl⟩ := List.cons.inj shape
      exact Or.inl ⟨_, rfl, scan⟩
    | masked found scan =>
      obtain ⟨name, secret, rfl⟩ := postgres_taken found
      cases shape
  | cons char name ih =>
    cases scan with
    | nil => cases shape
    | kept missed scan =>
      obtain ⟨rfl, rfl⟩ := List.cons.inj shape
      rcases ih (fun member => plain (List.mem_cons_of_mem _ member)) scan rfl with ⟨back, rfl, later⟩ | inside
      · exact Or.inl ⟨back, rfl, later⟩
      · exact Or.inr inside
    | masked found scan =>
      obtain ⟨first, secret, rfl⟩ := postgres_taken found
      rw [word] at shape
      simp only [List.append_assoc, List.cons_append] at shape
      obtain ⟨_, rfl⟩ := before_separator (by decide) plain shape
      refine Or.inr ⟨_, rfl, ?_⟩
      simp

theorem postgres_reflects (scan : PostgresScan text out) (found : (matchAt postgres.pieces out).isSome = true) :
    (matchAt postgres.pieces text).isSome = true := by
  obtain ⟨after, found⟩ := Option.isSome_iff_exists.mp found
  obtain ⟨name, secret, rfl, nonempty, plain, filled, free⟩ := postgres_found.mp found
  have head := Rule.head?_eq (List.cons_ne_nil _ _) scan
  obtain ⟨first, behind, rfl, unread⟩ :=
    List.eq_append_cons_of_mem (source_separator (Or.inl rfl) scan (by simp))
  have named : first ≠ [] := by
    rintro rfl
    obtain ⟨char, name, rfl⟩ := List.exists_cons_of_ne_nil nonempty
    obtain rfl := Option.some.inj head
    exact plain List.mem_cons_self
  have closed : '@' ∈ behind ∧ behind.head? ≠ some '@' := by
    rcases first_colon unread scan rfl with ⟨back, same, later⟩ | ⟨more, rfl, member⟩
    · obtain ⟨rfl, rfl⟩ := before_separator plain unread same
      refine ⟨source_separator (Or.inr rfl) later (by simp), ?_⟩
      rw [← Rule.head?_eq (List.cons_ne_nil _ _) later]
      obtain ⟨char, secret, rfl⟩ := List.exists_cons_of_ne_nil filled
      rintro same
      obtain rfl := Option.some.inj same
      exact free List.mem_cons_self
    · exact ⟨List.mem_cons_of_mem _ member, by simp⟩
  obtain ⟨hidden, rest, rfl, kept⟩ := List.eq_append_cons_of_mem closed.1
  refine Option.isSome_of_mem (postgres_found.mpr ⟨first, hidden, rfl, named, unread, ?_, kept⟩)
  rintro rfl
  exact closed.2 rfl

theorem postgres_settles (text : List Char) : postgres.Settled (postgres.apply text) := by
  refine Rule.settles (rules_fit postgres (by simp [rules])) postgres_reflects (fun _ _ => ?_) text
  exact postgres_found.mpr ⟨"user".toList, redacted, rfl, by decide, by decide, by decide, by decide⟩

theorem rules_settle : ∀ rule ∈ rules, ∀ text, rule.Settled (rule.apply text) := by
  intro rule member text
  rcases List.mem_append.mp member with earlier | last
  · obtain ⟨accepts, token⟩ := tokens_token rule earlier
    exact token.settles (rules_fit rule member) text
  · obtain rfl := List.mem_singleton.mp last
    exact postgres_settles text

theorem rules_persist :
    rules.Pairwise fun rule other => ∀ text, rule.Settled text → rule.Settled (other.apply text) := by
  have persist {rule other : Rule Char} (earlier : rule ∈ tokens) (known : other ∈ rules)
      (independent : rule.Independent other) (text : List Char) (settled : rule.Settled text) :
      rule.Settled (other.apply text) := by
    obtain ⟨accepts, token⟩ := tokens_token rule earlier
    exact token.persists independent (rules_fit other known).opens text settled
  obtain ⟨among, _, last⟩ := List.pairwise_append.mp rules_independent
  refine List.pairwise_append.mpr ⟨among.imp_of_mem ?_, List.pairwise_singleton _ _, ?_⟩
  · exact fun earlier known => persist earlier (List.mem_append_left _ known)
  · exact fun rule earlier other known => persist earlier (List.mem_append_right _ known) (last rule earlier other known)

/-- Whatever a pattern still finds after redaction is its replacement. -/
theorem redact_settled (text : String) : ∀ rule ∈ rules, rule.Settled (redact text).toList := by
  rw [redact_toList]
  exact Rule.settled_foldl rules_settle rules_persist text.toList

theorem redact_redact (text : String) : redact (redact text) = redact text := by
  apply String.toList_injective
  rw [redact_toList (redact text)]
  exact Rule.foldl_settled (fun rule member => (rules_fit rule member).opens) (redact_settled text)

theorem secret_redacted {word before after : List Char} {char : Char}
    (known : Rule.mk word [.many tokenChar] redacted ∈ rules) (text : String)
    (occurs : (redact text).toList = before ++ (word ++ char :: after)) (secret : tokenChar char = true) :
    ∃ rest, char :: after = redacted ++ rest ∧ Stops tokenChar rest := by
  obtain ⟨rest, found⟩ := Option.isSome_iff_exists.mp
    (@run_complete _ tokenChar some after [char] (List.cons_ne_nil _ _) (List.forall_mem_singleton.mpr secret) rfl)
  have settled := redact_settled text _ known before _ rest occurs (matchAt_literal.mpr ⟨char :: after, rfl, found⟩)
  rw [Rule.mask, List.append_assoc] at settled
  obtain ⟨_, _, _, _, stops⟩ := run_some.mp found
  exact ⟨rest, List.append_cancel_left settled, stops⟩

/-- After redaction a secret is its replacement, and redaction changes nothing more. -/
theorem secrets_settled (text : String) :
    (∀ word ∈ ["sk_test_", "sk_live_", "whsec_"], ∀ before char after,
      (redact text).toList = before ++ (word.toList ++ char :: after) → tokenChar char = true →
        ∃ rest, char :: after = "REDACTED".toList ++ rest ∧ Stops tokenChar rest) ∧
      redact (redact text) = redact text := by
  refine ⟨?_, redact_redact text⟩
  simp only [List.forall_mem_cons]
  refine ⟨?_, ?_, ?_, fun word member => (List.not_mem_nil member).elim⟩
  · exact fun before char after => secret_redacted (show skTest ∈ rules by simp [rules, tokens]) text
  · exact fun before char after => secret_redacted (show skLive ∈ rules by simp [rules, tokens]) text
  · exact fun before char after => secret_redacted (show whsec ∈ rules by simp [rules, tokens]) text

example : redact "key=sk_test_abc password=foo123&host=db" = "key=sk_test_REDACTED password=REDACTED&host=db" := by
  decide +kernel

end MeteringBilling.SettledText
