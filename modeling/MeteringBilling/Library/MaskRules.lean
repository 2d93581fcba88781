import MeteringBilling.Library.Substitution
import Mathlib.Tactic.MkIffOfInductiveProp

/-! Substitution rules that keep a word and mask what follows it, and when a sequence of them
leaves nothing more to mask. -/

namespace Regex

open Overlap

variable {α : Type}

/-- The pattern and the mask of a rule begin with the same word. -/
structure Rule (α : Type) where
  word : List α
  pieces : List (Piece α)
  filler : List α

namespace Rule

def pattern (rule : Rule α) : List (Piece α) := literal rule.word ++ rule.pieces

def mask (rule : Rule α) : List α := rule.word ++ rule.filler

/-- No mask overlaps with the word in front of it or behind it. -/
@[mk_iff]
structure Fit (rule : Rule α) : Prop where
  opens : rule.word ≠ []
  word : Apart rule.word rule.mask.tail
  mask : Apart rule.mask rule.word.tail

/-- The masks and words of the other rule do not overlap with those of this one. -/
@[mk_iff]
structure Independent (rule other : Rule α) : Prop where
  word : Apart rule.word other.mask
  mask : Apart other.mask rule.word
  found : Apart other.word rule.mask

/-- The rule masks a run of symbols, and its filler is such a run. -/
structure Token (rule : Rule α) (accepts : α → Bool) : Prop where
  pieces : rule.pieces = [.many accepts]
  filled : rule.filler ≠ []
  accepted : ∀ symbol ∈ rule.filler, accepts symbol = true

variable [DecidableEq α] {rule other : Rule α} {rest text after out taken : List α}

instance : Decidable rule.Fit := decidable_of_iff' _ (fit_iff rule)

instance : Decidable (rule.Independent other) := decidable_of_iff' _ (independent_iff rule other)

def apply (rule : Rule α) (text : List α) : List α := sub rule.pattern rule.mask 0 text

def Settled (rule : Rule α) (text : List α) : Prop :=
  ∀ before tail after, text = before ++ tail → matchAt rule.pattern tail = some after → tail = rule.mask ++ after

theorem apply_scans (nonempty : rule.word ≠ []) (text : List α) :
    Scans rule.pattern rule.mask [] text (rule.apply text) := by
  refine sub_scans (fun empty => nonempty ?_) text
  exact List.map_eq_nil_iff.mp (List.append_eq_nil_iff.mp empty).1

theorem taken_word (found : matchAt rule.pattern (taken ++ after) = some after) :
    ∃ behind, taken = rule.word ++ behind := by
  obtain ⟨tail, shape, inner⟩ := matchAt_literal.mp found
  obtain ⟨behind, rfl, _⟩ := matchAt_taken inner
  exact ⟨behind, List.append_cancel_right (shape.trans (List.append_assoc _ _ _).symm)⟩

theorem head?_eq (nonempty : rule.word ≠ []) (scan : Scans rule.pattern rule.mask rest text out) :
    out.head? = text.head? := by
  cases scan with
  | nil => rfl
  | kept => rfl
  | masked found =>
    obtain ⟨behind, rfl⟩ := taken_word found
    obtain ⟨symbol, word, opens⟩ := List.exists_cons_of_ne_nil nonempty
    rw [mask, opens]
    rfl

theorem keeps {kept second : List α} (apart : Apart rule.word kept) (scan : Scans rule.pattern rule.mask rest text out)
    (shape : text = kept ++ second) : ∃ back, out = kept ++ back ∧ Scans rule.pattern rule.mask rest second back := by
  induction kept generalizing text out with
  | nil =>
    rw [List.nil_append] at shape
    exact ⟨out, rfl, shape ▸ scan⟩
  | cons symbol kept ih =>
    cases scan with
    | nil => cases shape
    | kept missed scan =>
      obtain ⟨rfl, rfl⟩ := List.cons.inj shape
      obtain ⟨back, rfl, behind⟩ := ih apart.2 scan rfl
      exact ⟨back, rfl, behind⟩
    | masked found scan =>
      obtain ⟨behind, rfl⟩ := taken_word found
      rw [List.append_assoc] at shape
      exact (apart.1 (meets_of_append shape.symm)).elim

theorem Settled.tail {before tail : List α} (settled : rule.Settled (before ++ tail)) : rule.Settled tail := by
  intro front back after shape found
  refine settled (before ++ front) back after ?_ found
  rw [shape, List.append_assoc]

theorem Settled.apply_eq (nonempty : rule.word ≠ []) (settled : rule.Settled text) : rule.apply text = text := by
  have unchanged {text out : List α} (scan : Scans rule.pattern rule.mask [] text out) (settled : rule.Settled text) :
      out = text := by
    induction scan with
    | nil => rfl
    | @kept head text out missed scan ih => rw [ih (@Settled.tail _ _ rule [head] text settled)]
    | @masked taken text out found scan ih =>
      rw [List.append_nil] at found
      have whole : taken = rule.mask := List.append_cancel_right (settled [] _ _ rfl found)
      rw [ih settled.tail, whole]
  exact unchanged (apply_scans nonempty text) settled

/-- Behind a word in the result its pieces match only a filler, so every match is the mask. -/
theorem settles (fit : rule.Fit)
    (reflects : ∀ {text out}, Scans rule.pattern rule.mask [] text out →
      (matchAt rule.pieces out).isSome = true → (matchAt rule.pieces text).isSome = true)
    (closes : ∀ {text after out}, matchAt rule.pattern text = some after → Scans rule.pattern rule.mask [] after out →
      matchAt rule.pieces (rule.filler ++ out) = some out) (text : List α) : rule.Settled (rule.apply text) := by
  intro before tail after shape found
  obtain ⟨behind, rfl, inner⟩ := matchAt_literal.mp found
  obtain ⟨first, second, _, _, scan⟩ := (apply_scans fit.opens text).boundary fit.word shape
  generalize result : rule.word ++ behind = result at scan
  cases scan with
  | nil => exact (fit.opens (List.append_eq_nil_iff.mp result).1).elim
  | @kept head text out missed scan =>
    obtain ⟨symbol, word, opens⟩ := List.exists_cons_of_ne_nil fit.opens
    have untouched := fit.mask
    rw [opens, List.tail_cons] at untouched
    rw [opens, List.cons_append] at result
    obtain ⟨rfl, rfl⟩ := List.cons.inj result
    obtain ⟨tail, rfl, later⟩ := scan.source untouched rfl
    obtain ⟨after, matched⟩ := Option.isSome_iff_exists.mp (reflects later (Option.isSome_of_mem inner))
    have again : matchAt rule.pattern (rule.word ++ tail) = some after := matchAt_literal.mpr ⟨tail, rfl, matched⟩
    rw [opens] at again
    rw [List.append_nil] at missed
    exact (Option.some_ne_none _ (again.symm.trans missed)).elim
  | masked matched scan =>
    rw [List.append_nil] at matched
    rw [mask, List.append_assoc] at result ⊢
    obtain rfl := List.append_cancel_left result
    rw [closes matched scan] at inner
    rw [Option.some.inj inner, List.append_assoc]

/-- An independent rule neither opens nor closes a match. -/
theorem persists (independent : rule.Independent other) (opens : other.word ≠ [])
    (reflects : ∀ {text out}, Scans other.pattern other.mask [] text out →
      (matchAt rule.pieces out).isSome = true → (matchAt rule.pieces text).isSome = true)
    (closes : ∀ {text after out}, matchAt rule.pattern text = some after → Scans other.pattern other.mask [] after out →
      matchAt rule.pieces (rule.filler ++ out) = some out) (text : List α) (settled : rule.Settled text) :
    rule.Settled (other.apply text) := by
  intro before tail after shape found
  obtain ⟨behind, rfl, inner⟩ := matchAt_literal.mp found
  obtain ⟨first, second, rfl, _, scan⟩ := (apply_scans opens text).boundary (apart_tail independent.word) shape
  obtain ⟨tail, rfl, later⟩ := scan.source independent.mask rfl
  obtain ⟨rest, matched⟩ := Option.isSome_iff_exists.mp (reflects later (Option.isSome_of_mem inner))
  have earlier : matchAt rule.pattern (rule.word ++ tail) = some rest := matchAt_literal.mpr ⟨tail, rfl, matched⟩
  obtain ⟨back, result, ends⟩ := keeps independent.found scan (settled.tail [] _ _ rfl earlier)
  rw [mask, List.append_assoc] at result ⊢
  obtain rfl := List.append_cancel_left result
  rw [closes earlier ends] at inner
  rw [Option.some.inj inner]

namespace Token

variable {accepts : α → Bool}

theorem reflects (token : rule.Token accepts) (same : out.head? = text.head?)
    (found : (matchAt rule.pieces out).isSome = true) : (matchAt rule.pieces text).isSome = true := by
  rw [token.pieces] at found ⊢
  cases out with
  | nil => cases found
  | cons head out =>
    obtain ⟨tail, rfl⟩ := List.head?_eq_some_iff.mp same.symm
    have accepted : accepts head = true := by
      by_contra refused
      rw [matchAt, run, if_neg refused] at found
      cases found
    exact run_complete (List.cons_ne_nil head []) (List.forall_mem_singleton.mpr accepted) rfl

theorem closes (token : rule.Token accepts) (found : matchAt rule.pattern text = some after)
    (same : out.head? = after.head?) : matchAt rule.pieces (rule.filler ++ out) = some out := by
  obtain ⟨tail, rfl, inner⟩ := matchAt_literal.mp found
  rw [token.pieces] at inner ⊢
  obtain ⟨taken, _, _, _, stops⟩ := run_some.mp inner
  exact run_some.mpr ⟨rule.filler, rfl, token.filled, token.accepted, fun head first => stops head (same ▸ first)⟩

theorem settles (token : rule.Token accepts) (fit : rule.Fit) (text : List α) : rule.Settled (rule.apply text) :=
  Rule.settles fit (fun scan => token.reflects (head?_eq fit.opens scan))
    (fun found scan => token.closes found (head?_eq fit.opens scan)) text

theorem persists (token : rule.Token accepts) (independent : rule.Independent other) (opens : other.word ≠ [])
    (text : List α) (settled : rule.Settled text) : rule.Settled (other.apply text) :=
  Rule.persists independent opens (fun scan => token.reflects (head?_eq opens scan))
    (fun found scan => token.closes found (head?_eq opens scan)) text settled

end Token

/-- Each rule settles the text and the later rules keep it so. -/
theorem settled_foldl {rules : List (Rule α)} (settles : ∀ rule ∈ rules, ∀ text, rule.Settled (rule.apply text))
    (persists : rules.Pairwise fun rule other => ∀ text, rule.Settled text → rule.Settled (other.apply text))
    (text : List α) : ∀ rule ∈ rules, rule.Settled (rules.foldl (fun text rule => rule.apply text) text) := by
  have later (rule : Rule α) (rules : List (Rule α))
      (persists : ∀ other ∈ rules, ∀ text, rule.Settled text → rule.Settled (other.apply text)) (text : List α)
      (settled : rule.Settled text) : rule.Settled (rules.foldl (fun text rule => rule.apply text) text) :=
    List.foldlRecOn rules _ settled fun text settled other member => persists other member text settled
  induction rules generalizing text with
  | nil => exact fun rule member => (List.not_mem_nil member).elim
  | cons first rules ih =>
    obtain ⟨settle, others⟩ := List.forall_mem_cons.mp settles
    obtain ⟨persist, later_persist⟩ := List.pairwise_cons.mp persists
    refine List.forall_mem_cons.mpr ⟨?_, ih others later_persist (first.apply text)⟩
    exact later first rules persist _ (settle text)

theorem foldl_settled {rules : List (Rule α)} (opens : ∀ rule ∈ rules, rule.word ≠ [])
    (settled : ∀ rule ∈ rules, rule.Settled text) : rules.foldl (fun text rule => rule.apply text) text = text := by
  induction rules with
  | nil => rfl
  | cons first rules ih =>
    obtain ⟨settle, others⟩ := List.forall_mem_cons.mp settled
    obtain ⟨nonempty, later⟩ := List.forall_mem_cons.mp opens
    rw [List.foldl_cons, settle.apply_eq nonempty, ih later others]

end Rule

end Regex
