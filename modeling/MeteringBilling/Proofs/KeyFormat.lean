import MeteringBilling.Idempotency
import MeteringBilling.Models

/-! Which idempotency keys reach the handler. The identifier parser normalizes what it reads,
so the version of a key is not looked at and the form of a key hardly matters. -/

namespace MeteringBilling.KeyFormat

open IdempotencyMiddleware

def metering (key : String) : IncomingRequest := ⟨"/api/v1/meter", "POST", some key⟩

def Passes (key : String) : Prop := dispatch (metering key) = .callNext

def IsHex (char : Char) : Prop := (Hexadecimal.hexValue? char).isSome = true

/-- 32 characters are left of the key when what the parser drops is gone, and they write a
hexadecimal number: digits with single underscores between them, and before them spaces, a plus
sign and `0x`. Spaces may follow. -/
def Readable (key : String) : Prop :=
  (UUID.cleaned key.toList).length = 32 ∧
    Hexadecimal.Numeral ((UUID.cleaned key.toList).map Hexadecimal.asciiChar)

/-- Groups of 8, 4, 4, 4 and 12 hexadecimal digits with hyphens between them. -/
def Canonical (key : String) : Prop :=
  ∃ a b c d e : List Char, key.toList = a ++ '-' :: (b ++ '-' :: (c ++ '-' :: (d ++ '-' :: e))) ∧
    [a, b, c, d, e].map List.length = [8, 4, 4, 4, 12] ∧ ∀ char ∈ a ++ b ++ c ++ d ++ e, IsHex char

/-- The first digit of the third group is the version and that of the fourth the variant. -/
def CanonicalV4 (key : String) : Prop :=
  Canonical key ∧ key.toList[14]? = some '4' ∧
    ∃ variant ∈ ['8', '9', 'a', 'b', 'A', 'B'], key.toList[19]? = some variant

def detail (key : String) : String :=
  if key = "" then "Idempotency-Key header is required" else "Idempotency-Key must be a valid UUID v4"

theorem readable_iff (key : String) : Readable key ↔ (UUID.parse? key).isSome = true :=
  (UUID.parse?_isSome key).symm

theorem parseAs?_four (key : String) :
    UUID.parseAs? 4 key = (UUID.parse? key).map (UUID.withVersion (Hexadecimal.nibble 4)) := by
  rw [UUID.parseAs?]
  cases UUID.parse? key <;> rfl

theorem empty_unreadable : ¬ Readable "" := by
  intro readable
  have digits := readable.1
  cases digits

theorem dispatch_metering (key : String) :
    Readable key ∧ Passes key ∨ ¬ Readable key ∧ dispatch (metering key) = .respond 400 (detail key) := by
  have asked : (metering key).path ∈ idempotencyPaths ∧ (metering key).method ∈ idempotencyMethods :=
    ⟨List.mem_singleton.mpr rfl, List.mem_cons_self⟩
  rw [Passes, dispatch, if_pos asked]
  by_cases empty : key = ""
  · subst empty
    exact Or.inr ⟨empty_unreadable, rfl⟩
  · have present : (metering key).idempotencyKey.filter (· ≠ "") = some key :=
      Option.filter_eq_some_iff.mpr ⟨rfl, decide_eq_true empty⟩
    rw [present, readable_iff, detail, if_neg empty]
    dsimp only
    rw [parseAs?_four]
    cases UUID.parse? key with
    | none => exact Or.inr ⟨Bool.false_ne_true, rfl⟩
    | some uuid => exact Or.inl ⟨rfl, rfl⟩

theorem passes_iff (key : String) : Passes key ↔ Readable key := by
  rcases dispatch_metering key with ⟨readable, passes⟩ | ⟨unreadable, answered⟩
  · exact iff_of_true passes readable
  · refine iff_of_false (fun passes => ?_) unreadable
    have clash := answered.symm.trans passes
    cases clash

theorem IsHex.plain {char : Char} (hex : IsHex char) : char ≠ 'u' ∧ UUID.brace char = false ∧ char ≠ '-' := by
  refine ⟨?_, ?_, ?_⟩
  · rintro rfl
    cases hex
  · cases braced : UUID.brace char with
    | false => rfl
    | true =>
      rw [UUID.brace, Bool.or_eq_true, beq_iff_eq, beq_iff_eq] at braced
      rcases braced with rfl | rfl <;> cases hex
  · rintro rfl
    cases hex

theorem cleaned_of_digits {text : List Char} (digits : ∀ char ∈ text, char = '-' ∨ IsHex char) :
    UUID.cleaned text = text.filter (· ≠ '-') := by
  have plain (char : Char) (member : char ∈ text) : char ≠ 'u' ∧ UUID.brace char = false := by
    rcases digits char member with rfl | hex
    · exact ⟨by decide, rfl⟩
    · exact ⟨hex.plain.1, hex.plain.2.1⟩
  exact UUID.cleaned_of_plain (fun inside => (plain 'u' inside).1 rfl) fun char member => (plain char member).2

theorem readable_of_digits {key : String} (digits : ∀ char ∈ key.toList, char = '-' ∨ IsHex char) :
    Readable key ↔ (key.toList.filter (· ≠ '-')).length = 32 := by
  rw [Readable, cleaned_of_digits digits]
  refine and_iff_left_of_imp fun whole => Hexadecimal.numeral_of_digits ?_ fun char member => ?_
  · intro none
    rw [none] at whole
    cases whole
  · obtain ⟨inside, apart⟩ := List.mem_filter.mp member
    exact (digits char inside).resolve_left (of_decide_eq_true apart)

theorem canonical_hyphens {key : String} (canonical : Canonical key) (extra : Nat) :
    Readable (String.ofList (key.toList ++ List.replicate extra '-')) := by
  obtain ⟨a, b, c, d, e, shape, sizes, hex⟩ := canonical
  have digits : ∀ char ∈ key.toList ++ List.replicate extra '-', char = '-' ∨ IsHex char := by
    intro char member
    simp only [shape, List.mem_append, List.mem_cons, List.mem_replicate] at member hex
    have known := hex char
    tauto
  have kept : (a ++ b ++ c ++ d ++ e).filter (· ≠ '-') = a ++ b ++ c ++ d ++ e :=
    List.filter_eq_self.mpr fun char member => decide_eq_true (hex char member).plain.2.2
  have dropped : (key.toList ++ List.replicate extra '-').filter (· ≠ '-') = a ++ b ++ c ++ d ++ e := by
    rw [← kept, shape]
    simp [List.filter_append]
  rw [readable_of_digits (by rwa [String.toList_ofList]), String.toList_ofList, dropped]
  simp only [List.map_cons, List.map_nil, List.cons.injEq] at sizes
  simp only [List.length_append]
  omega

theorem Canonical.readable {key : String} (canonical : Canonical key) : Readable key := by
  have padded := canonical_hyphens canonical 0
  rwa [List.replicate_zero, List.append_nil, String.ofList_toList] at padded

theorem Canonical.length {key : String} (canonical : Canonical key) : key.length = 36 := by
  obtain ⟨a, b, c, d, e, shape, sizes, _⟩ := canonical
  simp only [List.map_cons, List.map_nil, List.cons.injEq] at sizes
  rw [← String.length_toList, shape]
  simp only [List.length_append, List.length_cons]
  omega

/-- Of the keys that fit their column the readable ones pass, canonical keys of every version among them. -/
theorem keys_classified (key : String) :
    (key.length ≤ idempotencyKeyWidth → (Passes key ↔ Readable key)) ∧
      (key.length ≤ idempotencyKeyWidth → (∀ char ∈ key.toList, char = '-' ∨ IsHex char) →
        (Passes key ↔ (key.toList.filter (· ≠ '-')).length = 32)) ∧
      (Canonical key → Passes key ∧ key.length ≤ idempotencyKeyWidth) ∧
      (¬ Readable key → dispatch (metering key) = .respond 400 (detail key)) := by
  refine ⟨fun _ => passes_iff key, fun _ digits => (passes_iff key).trans (readable_of_digits digits),
    fun canonical => ⟨(passes_iff key).mpr canonical.readable, ?_⟩, fun unreadable => ?_⟩
  · rw [canonical.length]
    decide
  · rcases dispatch_metering key with ⟨readable, _⟩ | ⟨_, answered⟩
    · exact (unreadable readable).elim
    · exact answered

def version1 : String := "123e4567-e89b-11d3-a456-426614174000"

theorem version1_canonical : Canonical version1 :=
  ⟨"123e4567".toList, "e89b".toList, "11d3".toList, "a456".toList, "426614174000".toList, rfl, rfl,
    List.all_eq_true.mp rfl⟩

theorem version1_passes : Passes version1 ∧ Canonical version1 ∧ ¬ CanonicalV4 version1 := by
  refine ⟨(passes_iff version1).mpr version1_canonical.readable, version1_canonical, ?_⟩
  rintro ⟨_, version, _⟩
  cases version

end MeteringBilling.KeyFormat
