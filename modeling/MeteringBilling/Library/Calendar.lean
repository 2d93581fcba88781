import Mathlib.Order.Monotone.Basic

/-! The proleptic Gregorian calendar in UTC, after Python's `datetime`. -/

namespace Calendar

def isLeap (year : Nat) : Bool := year % 4 == 0 && (year % 100 != 0 || year % 400 == 0)

def daysInMonth (year month : Nat) : Nat :=
  if month = 2 then if isLeap year then 29 else 28
  else if month = 4 ∨ month = 6 ∨ month = 9 ∨ month = 11 then 30 else 31

def daysBeforeYear (year : Nat) : Nat :=
  (year - 1) * 365 + (year - 1) / 4 - (year - 1) / 100 + (year - 1) / 400

/-- The days of a year before the first of a month, months counted from 1. -/
def daysBeforeMonth (year : Nat) : Nat → Nat
  | 0 => 0
  | 1 => 0
  | month + 2 => daysBeforeMonth year (month + 1) + daysInMonth year (month + 1)

/-- The ordinal of the first day of a month, months counted from the first of all. -/
def firstDay (month : Nat) : Nat := daysBeforeYear (month / 12 + 1) + daysBeforeMonth (month / 12 + 1) (month % 12 + 1) + 1

theorem daysBeforeYear_succ (year : Nat) : daysBeforeYear (year + 2) =
    daysBeforeYear (year + 1) + 365 + if isLeap (year + 1) then 1 else 0 := by
  have leap : isLeap (year + 1) = true ↔ 4 ∣ year + 1 ∧ (¬ 100 ∣ year + 1 ∨ 400 ∣ year + 1) := by
    simp only [isLeap, Bool.and_eq_true, Bool.or_eq_true, beq_iff_eq, bne_iff_ne, Nat.dvd_iff_mod_eq_zero, ne_eq]
  have century : year / 100 ≤ year / 4 := by omega
  simp only [daysBeforeYear, Nat.add_sub_cancel, show year + 2 - 1 = year + 1 by omega, Nat.succ_div, leap]
  by_cases fourth : 4 ∣ year + 1
  · by_cases hundredth : 100 ∣ year + 1
    · by_cases last : 400 ∣ year + 1
      · simp only [fourth, hundredth, last, not_true, false_or, and_true, if_true]
        omega
      · simp only [fourth, hundredth, last, not_true, or_false, and_false, if_true, if_false]
        omega
    · have other : ¬ 400 ∣ year + 1 := fun divides => hundredth (Nat.dvd_trans (by decide) divides)
      simp only [fourth, hundredth, other, not_false_iff, true_or, and_true, if_true, if_false]
      omega
  · have other : ¬ 100 ∣ year + 1 := fun divides => fourth (Nat.dvd_trans (by decide) divides)
    have last : ¬ 400 ∣ year + 1 := fun divides => fourth (Nat.dvd_trans (by decide) divides)
    simp only [fourth, other, last, false_and, if_false]
    omega

theorem daysBeforeDecember (year : Nat) : daysBeforeMonth year 12 = 334 + if isLeap year then 1 else 0 := by
  have february : daysInMonth year 2 = 28 + if isLeap year then 1 else 0 := by
    unfold daysInMonth
    rw [if_pos rfl]
    split <;> rfl
  have long (month : Nat) (member : month ∈ [1, 3, 5, 7, 8, 10]) : daysInMonth year month = 31 := by
    unfold daysInMonth
    rw [if_neg (by rintro rfl; simp at member), if_neg (by rintro (rfl | rfl | rfl | rfl) <;> simp at member)]
  have short (month : Nat) (member : month ∈ [4, 6, 9, 11]) : daysInMonth year month = 30 := by
    unfold daysInMonth
    rw [if_neg (by rintro rfl; simp at member), if_pos (by simpa using member)]
  simp only [daysBeforeMonth, february, Nat.zero_add, Nat.reduceAdd]
  rw [long 1 (by decide), long 3 (by decide), long 5 (by decide), long 7 (by decide), long 8 (by decide),
    long 10 (by decide), short 4 (by decide), short 6 (by decide), short 9 (by decide), short 11 (by decide)]
  omega

theorem daysInDecember (year : Nat) : daysInMonth year 12 = 31 := rfl

theorem firstDay_succ (month : Nat) :
    firstDay (month + 1) = firstDay month + daysInMonth (month / 12 + 1) (month % 12 + 1) := by
  unfold firstDay
  by_cases last : month % 12 = 11
  · have year : (month + 1) / 12 = month / 12 + 1 := by omega
    have january : (month + 1) % 12 = 0 := by omega
    rw [year, january, last, daysBeforeYear_succ, daysBeforeDecember, daysInDecember, daysBeforeMonth]
    omega
  · have year : (month + 1) / 12 = month / 12 := by omega
    have next : (month + 1) % 12 = month % 12 + 1 := by omega
    rw [year, next, daysBeforeMonth]
    omega

theorem firstDay_mono : Monotone firstDay := monotone_nat_of_le_succ fun month => by
  rw [firstDay_succ]
  exact Nat.le_add_right _ _

end Calendar

open Calendar

/-- A `datetime` in UTC. -/
structure DateTime where
  year : Nat
  month : Nat
  day : Nat
  hour : Nat
  minute : Nat
  second : Nat
  microsecond : Nat
  valid : 1 ≤ year ∧ year ≤ 9999 ∧ 1 ≤ month ∧ month ≤ 12 ∧ 1 ≤ day ∧ day ≤ daysInMonth year month ∧
    hour < 24 ∧ minute < 60 ∧ second < 60 ∧ microsecond < 1000000
deriving DecidableEq

namespace DateTime

/-- The first day is ordinal 1. -/
def ordinal (time : DateTime) : Nat :=
  daysBeforeYear time.year + daysBeforeMonth time.year time.month + time.day

def epoch : Nat := 719163

/-- The instant as PostgreSQL stores it: microseconds since the first of January 1970. -/
def timestamp (time : DateTime) : Int :=
  ((((time.ordinal - epoch : Int) * 24 + time.hour) * 60 + time.minute) * 60 + time.second) * 1000000 + time.microsecond

theorem daysInMonth_pos (year month : Nat) : 1 ≤ daysInMonth year month := by
  unfold daysInMonth; split
  · split <;> omega
  · split <;> omega

/-- `time.replace(day=1, hour=0, minute=0, second=0, microsecond=0)`. -/
def startOfMonth (time : DateTime) : DateTime where
  year := time.year
  month := time.month
  day := 1
  hour := 0
  minute := 0
  second := 0
  microsecond := 0
  valid := by
    obtain ⟨low, high, first, last, _⟩ := time.valid
    exact ⟨low, high, first, last, Nat.le_refl 1, daysInMonth_pos _ _, by omega, by omega, by omega, by omega⟩

/-- `time.replace(year=year, month=month)`; none where it raises. -/
def replace? (time : DateTime) (year month : Nat) : Option DateTime :=
  if valid : 1 ≤ year ∧ year ≤ 9999 ∧ 1 ≤ month ∧ month ≤ 12 ∧ 1 ≤ time.day ∧ time.day ≤ daysInMonth year month ∧
      time.hour < 24 ∧ time.minute < 60 ∧ time.second < 60 ∧ time.microsecond < 1000000 then
    some { time with year, month, valid }
  else none

def pad (width number : Nat) : List Char :=
  List.replicate (width - (Nat.toDigits 10 number).length) '0' ++ Nat.toDigits 10 number

/-- `time.strftime('%Y-%m')`. -/
def yearMonth (time : DateTime) : String := String.ofList (pad 4 time.year ++ '-' :: pad 2 time.month)

/-- `time.isoformat()`. -/
def isoformat (time : DateTime) : String :=
  let date := pad 4 time.year ++ '-' :: pad 2 time.month ++ '-' :: pad 2 time.day
  let clock := pad 2 time.hour ++ ':' :: pad 2 time.minute ++ ':' :: pad 2 time.second
  let fraction := if time.microsecond = 0 then [] else '.' :: pad 6 time.microsecond
  String.ofList (date ++ 'T' :: clock ++ fraction ++ "+00:00".toList)

theorem pad_injective {width first second : Nat} (same : pad width first = pad width second) : first = second := by
  have value (number : Nat) : Nat.ofDigitChars 10 (pad width number) 0 = number := by
    rw [pad, Nat.ofDigitChars_append, Nat.ofDigitChars_replicate_zero, Nat.mul_zero, Nat.ofDigitChars_ten_toDigits]
  rw [← value first, same, value second]

theorem length_pad {width number : Nat} (short : (Nat.toDigits 10 number).length ≤ width) :
    (pad width number).length = width := by
  rw [pad, List.length_append, List.length_replicate]
  omega

def SameMonth (first second : DateTime) : Prop := first.year = second.year ∧ first.month = second.month

instance (first second : DateTime) : Decidable (SameMonth first second) :=
  inferInstanceAs (Decidable (_ ∧ _))

theorem SameMonth.startOfMonth {first second : DateTime} (same : SameMonth first second) :
    first.startOfMonth = second.startOfMonth := by
  simp only [DateTime.startOfMonth, same.1, same.2]

/-- The text of the start of a month determines the month. -/
theorem sameMonth_of_isoformat {first second : DateTime}
    (same : first.startOfMonth.isoformat = second.startOfMonth.isoformat) : first.SameMonth second := by
  have years (time : DateTime) : (pad 4 time.startOfMonth.year).length = 4 := by
    apply length_pad
    exact (Nat.length_toDigits_le_iff (by decide) (by decide)).mpr (Nat.lt_succ_of_le time.startOfMonth.valid.2.1)
  have months (time : DateTime) : (pad 2 time.startOfMonth.month).length = 2 := by
    apply length_pad
    have last := time.startOfMonth.valid.2.2.2.1
    exact (Nat.length_toDigits_le_iff (by decide) (by decide)).mpr (by omega)
  have text := String.ofList_injective same
  simp only [List.append_assoc, List.cons_append] at text
  obtain ⟨year, rest⟩ := List.append_inj text ((years first).trans (years second).symm)
  obtain ⟨month, _⟩ := List.append_inj (List.cons.inj rest).2 ((months first).trans (months second).symm)
  exact ⟨pad_injective year, pad_injective month⟩

def endOfMonth (time : DateTime) : Int := time.startOfMonth.timestamp + daysInMonth time.year time.month * 86400000000

def monthIndex (time : DateTime) : Nat := 12 * (time.year - 1) + (time.month - 1)

theorem startOfMonth_timestamp (time : DateTime) :
    time.startOfMonth.timestamp = (firstDay time.monthIndex - epoch : Int) * 86400000000 := by
  obtain ⟨low, high, first, last, _⟩ := time.valid
  have year : time.monthIndex / 12 + 1 = time.year := by unfold monthIndex; omega
  have month : time.monthIndex % 12 + 1 = time.month := by unfold monthIndex; omega
  simp only [timestamp, ordinal, startOfMonth, firstDay, year, month]
  push_cast
  omega

theorem endOfMonth_eq (time : DateTime) : time.endOfMonth = (firstDay (time.monthIndex + 1) - epoch : Int) * 86400000000 := by
  obtain ⟨low, high, first, last, _⟩ := time.valid
  have year : time.monthIndex / 12 + 1 = time.year := by unfold monthIndex; omega
  have month : time.monthIndex % 12 + 1 = time.month := by unfold monthIndex; omega
  rw [endOfMonth, startOfMonth_timestamp, firstDay_succ, year, month]
  push_cast
  omega

theorem lt_endOfMonth (time : DateTime) : time.timestamp < time.endOfMonth := by
  obtain ⟨_, _, _, _, first, last, _⟩ := time.valid
  simp only [endOfMonth, timestamp, ordinal, startOfMonth]
  omega

theorem startOfMonth_le (time : DateTime) : time.startOfMonth.timestamp ≤ time.timestamp := by
  obtain ⟨_, _, _, _, first, _⟩ := time.valid
  simp only [timestamp, ordinal, startOfMonth]
  omega

theorem startOfMonth_unique {first second : DateTime} {instant : Int}
    (left : first.startOfMonth.timestamp ≤ instant ∧ instant < first.endOfMonth)
    (right : second.startOfMonth.timestamp ≤ instant ∧ instant < second.endOfMonth) :
    first.startOfMonth.timestamp = second.startOfMonth.timestamp := by
  rw [startOfMonth_timestamp, endOfMonth_eq] at left right
  rw [startOfMonth_timestamp, startOfMonth_timestamp]
  rcases Nat.lt_trichotomy first.monthIndex second.monthIndex with before | same | after
  · have apart : firstDay (first.monthIndex + 1) ≤ firstDay second.monthIndex := firstDay_mono before
    omega
  · rw [same]
  · have apart : firstDay (second.monthIndex + 1) ≤ firstDay first.monthIndex := firstDay_mono after
    omega

end DateTime

/-- `datetime.fromtimestamp(seconds, tz=utc)`, which raises outside the years 1 to 9999. -/
def fromTimestamp? (seconds : Int) : Option Int :=
  if -62135596800 ≤ seconds ∧ seconds ≤ 253402300799 then some (seconds * 1000000) else none
