import Mathlib.Algebra.Group.Nat.Defs
import Mathlib.Data.Nat.Log

/-! Non-negative decimal floating point, after Python's `decimal` with its default
rounding to the nearest value, ties to the even digit. Exponent limits are left out:
no value here comes near them. -/

/-- The number `coefficient * 10 ^ exponent`. -/
structure Decimal where
  coefficient : Nat
  exponent : Int
deriving DecidableEq

namespace Decimal

def digits (n : Nat) : Nat := Nat.log 10 n + 1

def halfEven (n d : Nat) : Nat :=
  if 2 * (n % d) < d then n / d
  else if d < 2 * (n % d) then n / d + 1
  else n / d + n / d % 2

def halfUp (n d : Nat) : Nat := (2 * n + d) / (2 * d)

def ofNat (n : Nat) : Decimal := ⟨n, 0⟩

/-- Round a result to the context's precision. Rounding up a run of nines adds a digit,
which is dropped again. -/
def fix (precision : Nat) (value : Decimal) : Decimal :=
  let excess := digits value.coefficient - precision
  if excess = 0 then value
  else
    let rounded := halfEven value.coefficient (10 ^ excess)
    if precision < digits rounded then ⟨rounded / 10, value.exponent + excess + 1⟩
    else ⟨rounded, value.exponent + excess⟩

def mul (precision : Nat) (first second : Decimal) : Decimal :=
  fix precision ⟨first.coefficient * second.coefficient, first.exponent + second.exponent⟩

def strip : Nat → Decimal → Decimal
  | 0, value => value
  | limit + 1, value =>
    if value.coefficient % 10 = 0 then strip limit ⟨value.coefficient / 10, value.exponent + 1⟩ else value

/-- Long division with one digit to spare. An inexact quotient is kept off a tie, an
exact one is brought as close as possible to the ideal exponent. -/
def div (precision : Nat) (first second : Decimal) : Decimal :=
  let shift : Int := digits second.coefficient - digits first.coefficient + precision + 1
  let numerator := first.coefficient * 10 ^ shift.toNat
  let denominator := second.coefficient * 10 ^ (-shift).toNat
  let quotient := numerator / denominator
  let exponent := first.exponent - second.exponent - shift
  if numerator % denominator = 0 then fix precision (strip shift.toNat ⟨quotient, exponent⟩)
  else fix precision ⟨if quotient % 5 = 0 then quotient + 1 else quotient, exponent⟩

/-- Round half up to a given exponent; `none` is `InvalidOperation`, raised when the
result needs more digits than the context has. -/
def quantize? (precision : Nat) (exponent : Int) (value : Decimal) : Option Decimal :=
  if value.coefficient = 0 then some ⟨0, exponent⟩
  else if (precision : Int) < digits value.coefficient + value.exponent - exponent then none
  else
    let rescaled := halfUp (value.coefficient * 10 ^ (value.exponent - exponent).toNat)
      (10 ^ (exponent - value.exponent).toNat)
    if precision < digits rescaled then none else some ⟨rescaled, exponent⟩

end Decimal
