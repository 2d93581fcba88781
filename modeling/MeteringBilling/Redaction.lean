import MeteringBilling.Library.Regex

/-! What the error handlers take out of a text before they log it or answer with it. -/

namespace MeteringBilling

open Regex

/-- `[a-zA-Z0-9_-]` -/
def tokenChar (char : Char) : Bool := char.isAlphanum || char == '_' || char == '-'

/-- `\s`, which for text takes every Unicode space. -/
def space (char : Char) : Bool :=
  let code := char.toNat
  (9 ≤ code && code ≤ 13) || (28 ≤ code && code ≤ 32) || code == 0x85 || code == 0xA0 || code == 0x1680 ||
    (0x2000 ≤ code && code ≤ 0x200A) || code == 0x2028 || code == 0x2029 || code == 0x202F || code == 0x205F ||
    code == 0x3000

/-- `[^&\s]` -/
def parameterChar (char : Char) : Bool := !(char == '&' || space char)

def sensitivePatterns : List (List (Piece Char) × String) := [
  (literal "sk_test_".toList ++ [.many tokenChar], "sk_test_REDACTED"),
  (literal "sk_live_".toList ++ [.many tokenChar], "sk_live_REDACTED"),
  (literal "whsec_".toList ++ [.many tokenChar], "whsec_REDACTED"),
  (literal "password=".toList ++ [.many parameterChar], "password=REDACTED"),
  (literal "postgresql://".toList ++ [.many (· != ':'), .one ':', .many (· != '@'), .one '@'],
    "postgresql://user:REDACTED@")]

def redact (text : String) : String :=
  sensitivePatterns.foldl (fun text (pattern, replacement) =>
    String.ofList (sub pattern replacement.toList 0 text.toList)) text

end MeteringBilling
