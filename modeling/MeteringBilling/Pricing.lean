import MeteringBilling.Library.Decimal
import MeteringBilling.Session

/-! The cost of usage, in millionths of a currency unit. -/

namespace MeteringBilling

def decimalPrecision : Nat := 28

def calculateCostMicrounits (quantity pricePerThousand : Int) : Except PyError Int :=
  if quantity ≤ 0 ∨ pricePerThousand ≤ 0 then .ok 0
  else
    let product := Decimal.mul decimalPrecision (.ofNat quantity.toNat) (.ofNat pricePerThousand.toNat)
    match Decimal.quantize? decimalPrecision 0 (Decimal.div decimalPrecision product (.ofNat 1000)) with
    | some cost => .ok cost.coefficient
    | none => .error .invalidOperation

def tokenCategories (settings : Settings) : List (String × Int) :=
  [("input_tokens", settings.priceInputTokenPerThousand),
    ("cached_input_tokens", settings.priceCachedInputTokenPerThousand),
    ("output_tokens", settings.priceOutputTokenPerThousand),
    ("reasoning_tokens", settings.priceReasoningTokenPerThousand)]

def CostService.calculate (settings : Settings) (usageType : UsageType) (quantity : Int) : Except PyError Int :=
  if usageType = .apiCall then calculateCostMicrounits quantity settings.priceApiCallPerThousand
  else match (tokenCategories settings).lookup usageType.value with
    | none => .error (.valueError "No pricing for usage type")
    | some pricePerThousand => calculateCostMicrounits quantity pricePerThousand

example : CostService.calculate {} .apiCall 1 = .ok 1000 := by decide

end MeteringBilling
