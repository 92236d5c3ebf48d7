import RichText.Decimal.Shortest
import RichText.Json.Value

/-!
# Numbers as text
-/
namespace RichText.Json

/-- A double is written positionally from `0.00001` to below `10 ^ 16`, and its exponent always
with a sign. -/
def Number.layout : Decimal.Layout where
  positionalFrom := -5
  positionalBelow := 16
  plusSign := true

def Whole.write (w : Whole) : List Char :=
  if w.val < 0 then '-' :: Text.toDigits w.val.natAbs else Text.toDigits w.val.natAbs

def writeDouble (x : Decimal.Binary64) : List Char :=
  let digits := Number.layout.write x.shortest
  if x.negative then '-' :: digits else digits

def Number.write : Number → List Char
  | .whole w => w.write
  | .double x => writeDouble x

end RichText.Json
