import RichText.Decimal.Binary64
import RichText.Text.Digits

/-!
# Shortest decimals

The fewest digits that read back as a given binary64 number, and how such a decimal is laid out.
-/
namespace RichText.Decimal

/-- The number `digits * 10 ^ power`. -/
structure Numeral where
  digits : Nat
  power : Int
deriving DecidableEq, Repr

/-- The greatest `p` with `10 ^ p ≤ num / den`, for a positive quotient. -/
def floorLog (num den : Nat) : Int :=
  if den ≤ num then ((Text.toDigits (num / den)).length : Int) - 1
  else -((Text.toDigits ((den + num - 1) / num - 1)).length : Int)

namespace Binary64

/-- The numbers that round to a positive number `x`, in units of a quarter of the last place of its
significand: the two ends and `x` itself between them. -/
structure Interval where
  low : Nat
  middle : Nat
  high : Nat
  exponent : Int
  closed : Bool

def interval (x : Binary64) : Interval where
  low := 4 * x.significand -
    (if x.significand = twoPow 52 ∧ leastExponent < x.exponent then 1 else 2)
  middle := 4 * x.significand
  high := 4 * x.significand + 2
  exponent := x.exponent - 2
  closed := x.significand % 2 = 0

def Interval.holds (i : Interval) (low high n : Nat) : Bool :=
  if i.closed then low ≤ n && n ≤ high else low < n && n < high

/-- The multiple of `10 ^ power` next to the middle of the interval, if one lies inside: of two the
nearer, of two equally near the even one. -/
def Interval.onGrid? (i : Interval) (power : Int) : Option Nat :=
  let unit := twoPow i.exponent * tenPow (-power)
  let step := tenPow power * twoPow (-i.exponent)
  let low := i.low * unit
  let middle := i.middle * unit
  let high := i.high * unit
  let t := middle / step
  let below := i.holds low high (t * step)
  let above := i.holds low high ((t + 1) * step)
  if below ∧ above then
    let down := middle - t * step
    let up := (t + 1) * step - middle
    some (if down < up ∨ (down = up ∧ t % 2 = 0) then t else t + 1)
  else if below then some t
  else if above then some (t + 1)
  else none

def Interval.search (i : Interval) : Nat → Int → Numeral
  | 0, power => ⟨i.middle * twoPow i.exponent * tenPow (-power) /
      (tenPow power * twoPow (-i.exponent)), power⟩
  | n + 1, power =>
    match i.onGrid? power with
    | some digits => ⟨digits, power⟩
    | none => i.search n (power - 1)

/-- The shortest numeral that reads back as the magnitude of `x`; seventeen digits always do. -/
def shortest (x : Binary64) : Numeral :=
  if x.significand = 0 then ⟨0, 0⟩
  else
    let num := x.significand * twoPow x.exponent
    let den := twoPow (-x.exponent)
    x.interval.search 17 (floorLog num den)

end Binary64

/-- Which decimals are written positionally, by the exponent of their first digit, and how an
exponent is marked. -/
structure Layout where
  positionalFrom : Int
  positionalBelow : Int
  plusSign : Bool

def Numeral.significantDigits (d : Numeral) : List Char :=
  match ((Text.toDigits d.digits).reverse.dropWhile (· == '0')).reverse with
  | [] => ['0']
  | digits => digits

def Numeral.exponent (d : Numeral) : Int :=
  d.power + (Text.toDigits d.digits).length - 1

def positional (digits : List Char) (exponent : Int) : List Char :=
  if exponent < 0 then
    '0' :: '.' :: (List.replicate (-exponent - 1).toNat '0' ++ digits)
  else
    let before := exponent.toNat + 1
    if digits.length ≤ before then
      digits ++ List.replicate (before - digits.length) '0' ++ ['.', '0']
    else digits.take before ++ '.' :: digits.drop before

def Layout.scientific (layout : Layout) (digits : List Char) (exponent : Int) : List Char :=
  let mantissa :=
    match digits with
    | first :: second :: rest => first :: '.' :: second :: rest
    | _ => digits
  let sign := if exponent < 0 then ['-'] else if layout.plusSign then ['+'] else []
  mantissa ++ 'e' :: (sign ++ Text.toDigits exponent.natAbs)

def Layout.write (layout : Layout) (d : Numeral) : List Char :=
  let e := d.exponent
  if layout.positionalFrom ≤ e ∧ e < layout.positionalBelow then positional d.significantDigits e
  else layout.scientific d.significantDigits e

end RichText.Decimal
