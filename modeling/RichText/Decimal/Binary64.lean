/-!
# Binary64 numbers

Finite numbers with 53 significant bits, in exact arithmetic on naturals. Every operation rounds
once, to the nearest number, and a tie goes to the even significand.
-/
namespace RichText.Decimal

/-- The number `± significand * 2 ^ exponent`. The significand has 53 bits, or fewer at the least
exponent. -/
structure Binary64 where
  negative : Bool
  significand : Nat
  exponent : Int
deriving DecidableEq, Repr

/-- The quotient rounded to the nearest natural, a tie to the even one. -/
def roundDiv (num den : Nat) : Nat :=
  let q := num / den
  let r := num % den
  if den < 2 * r ∨ (2 * r = den ∧ q % 2 = 1) then q + 1 else q

/-- `2 ^ e`, or one for a negative exponent. -/
def twoPow (e : Int) : Nat := Nat.pow 2 e.toNat

def tenPow (e : Int) : Nat := Nat.pow 10 e.toNat

namespace Binary64

def leastExponent : Int := -1074

def greatestExponent : Int := 971

def zero : Binary64 := ⟨false, 0, leastExponent⟩

/-- The exponent that leaves 53 bits before the point of `num / den`. -/
def fittingExponent (num den : Nat) : Int :=
  let e : Int := (num.log2 : Int) - den.log2 - 52
  if num * twoPow (-e) < den * twoPow e * twoPow 52 then e - 1 else e

def ofRatio? (num den : Nat) : Option Binary64 :=
  if num = 0 then some zero
  else
    let e := max (fittingExponent num den) leastExponent
    let m := roundDiv (num * twoPow (-e)) (den * twoPow e)
    let (m, e) := if m = twoPow 53 then (twoPow 52, e + 1) else (m, e)
    if greatestExponent < e then none else some ⟨false, m, e⟩

def negate (x : Binary64) : Binary64 := { x with negative := !x.negative }

def isZero (x : Binary64) : Bool := x.significand == 0

def mul? (x y : Binary64) : Option Binary64 :=
  let e := x.exponent + y.exponent
  ofRatio? (x.significand * y.significand * twoPow e) (twoPow (-e))

def div? (x y : Binary64) : Option Binary64 :=
  let e := x.exponent - y.exponent
  ofRatio? (x.significand * twoPow e) (y.significand * twoPow (-e))

def ofNat? (n : Nat) : Option Binary64 := ofRatio? n 1

def powerOfTen (k : Nat) : Binary64 := (ofNat? (tenPow k)).getD zero

/-- Divides by `10 ^ k`: by the rounded power of ten where there is one, otherwise by `10 ^ 308`
first. -/
def scaleDown (x : Binary64) (k : Nat) : Binary64 :=
  if k ≤ 308 then (x.div? (powerOfTen k)).getD zero
  else if x.isZero then x
  else scaleDown ((x.div? (powerOfTen 308)).getD zero) (k - 308)
termination_by k

/-- `significand * 10 ^ exponent` in two roundings: the significand, then its product or quotient
with the rounded power of ten. Nothing when it is too large. -/
def ofDecimal? (significand : Nat) (exponent : Int) : Option Binary64 := do
  let x ← ofNat? significand
  if exponent < 0 then some (x.scaleDown (-exponent).toNat)
  else if exponent ≤ 308 then x.mul? (powerOfTen exponent.toNat)
  else if x.isZero then some x
  else none

end Binary64

end RichText.Decimal
