import RichText.Text.Digits

/-!
# Punycode

A label of any characters in letters, digits and hyphens: the ASCII characters come first, then, as
numbers of variable length, where each of the others goes in.
-/
namespace RichText.Url.Punycode

def base : Nat := 36
def leastThreshold : Nat := 1
def greatestThreshold : Nat := 26
def skew : Nat := 38
def damp : Nat := 700
def initialBias : Nat := 72
def initialCodePoint : Nat := 128

def digit? (c : Char) : Option Nat :=
  if 'a' ≤ c ∧ c ≤ 'z' then some (c.toNat - 'a'.toNat)
  else if 'A' ≤ c ∧ c ≤ 'Z' then some (c.toNat - 'A'.toNat)
  else if '0' ≤ c ∧ c ≤ '9' then some (c.toNat - '0'.toNat + 26)
  else none

def ofDigit (n : Nat) : Char :=
  if n < 26 then Char.ofNat ('a'.toNat + n) else Char.ofNat ('0'.toNat + (n - 26))

def threshold (position bias : Nat) : Nat :=
  max leastThreshold (min greatestThreshold (position - bias))

def adaptFrom (delta k : Nat) : Nat :=
  if h : (base - leastThreshold) * greatestThreshold / 2 < delta then
    have : delta / (base - leastThreshold) < delta :=
      Nat.div_lt_self (by omega) (by decide)
    adaptFrom (delta / (base - leastThreshold)) (k + base)
  else k + (base - leastThreshold + 1) * delta / (delta + skew)
termination_by delta

def adapt (delta length : Nat) (first : Bool) : Nat :=
  let delta := if first then delta / damp else delta / 2
  adaptFrom (delta + delta / length) 0

/-! ## Decoding -/

/-- What is decoded so far: the text, the last code point, the place of the next one and the bias;
and of the number that is being read where it began, its next digit's weight and position. -/
structure Decoding where
  text : List Char
  codePoint : Nat
  index : Nat
  bias : Nat
  start : Nat
  weight : Nat
  position : Nat

def char? (n : Nat) : Option Char :=
  if h : n.isValidChar then some (Char.ofNatAux n h) else none

/-- Takes in a digit. The last digit of a number says where the next character goes in. -/
def Decoding.push (s : Decoding) (c : Char) : Option Decoding := do
  let d ← digit? c
  let index := s.index + d * s.weight
  let t := threshold s.position s.bias
  if d < t then
    let length := s.text.length + 1
    let codePoint := s.codePoint + index / length
    let index' := index % length
    let c ← char? codePoint
    some {
      text := s.text.take index' ++ c :: s.text.drop index'
      codePoint
      index := index' + 1
      bias := adapt (index - s.start) length (s.start == 0)
      start := index' + 1
      weight := 1
      position := base }
  else
    let weight := s.weight * (base - t)
    if index < UInt32.size ∧ weight < UInt32.size then
      some { s with index, weight, position := s.position + base }
    else none

def splitBasic (cs : List Char) : List Char × List Char :=
  let digits := (cs.reverse.takeWhile (· != '-')).reverse
  if digits.length = cs.length then ([], cs)
  else (cs.take (cs.length - digits.length - 1), digits)

def decode? (cs : List Char) : Option (List Char) := do
  let (basic, digits) := splitBasic cs
  if basic.isEmpty ∧ digits.length < cs.length then none
  else
    let s ← digits.foldlM Decoding.push
      ⟨basic, initialCodePoint, 0, initialBias, 0, 1, base⟩
    if s.position = base then some s.text else none

/-! ## Encoding -/

theorem threshold_bounds (position bias : Nat) :
    1 ≤ threshold position bias ∧ threshold position bias ≤ 26 := by
  simp only [threshold, leastThreshold, greatestThreshold]
  omega

def digits (n position bias : Nat) : List Char :=
  let t := threshold position bias
  if h : n < t then [ofDigit n]
  else
    have : (n - t) / (base - t) < n := by
      have ht := threshold_bounds position bias
      have hb : 10 ≤ base - t := by simp only [base]; omega
      have := Nat.div_le_self (n - t) (base - t)
      omega
    ofDigit (t + (n - t) % (base - t)) :: digits ((n - t) / (base - t)) (position + base) bias
termination_by n

/-- What is encoded so far, from its end; how many characters that covers, how far the next one is
away, and the bias. -/
structure Encoding where
  output : List Char
  handled : Nat
  delta : Nat
  bias : Nat

def Encoding.visit (basic codePoint : Nat) (s : Encoding) (c : Char) : Encoding :=
  if c.toNat < codePoint then { s with delta := s.delta + 1 }
  else if c.toNat = codePoint then {
    output := (digits s.delta base s.bias).reverse ++ s.output
    handled := s.handled + 1
    delta := 0
    bias := adapt s.delta (s.handled + 1) (s.handled == basic) }
  else s

def codePoints (cs : List Char) : List Nat :=
  ((cs.map Char.toNat).filter (0x80 ≤ ·)).mergeSort.eraseDups

def encode (cs : List Char) : List Char :=
  let basic := cs.filter fun c => c.toNat < 0x80
  let start := if basic.isEmpty then [] else '-' :: basic.reverse
  let step : Encoding × Nat → Nat → Encoding × Nat := fun (s, last) n =>
    let s := { s with delta := s.delta + (n - last) * (s.handled + 1) }
    let s := cs.foldl (Encoding.visit basic.length n) s
    ({ s with delta := s.delta + 1 }, n + 1)
  let (s, _) := (codePoints cs).foldl step
    (⟨start, basic.length, 0, initialBias⟩, initialCodePoint)
  s.output.reverse

end RichText.Url.Punycode
