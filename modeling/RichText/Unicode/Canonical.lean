import RichText.Unicode.CanonicalTables

/-!
# Canonical composition

The form of a text in which canonically equivalent texts are the same and characters are composed
where they can be: decompose, put combining characters in the order of their classes, compose.
-/
namespace RichText.Unicode

def combiningClass (c : Char) : Nat :=
  if c.toNat < 0x300 then 0
  else
    match combiningClasses.find? c with
    | some rule => rule.values.headD 0
    | none => 0

/-! ## Hangul syllables

A syllable is a leading consonant, a vowel and perhaps a trailing consonant; the code points follow
from theirs. -/

namespace Hangul

def leadBase : Nat := 0x1100
def vowelBase : Nat := 0x1161
def trailBase : Nat := 0x11A7
def syllableBase : Nat := 0xAC00
def leads : Nat := 19
def vowels : Nat := 21
def trails : Nat := 28

def isSyllable (n : Nat) : Bool :=
  syllableBase ≤ n && n < syllableBase + leads * vowels * trails

def decompose (n : Nat) : List Char :=
  let s := n - syllableBase
  let lead := Char.ofNat (leadBase + s / (vowels * trails))
  let vowel := Char.ofNat (vowelBase + s % (vowels * trails) / trails)
  if s % trails = 0 then [lead, vowel]
  else [lead, vowel, Char.ofNat (trailBase + s % trails)]

def compose? (a b : Nat) : Option Char :=
  if leadBase ≤ a ∧ a < leadBase + leads ∧ vowelBase ≤ b ∧ b < vowelBase + vowels then
    some (Char.ofNat (syllableBase + ((a - leadBase) * vowels + (b - vowelBase)) * trails))
  else if isSyllable a ∧ (a - syllableBase) % trails = 0 ∧ trailBase < b ∧
      b < trailBase + trails then
    some (Char.ofNat (a + (b - trailBase)))
  else none

end Hangul

def decompose (c : Char) : List Char :=
  if c.toNat < 0xC0 then [c]
  else if Hangul.isSyllable c.toNat then Hangul.decompose c.toNat
  else (decompositions.replacement? c).getD [c]

def compose? (a b : Char) : Option Char :=
  match Hangul.compose? a.toNat b.toNat with
  | some c => some c
  | none =>
    (compositions.rules.find? fun rule => rule.values == [a.toNat, b.toNat]).map
      fun rule => Char.ofNat rule.first

/-- Appends a character to an ordered text, which is given from its end: a combining character moves
before those of higher classes. -/
def place (c : Char) : List Char → List Char
  | [] => [c]
  | d :: rest =>
    if combiningClass c ≠ 0 ∧ combiningClass c < combiningClass d then d :: place c rest
    else c :: d :: rest

def order (cs : List Char) : List Char := (cs.foldl (fun out c => place c out) []).reverse

/-- A text that is being composed, from its end: what follows the last starter, the starter, and
what stands before it. -/
structure Composing where
  after : List Char
  starter : Option Char
  before : List Char

namespace Composing

def empty : Composing := ⟨[], none, []⟩

def toList (s : Composing) : List Char := s.after ++ s.starter.toList ++ s.before

/-- Appends a character, or composes it with the last starter if nothing between the two blocks
it. -/
def push (s : Composing) (c : Char) : Composing :=
  let free :=
    match s.after with
    | [] => true
    | d :: _ => combiningClass d < combiningClass c
  match s.starter.bind fun starter => if free then compose? starter c else none with
  | some composite => { s with starter := some composite }
  | none =>
    if combiningClass c = 0 then ⟨[], some c, s.toList⟩
    else { s with after := c :: s.after }

end Composing

def compose (cs : List Char) : List Char :=
  (cs.foldl Composing.push Composing.empty).toList.reverse

def composed (cs : List Char) : List Char := compose (order (cs.flatMap decompose))

end RichText.Unicode
