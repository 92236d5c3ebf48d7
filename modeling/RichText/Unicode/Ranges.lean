import RichText.Text.Digits
import RichText.Text.Split

/-!
# Ranges of code points

A set of characters as ranges, written in hexadecimal: `41-5A 61-7A AA`.
-/
namespace RichText.Unicode

structure Ranges where
  bounds : List (Nat × Nat)

def ofHex (digits : List Char) : Nat :=
  digits.foldl (fun n c => 16 * n + (Text.hexDigit? c).getD 0) 0

namespace Ranges

def boundsOf (token : List Char) : Nat × Nat :=
  match Text.splitOn '-' token with
  | [first, last] => (ofHex first, ofHex last)
  | _ => (ofHex token, ofHex token)

def ofText (s : String) : Ranges :=
  ⟨((Text.splitBy Char.isWhitespace s.toList).filter (! ·.isEmpty)).map boundsOf⟩

def find : List (Nat × Nat) → Nat → Bool
  | [], _ => false
  | (first, last) :: rest, n => if n < first then false else n ≤ last || find rest n

def contains (r : Ranges) (c : Char) : Bool := find r.bounds c.toNat

end Ranges

end RichText.Unicode
