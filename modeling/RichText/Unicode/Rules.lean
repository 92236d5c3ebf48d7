import RichText.Unicode.Ranges

/-!
# Rules for characters

What some characters stand for, written in hexadecimal: `C0:41+300` gives two numbers for one
character, `41-5A:61` shifts a range, and `100-12E/2:101` shifts every second one of it.
-/
namespace RichText.Unicode

/-- Every `step`-th code point from `first` to `last` gets the values, shifted by its distance from
the first. -/
structure Rule where
  first : Nat
  last : Nat
  step : Nat
  values : List Nat

structure Rules where
  rules : List Rule

namespace Rules

def ruleOf (token : List Char) : Rule :=
  match Text.splitOn ':' token with
  | [range, values] =>
    let values := (Text.splitOn '+' values).map ofHex
    match Text.splitBy (fun c => c == '-' || c == '/') range with
    | [first, last, step] => ⟨ofHex first, ofHex last, ofHex step, values⟩
    | [first, last] => ⟨ofHex first, ofHex last, 1, values⟩
    | _ => ⟨ofHex range, ofHex range, 1, values⟩
  | _ => ⟨0, 0, 1, []⟩

def ofText (s : String) : Rules :=
  ⟨((Text.splitBy Char.isWhitespace s.toList).filter (! ·.isEmpty)).map ruleOf⟩

def find? (r : Rules) (c : Char) : Option Rule :=
  r.rules.find? fun rule =>
    rule.first ≤ c.toNat && c.toNat ≤ rule.last && (c.toNat - rule.first) % rule.step == 0

def replacement? (r : Rules) (c : Char) : Option (List Char) :=
  (r.find? c).map fun rule => rule.values.map fun n => Char.ofNat (n + (c.toNat - rule.first))

end Rules

end RichText.Unicode
