import RichText.Unicode.DirectionTables

/-!
# Writing direction

The classes by which text of both directions is laid out, and the rule for labels that hold
right-to-left characters.
-/
namespace RichText.Unicode

inductive Direction where
  | leftToRight
  | rightToLeft
  | arabicLetter
  | arabicNumber
  | europeanNumber
  | nonspacingMark
  | neutral
deriving DecidableEq, Repr

namespace Direction

/-- The class of a character; separators, terminators and other neutral ones count as one class. -/
def of (c : Char) : Direction :=
  if DirectionTable.rightToLeft.contains c then .rightToLeft
  else if DirectionTable.arabicLetter.contains c then .arabicLetter
  else if DirectionTable.arabicNumber.contains c then .arabicNumber
  else if DirectionTable.europeanNumber.contains c then .europeanNumber
  else if DirectionTable.nonspacingMark.contains c then .nonspacingMark
  else if DirectionTable.europeanSeparator.contains c ||
      DirectionTable.europeanTerminator.contains c || DirectionTable.commonSeparator.contains c ||
      DirectionTable.boundaryNeutral.contains c || DirectionTable.otherNeutral.contains c then
    .neutral
  else .leftToRight

def turns (d : Direction) : Bool :=
  d == .rightToLeft || d == .arabicLetter || d == .arabicNumber

def last? (ds : List Direction) : Option Direction :=
  ds.reverse.find? (· != .nonspacingMark)

/-- Whether a label may stand in a text of both directions: it starts with a letter, keeps to the
direction of that letter, and ends with a letter or number of it. -/
def wellFormed (ds : List Direction) : Bool :=
  match ds with
  | [] => true
  | .leftToRight :: _ =>
    ds.all (fun d => !d.turns) &&
      (last? ds == some .leftToRight || last? ds == some .europeanNumber)
  | .rightToLeft :: _ | .arabicLetter :: _ =>
    ds.all (· != .leftToRight) && !(ds.contains .europeanNumber && ds.contains .arabicNumber) &&
      (last? ds).any (fun d => d.turns || d == .europeanNumber)
  | _ => false

end Direction

end RichText.Unicode
