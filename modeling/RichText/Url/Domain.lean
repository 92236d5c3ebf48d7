import RichText.Text.Split
import RichText.Text.Utf8
import RichText.Unicode.Canonical
import RichText.Unicode.Direction
import RichText.Unicode.DomainTables
import RichText.Unicode.JoiningTables
import RichText.Url.Punycode

/-!
# Domain names

A domain name of any characters as one of ASCII characters: characters are replaced by the ones they
count as, and a label that still holds others is written in Punycode. Names that could not be told
from others, or would not be laid out as they are read, are refused.
-/
namespace RichText.Url.Domain

open Unicode (Direction)

def isAscii (cs : List Char) : Bool := cs.all fun c => c.toNat < 0x80

def toLower (c : Char) : Char := if 'A' ≤ c ∧ c ≤ 'Z' then Char.ofNat (c.toNat + 32) else c

def mapChar (c : Char) : Option (List Char) :=
  if c.toNat < 0x80 then some [toLower c]
  else if Unicode.refusedInDomain.contains c then none
  else if Unicode.ignoredInDomain.contains c then some []
  else some ((Unicode.replacedInDomain.replacement? c).getD [c])

def mapText (cs : List Char) : Option (List Char) :=
  if isAscii cs then some (cs.map toLower)
  else (cs.mapM mapChar).map fun mapped => Unicode.composed mapped.flatten

/-- The longest Punycode that is decoded, and the longest label that is written in it. -/
def greatestEncoded : Nat := 2000
def greatestDecoded : Nat := 1000

/-! ## Labels -/

def virama : Nat := 9
def zeroWidthNonJoiner : Char := '\u200c'
def zeroWidthJoiner : Char := '\u200d'

def joins (joiner : Char) (before after : List Char) : Bool :=
  let afterVirama := before.head?.any fun c => Unicode.combiningClass c == virama
  if joiner = zeroWidthJoiner then afterVirama
  else
    afterVirama ||
      (((before.dropWhile Unicode.transparent.contains).head?.any fun c =>
          Unicode.leftJoining.contains c || Unicode.dualJoining.contains c) &&
        ((after.dropWhile Unicode.transparent.contains).head?.any fun c =>
          Unicode.rightJoining.contains c || Unicode.dualJoining.contains c))

def joinersFit (before : List Char) : List Char → Bool
  | [] => true
  -- The text before a character is given from its end.
  | c :: rest =>
    ((c != zeroWidthJoiner && c != zeroWidthNonJoiner) || joins c before rest) &&
      joinersFit (c :: before) rest

def isFit (label : List Char) : Bool :=
  !(label.head?.any Unicode.mark.contains) && joinersFit [] label &&
    label.length ≤ greatestDecoded

def encodedMark : List Char := ['x', 'n', '-', '-']

/-- The label that a label in Punycode stands for; it has to be one that needs Punycode, and the one
that it counts as. -/
def decodeLabel? (digits : List Char) : Option (List Char) := do
  if !isAscii digits || greatestEncoded < digits.length then none
  let label ← Punycode.decode? digits
  if !isAscii label && mapText label == some label && isFit label then some label else none

def label? (label : List Char) : Option (List Char × List Char) :=
  if encodedMark.isPrefixOf label then
    (decodeLabel? (label.drop encodedMark.length)).map fun decoded => (decoded, label)
  else if isAscii label then some (label, label)
  else if isFit label then some (label, encodedMark ++ Punycode.encode label)
  else none

def directionsFit (labels : List (List Char)) : Bool :=
  let directions := labels.map (·.map Direction.of)
  !(directions.any (·.any Direction.turns)) || directions.all Direction.wellFormed

def isForbidden (c : Char) : Bool :=
  c.toNat ≤ 0x20 || c.toNat == 0x7F || "%#/:<>?@[\\]^|".toList.contains c

def toAscii? (bytes : List UInt8) : Option (List Char) := do
  let name ← Text.ofUtf8? bytes
  let mapped ← mapText name
  let labels ← (Text.splitOn '.' mapped).mapM label?
  if !isAscii mapped || labels.any (fun l => !isAscii l.1) then
    if !directionsFit (labels.map (·.1)) then none
  let ascii := ['.'].intercalate (labels.map (·.2))
  if ascii.any isForbidden then none else some ascii

end RichText.Url.Domain
