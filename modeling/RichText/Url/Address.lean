import RichText.Text.Digits
import RichText.Text.Split

/-!
# Numeric addresses

Hosts that are numbers: four bytes, or eight groups of two bytes between brackets.
-/
namespace RichText.Url

namespace Ipv4

/-- The digits of a number and its radix: `0x` marks sixteen and a leading zero marks eight. -/
def radix (part : List Char) : Nat × List Char :=
  match part with
  | '0' :: 'x' :: rest => (16, rest)
  | '0' :: 'X' :: rest => (16, rest)
  | '0' :: second :: rest => (8, second :: rest)
  | digits => (10, digits)

/-- The number that a part of an address spells; no digits after the mark of a radix count as
zero. -/
def number? (part : List Char) : Option Nat :=
  if part.isEmpty then none
  else
    let (radix, digits) := radix part
    digits.foldlM (fun n c => do
      let d ← Text.hexDigit? c
      if d < radix then some (n * radix + d) else none) 0

def parts (host : List Char) : List (List Char) :=
  let parts := Text.splitOn '.' host
  if parts.getLast? = some [] then parts.dropLast else parts

def endsInNumber (host : List Char) : Bool :=
  match (parts host).getLast? with
  | some last => (!last.isEmpty && last.all Text.isDigit) || (number? last).isSome
  | none => false

/-- The address that a host spells: the last number fills the bytes that the others leave. -/
def parse? (host : List Char) : Option Nat := do
  let numbers ← (parts host).mapM number?
  let last ← numbers.getLast?
  let first := numbers.dropLast
  let room := Nat.pow 256 (4 - first.length)
  if 3 < first.length ∨ first.any (255 < ·) ∨ room ≤ last then none
  else some (first.foldl (fun n byte => n * 256 + byte) 0 * room + last)

def write (address : Nat) : List Char :=
  ['.'].intercalate <| [24, 16, 8, 0].map fun shift =>
    Text.toDigits (address >>> shift % 256)

end Ipv4

namespace Ipv6

def group? (cs : List Char) : Option Nat :=
  if cs.isEmpty ∨ 4 < cs.length then none
  else cs.foldlM (fun n c => (Text.hexDigit? c).map (n * 16 + ·)) 0

def byte? (cs : List Char) : Option Nat :=
  if cs.isEmpty ∨ !cs.all Text.isDigit ∨ (cs.head? = some '0' ∧ 1 < cs.length) then none
  else
    let n := Text.ofDigits cs
    if n < 256 then some n else none

def bytes? (cs : List Char) : Option (List Nat) := do
  match ← (Text.splitOn '.' cs).mapM byte? with
  | [a, b, c, d] => some [a * 256 + b, c * 256 + d]
  | _ => none

/-- The groups between colons; the last two may be four bytes in decimal, if they stand last. -/
def groups? (last : Bool) : List (List Char) → Option (List Nat)
  | [] => some []
  | [piece] => if last ∧ piece.contains '.' then bytes? piece else (group? piece).map ([·])
  | piece :: rest => do
    let n ← group? piece
    let ns ← groups? last rest
    some (n :: ns)

def cutDouble? : List Char → Option (List Char × List Char)
  | ':' :: ':' :: rest => some ([], rest)
  | c :: rest => (cutDouble? rest).map fun (before, after) => (c :: before, after)
  | [] => none

def side? (last : Bool) (cs : List Char) : Option (List Nat) :=
  if cs.isEmpty then some [] else groups? last (Text.splitOn ':' cs)

def parse? (cs : List Char) : Option (List Nat) := do
  match cutDouble? cs with
  | none =>
    let groups ← side? true cs
    if groups.length = 8 then some groups else none
  | some (before, after) =>
    let left ← side? false before
    let right ← side? true after
    if left.length + right.length ≤ 7 then
      some (left ++ List.replicate (8 - left.length - right.length) 0 ++ right)
    else none

def zeros (groups : List Nat) : Nat := (groups.takeWhile (· == 0)).length

def longestZeros (groups : List Nat) : Nat × Nat :=
  (List.range groups.length).foldl (fun best i =>
    let n := zeros (groups.drop i)
    if best.2 < n then (i, n) else best) (0, 0)

def writeGroups (groups : List Nat) : List Char :=
  [':'].intercalate (groups.map (Nat.toDigits 16))

/-- Writes a double colon for the first longest run of two zeros or more. -/
def write (groups : List Nat) : List Char :=
  let (start, length) := longestZeros groups
  if length < 2 then writeGroups groups
  else
    writeGroups (groups.take start) ++ ':' :: ':' :: writeGroups (groups.drop (start + length))

end Ipv6

end RichText.Url
