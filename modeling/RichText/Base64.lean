/-!
# Base64

Bytes in the standard alphabet, padded. Decoding accepts what encoding writes and nothing else.
-/
namespace RichText.Base64

def sextet? (c : Char) : Option Nat :=
  if 'A' ≤ c ∧ c ≤ 'Z' then some (c.toNat - 'A'.toNat)
  else if 'a' ≤ c ∧ c ≤ 'z' then some (c.toNat - 'a'.toNat + 26)
  else if '0' ≤ c ∧ c ≤ '9' then some (c.toNat - '0'.toNat + 52)
  else if c = '+' then some 62
  else if c = '/' then some 63
  else none

def ofSextet (n : Nat) : Char :=
  if n < 26 then Char.ofNat ('A'.toNat + n)
  else if n < 52 then Char.ofNat ('a'.toNat + (n - 26))
  else if n < 62 then Char.ofNat ('0'.toNat + (n - 52))
  else if n = 62 then '+'
  else '/'

def encode : List UInt8 → List Char
  | [] => []
  | [a] => [ofSextet (a.toNat / 4), ofSextet (a.toNat % 4 * 16), '=', '=']
  | [a, b] =>
    [ofSextet (a.toNat / 4), ofSextet (a.toNat % 4 * 16 + b.toNat / 16),
      ofSextet (b.toNat % 16 * 4), '=']
  | a :: b :: c :: rest =>
    ofSextet (a.toNat / 4) :: ofSextet (a.toNat % 4 * 16 + b.toNat / 16) ::
      ofSextet (b.toNat % 16 * 4 + c.toNat / 64) :: ofSextet (c.toNat % 64) :: encode rest

def lastByte? (a b : Char) : Option (List UInt8) := do
  let a ← sextet? a
  let b ← sextet? b
  if b % 16 = 0 then some [UInt8.ofNat (a * 4 + b / 16)] else none

def lastBytes? (a b c : Char) : Option (List UInt8) := do
  let a ← sextet? a
  let b ← sextet? b
  let c ← sextet? c
  if c % 4 = 0 then
    some [UInt8.ofNat (a * 4 + b / 16), UInt8.ofNat (b % 16 * 16 + c / 4)]
  else none

def bytes? (a b c d : Char) : Option (List UInt8) := do
  let a ← sextet? a
  let b ← sextet? b
  let c ← sextet? c
  let d ← sextet? d
  some [UInt8.ofNat (a * 4 + b / 16), UInt8.ofNat (b % 16 * 16 + c / 4),
    UInt8.ofNat (c % 4 * 64 + d)]

/-- Refuses characters outside the alphabet, missing padding, and bits that padding should clear. -/
def decode? : List Char → Option (List UInt8)
  | [] => some []
  | [a, b, '=', '='] => lastByte? a b
  | [a, b, c, '='] => lastBytes? a b c
  | a :: b :: c :: d :: rest => do
    let bytes ← bytes? a b c d
    let more ← decode? rest
    some (bytes ++ more)
  | _ => none

end RichText.Base64
