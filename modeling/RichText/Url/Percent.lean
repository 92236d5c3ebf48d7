import RichText.Text.Digits
import RichText.Text.Utf8

/-!
# Percent encoding

Which characters each part of a URL holds only as `%XX`, byte by byte, and the way back.
-/
namespace RichText.Url

/-- The characters below U+0080 that are encoded; all above are. -/
abbrev EncodeSet := Char → Bool

namespace EncodeSet

def controls : EncodeSet := fun c => c.toNat < 0x20 || c.toNat == 0x7F

def fragment : EncodeSet := fun c =>
  controls c || c == ' ' || c == '"' || c == '<' || c == '>' || c == '`'

def path : EncodeSet := fun c =>
  fragment c || c == '#' || c == '?' || c == '{' || c == '}'

def userinfo : EncodeSet := fun c =>
  path c || c == '/' || c == ':' || c == ';' || c == '=' || c == '@' || c == '[' || c == '\\' ||
    c == ']' || c == '^' || c == '|'

def query : EncodeSet := fun c =>
  controls c || c == ' ' || c == '"' || c == '#' || c == '<' || c == '>'

def specialQuery : EncodeSet := fun c => query c || c == '\''

end EncodeSet

def percentByte (b : UInt8) : List Char :=
  ['%', Text.upperHexDigit (b.toNat / 16), Text.upperHexDigit (b.toNat % 16)]

def percentChar (set : EncodeSet) (c : Char) : List Char :=
  if set c ∨ 0x80 ≤ c.toNat then (String.utf8EncodeChar c).flatMap percentByte else [c]

def percentEncode (set : EncodeSet) (cs : List Char) : List Char := cs.flatMap (percentChar set)

def hexByte? (b : UInt8) : Option Nat := Text.hexDigit? (Char.ofNat b.toNat)

def percentDecode : List UInt8 → List UInt8
  | [] => []
  | [a] => [a]
  | [a, b] => [a, b]
  | a :: b :: c :: rest =>
    match hexByte? b, hexByte? c with
    | some high, some low =>
      if a = 0x25 then UInt8.ofNat (high * 16 + low) :: percentDecode rest
      else a :: percentDecode (b :: c :: rest)
    | _, _ => a :: percentDecode (b :: c :: rest)

end RichText.Url
