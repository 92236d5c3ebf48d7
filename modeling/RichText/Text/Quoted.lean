import RichText.Text.Digits
import RichText.Unicode.Visible

/-!
# Quoted text

A text on one line: between double quotes, with a backslash before what would end the line, end the
quotes or stay unseen.
-/
namespace RichText.Text.Quoted

def hexDigits (n : Nat) : List Char := Nat.toDigits 16 n

/-- A character inside quotes: by its short escape, by its code point when it cannot be seen on its
own, or as it is. -/
def encodeChar (c : Char) : List Char :=
  if c = '\x00' then ['\\', '0']
  else if c = '\t' then ['\\', 't']
  else if c = '\r' then ['\\', 'r']
  else if c = '\n' then ['\\', 'n']
  else if c = '\\' then ['\\', '\\']
  else if c = '"' then ['\\', '"']
  else if Unicode.standsAlone c then [c]
  else '\\' :: 'u' :: '{' :: (hexDigits c.toNat ++ ['}'])

def encode (cs : List Char) : List Char := cs.flatMap encodeChar

def quote (s : String) : String := String.ofList ('"' :: (encode s.toList ++ ['"']))

end RichText.Text.Quoted
