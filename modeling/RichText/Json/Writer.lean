import RichText.Json.Number

/-!
# Writing JSON values

Compact text: no blanks, the fields in the order in which they stand. In strings only the quote, the
backslash and the controls are escaped.
-/
namespace RichText.Json

def writeChar (c : Char) : List Char :=
  if c = '"' then ['\\', '"']
  else if c = '\\' then ['\\', '\\']
  else if c = '\x08' then ['\\', 'b']
  else if c = '\x0c' then ['\\', 'f']
  else if c = '\n' then ['\\', 'n']
  else if c = '\r' then ['\\', 'r']
  else if c = '\t' then ['\\', 't']
  else if c < ' ' then
    ['\\', 'u', '0', '0', Text.hexDigit (c.toNat / 16), Text.hexDigit (c.toNat % 16)]
  else [c]

def writeString (s : String) : List Char := '"' :: (s.toList.flatMap writeChar ++ ['"'])

mutual

def Value.write : Value → List Char
  | .null => ['n', 'u', 'l', 'l']
  | .bool true => ['t', 'r', 'u', 'e']
  | .bool false => ['f', 'a', 'l', 's', 'e']
  | .number n => n.write
  | .string s => writeString s
  | .array [] => ['[', ']']
  | .array (item :: rest) => '[' :: (item.write ++ writeItems rest)
  | .object [] => ['\x7b', '\x7d']
  | .object ((name, member) :: rest) =>
    '\x7b' :: (writeString name ++ ':' :: (member.write ++ writeMembers rest))

def writeItems : List Value → List Char
  | [] => [']']
  | item :: rest => ',' :: (item.write ++ writeItems rest)

def writeMembers : List (String × Value) → List Char
  | [] => ['\x7d']
  | (name, member) :: rest =>
    ',' :: (writeString name ++ ':' :: (member.write ++ writeMembers rest))

end

def Value.compact (v : Value) : String := String.ofList v.write

end RichText.Json
