import RichText.Text.Digits
import RichText.Text.Quoted
import RichText.Text.Utf8
import RichText.Json.Number

/-!
# Faults of JSON text

What may be wrong with a text that should be JSON of a given shape, and where. A fault points into
the text by what is left unread there; a line and a column are counted only for its message.
-/
namespace RichText.Json

inductive Found where
  | null
  | bool (value : Bool)
  | number (value : Number)
  | string (value : String)
  | list
  | object
deriving DecidableEq, Repr

inductive Expected where
  | text
  | list
  | record (name : String)
deriving DecidableEq, Repr

inductive Cause where
  | endInList
  | endInObject
  | endInString
  | endInValue
  | expectedColon
  | expectedListComma
  | expectedObjectComma
  | expectedKeyword
  | expectedValue
  | badEscape
  | badNumber
  | numberRange
  | controlCharacter
  | keyNotString
  | loneSurrogate
  | cutSurrogatePair
  | trailingComma
  | trailingText
  | mismatch (found : Found) (expected : Expected)
  | repeatedField (name : String)
  | tooManyItems (count : Nat)
deriving DecidableEq, Repr

def Found.describe : Found → String
  | .null => "null"
  | .bool true => "boolean `true`"
  | .bool false => "boolean `false`"
  | .number (.whole w) => "integer `" ++ String.ofList w.write ++ "`"
  | .number (.double x) => "floating point `" ++ String.ofList (writeDouble x) ++ "`"
  | .string s => "string " ++ Text.Quoted.quote s
  | .list => "sequence"
  | .object => "map"

def Expected.describe : Expected → String
  | .text => "a string"
  | .list => "a sequence"
  | .record name => "struct " ++ name

def Cause.message : Cause → String
  | .endInList => "EOF while parsing a list"
  | .endInObject => "EOF while parsing an object"
  | .endInString => "EOF while parsing a string"
  | .endInValue => "EOF while parsing a value"
  | .expectedColon => "expected `:`"
  | .expectedListComma => "expected `,` or `]`"
  | .expectedObjectComma => "expected `,` or `\x7d`"
  | .expectedKeyword => "expected ident"
  | .expectedValue => "expected value"
  | .badEscape => "invalid escape"
  | .badNumber => "invalid number"
  | .numberRange => "number out of range"
  | .controlCharacter => "control character (\\u0000-\\u001F) found while parsing a string"
  | .keyNotString => "key must be a string"
  | .loneSurrogate => "lone leading surrogate in hex escape"
  | .cutSurrogatePair => "unexpected end of hex escape"
  | .trailingComma => "trailing comma"
  | .trailingText => "trailing characters"
  | .mismatch found expected =>
    "invalid type: " ++ found.describe ++ ", expected " ++ expected.describe
  | .repeatedField name => "duplicate field `" ++ name ++ "`"
  | .tooManyItems count =>
    "invalid length " ++ toString count ++ ", expected fewer elements in array"

/-- A place in a text: lines count from one, columns count the bytes since the line began. -/
structure Position where
  line : Nat
  column : Nat
deriving DecidableEq, Repr

def Position.advance (p : Position) : Nat → List Char → Position
  | 0, _ => p
  | _, [] => p
  | n + 1, c :: rest =>
    if c = '\n' then advance ⟨p.line + 1, 0⟩ n rest
    else if n < c.utf8Size then ⟨p.line, p.column + (n + 1)⟩
    else advance ⟨p.line, p.column + c.utf8Size⟩ (n + 1 - c.utf8Size) rest

/-- A cause, the text that was unread when it showed, and how many bytes of that text had already
been looked at. -/
structure Fault where
  cause : Cause
  unread : List Char
  ahead : Nat
deriving Repr

namespace Fault

def here (cause : Cause) (unread : List Char) : Fault := ⟨cause, unread, 0⟩

def peeked (cause : Cause) (unread : List Char) : Fault := ⟨cause, unread, 1⟩

def position (fault : Fault) (text : List Char) : Position :=
  Position.advance ⟨1, 0⟩
    (Text.byteLength text - Text.byteLength fault.unread + fault.ahead) text

end Fault

end RichText.Json
