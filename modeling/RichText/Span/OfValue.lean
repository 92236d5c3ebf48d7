import RichText.Json.Fault
import RichText.Span.Basic

/-!
# Spans from JSON values

A span is an object with the fields `tp` (or `type`), `data`, `key`, `text` and `children`, or a
list of their values in this order, of which the last may be missing. Data that is no object and a
key that is no index are dropped; anything else out of place is a fault.
-/
namespace RichText.Span

open Json (Cause Found Value Fields)

def found : Value → Found
  | .null => .null
  | .bool b => .bool b
  | .number n => .number n
  | .string s => .string s
  | .array _ => .list
  | .object _ => .object

def textOf : Option Value → Except Cause (Option String)
  | none | some .null => .ok none
  | some (.string s) => .ok (some s)
  | some v => .error (.mismatch (found v) .text)

def dataOf (entry : Option Value) : Option Fields := entry.bind Value.fields?

def keyOf : Option Value → Option UInt64
  | some (.number (.whole w)) => w.toUInt64?
  | _ => none

/-- The tag of an object, which has one name for it and an older one. -/
def tagOf (tp type : Option Value) : Except Cause (Option String) := do
  let tag ← textOf tp
  if tp.isSome ∧ type.isSome then .error (.repeatedField "tp")
  let older ← textOf type
  .ok (tag <|> older)

mutual

def ofValue : Value → Except Cause Span
  | .object members => do
    let children ← childrenOfMembers members
    let text ← textOf (members.lookup "text")
    let tag ← tagOf (members.lookup "tp") (members.lookup "type")
    .ok {
      tag := tag.map Tag.ofSpelling
      data := dataOf (members.lookup "data")
      key := keyOf (members.lookup "key")
      text
      children }
  | .array values => do
    let tag ← textOf values[0]?
    let text ← textOf values[3]?
    let children ← childrenOfList values
    if 5 < values.length then .error (.tooManyItems values.length)
    .ok {
      tag := tag.map Tag.ofSpelling
      data := dataOf values[1]?
      key := keyOf values[2]?
      text
      children }
  | v => .error (.mismatch (found v) (.record "Span"))

def childrenOfMembers : List (String × Value) → Except Cause (List Span)
  | [] => .ok []
  | (name, v) :: rest => if name = "children" then childrenOf v else childrenOfMembers rest

def childrenOfList : List Value → Except Cause (List Span)
  | _ :: _ :: _ :: _ :: v :: _ => childrenOf v
  | _ => .ok []

def childrenOf : Value → Except Cause (List Span)
  | .array values => ofValues values
  | v => .error (.mismatch (found v) .list)

def ofValues : List Value → Except Cause (List Span)
  | [] => .ok []
  | v :: rest => do
    let span ← ofValue v
    let spans ← ofValues rest
    .ok (span :: spans)

end

end RichText.Span
