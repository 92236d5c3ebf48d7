import RichText.Json.Reader
import RichText.Json.Skip
import RichText.Span.OfValue

/-!
# Spans from text

Reads a span while its text goes by, so that the first fault of spelling or of shape is the one that
is reported. Fields with other names are passed over.
-/
namespace RichText.Span

open Json (Cause Expected Fault Found)

inductive Field where
  | tag
  | data
  | key
  | text
  | children
deriving DecidableEq, Repr

namespace Field

def name : Field → String
  | tag => "tp"
  | data => "data"
  | key => "key"
  | text => "text"
  | children => "children"

def ofName? (name : String) : Option Field :=
  match name with
  | "tp" | "type" => some tag
  | "data" => some data
  | "key" => some key
  | "text" => some text
  | "children" => some children
  | _ => none

def all : List Field := [tag, data, key, text, children]

theorem ofName?_name (field : Field) : ofName? field.name = some field := by
  cases field <;> rfl

end Field

/-- The fault of a value, already at its first character, that is not what was expected. A scalar is
read to its end to report it. -/
def mismatch (expected : Expected) (s : List Char) : Fault :=
  let report {α : Type} (found : α → Found) (read : Except Fault (α × List Char)) : Fault :=
    match read with
    | .ok (a, rest) => .here (.mismatch (found a) expected) rest
    | .error fault => fault
  let word (letters : List Char) (found : Found) (rest : List Char) : Fault :=
    report (fun _ => found) ((Json.keyword letters rest).map fun rest => ((), rest))
  match s with
  | [] => .peeked .endInValue []
  | 'n' :: rest => word ['u', 'l', 'l'] .null rest
  | 't' :: rest => word ['r', 'u', 'e'] (.bool true) rest
  | 'f' :: rest => word ['a', 'l', 's', 'e'] (.bool false) rest
  | '"' :: rest => report .string (Json.string rest)
  | '[' :: _ => .here (.mismatch .list expected) s
  | '\x7b' :: _ => .here (.mismatch .object expected) s
  | c :: _ =>
    if Json.startsNumber c then report .number (Json.number s)
    else .peeked .expectedValue s

def readText (s : List Char) : Except Fault (Option String × List Char) :=
  match Json.skipBlanks s with
  | 'n' :: rest => do
    let rest ← Json.keyword ['u', 'l', 'l'] rest
    .ok (none, rest)
  | '"' :: rest => do
    let (text, rest) ← Json.string rest
    .ok (some text, rest)
  | rest => .error (mismatch .text rest)

/-- Where a repeated field is reported: after the blanks that follow its name, and past the bracket
that closes the object if it stands there. -/
def afterRepeated (s : List Char) : List Char :=
  match Json.skipBlanks s with
  | '\x7d' :: rest => rest
  | rest => rest

mutual

def read (bound : Nat) (s : List Char) : Except Fault (Span × List Char) :=
  match bound with
  | 0 => .error (.peeked .endInValue s)
  | bound + 1 =>
    match Json.skipBlanks s with
    | '[' :: rest => readPlaces bound Field.all true { } rest
    | '\x7b' :: rest => readMembers bound [] true { } rest
    | rest => .error (mismatch (.record "Span") rest)

def readPlaces (bound : Nat) (fields : List Field) (first : Bool) (span : Span) (s : List Char) :
    Except Fault (Span × List Char) :=
  match bound with
  | 0 => .error (.peeked .endInValue s)
  | bound + 1 =>
    match fields with
    | [] => do
      let rest ← Json.closeList s
      .ok (span, rest)
    | field :: fields => do
      match ← Json.nextItem first s with
      | .closed rest => .ok (span, rest)
      | .entry rest =>
        let (span, rest) ← readField bound field span rest
        readPlaces bound fields false span rest

def readMembers (bound : Nat) (seen : List Field) (first : Bool) (span : Span) (s : List Char) :
    Except Fault (Span × List Char) :=
  match bound with
  | 0 => .error (.peeked .endInValue s)
  | bound + 1 => do
    match ← Json.nextMember first s with
    | .closed rest => .ok (span, rest)
    | .entry rest =>
      let (name, rest) ← Json.string rest
      match Field.ofName? name with
      | none =>
        let rest ← Json.colon rest
        let rest ← Json.skip bound rest
        readMembers bound seen false span rest
      | some field =>
        if field ∈ seen then .error (.here (.repeatedField field.name) (afterRepeated rest))
        else
          let rest ← Json.colon rest
          let (span, rest) ← readField bound field span rest
          readMembers bound (field :: seen) false span rest

def readField (bound : Nat) (field : Field) (span : Span) (s : List Char) :
    Except Fault (Span × List Char) :=
  match bound with
  | 0 => .error (.peeked .endInValue s)
  | bound + 1 =>
    match field with
    | .tag => do
      let (text, rest) ← readText s
      .ok ({ span with tag := text.map Tag.ofSpelling }, rest)
    | .data => do
      let (v, rest) ← Json.value bound s
      .ok ({ span with data := dataOf (some v) }, rest)
    | .key => do
      let (v, rest) ← Json.value bound s
      .ok ({ span with key := keyOf (some v) }, rest)
    | .text => do
      let (text, rest) ← readText s
      .ok ({ span with text }, rest)
    | .children =>
      match Json.skipBlanks s with
      | '[' :: rest => do
        let (children, rest) ← readAll bound [] rest
        .ok ({ span with children }, rest)
      | rest => .error (mismatch .list rest)

def readAll (bound : Nat) (taken : List Span) (s : List Char) :
    Except Fault (List Span × List Char) :=
  match bound with
  | 0 => .error (.peeked .endInValue s)
  | bound + 1 => do
    match ← Json.nextItem taken.isEmpty s with
    | .closed rest => .ok (taken.reverse, rest)
    | .entry rest =>
      let (span, rest) ← read bound rest
      readAll bound (span :: taken) rest

end

def ofText? (text : List Char) : Except Fault (Option Span) := do
  match Json.skipBlanks text with
  | 'n' :: rest =>
    let rest ← Json.keyword ['u', 'l', 'l'] rest
    Json.endOfText rest
    .ok none
  | rest =>
    let (span, rest) ← read (4 * rest.length + 4) rest
    Json.endOfText rest
    .ok (some span)

end RichText.Span
