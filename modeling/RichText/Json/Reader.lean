import RichText.Json.Lexeme

/-!
# Reading JSON values

The readers that may call themselves carry a bound on the calls below them. Of two calls in a row
one uses up a character at least, so twice the length of the text is bound enough.
-/
namespace RichText.Json

mutual

def value (bound : Nat) (s : List Char) : Except Fault (Value × List Char) :=
  match bound with
  | 0 => .error (.peeked .endInValue s)
  | bound + 1 =>
    match skipBlanks s with
    | [] => .error (.peeked .endInValue [])
    | 'n' :: rest => do
      let rest ← keyword ['u', 'l', 'l'] rest
      .ok (.null, rest)
    | 't' :: rest => do
      let rest ← keyword ['r', 'u', 'e'] rest
      .ok (.bool true, rest)
    | 'f' :: rest => do
      let rest ← keyword ['a', 'l', 's', 'e'] rest
      .ok (.bool false, rest)
    | '"' :: rest => do
      let (text, rest) ← string rest
      .ok (.string text, rest)
    | '[' :: rest => do
      let (values, rest) ← items bound [] rest
      .ok (.array values, rest)
    | '\x7b' :: rest => do
      let (fields, rest) ← members bound [] true rest
      .ok (.object fields, rest)
    | c :: rest =>
      if startsNumber c then do
        let (n, rest) ← number (c :: rest)
        .ok (.number n, rest)
      else .error (.peeked .expectedValue (c :: rest))

def items (bound : Nat) (taken : List Value) (s : List Char) :
    Except Fault (List Value × List Char) :=
  match bound with
  | 0 => .error (.peeked .endInValue s)
  | bound + 1 => do
    match ← nextItem taken.isEmpty s with
    | .closed rest => .ok (taken.reverse, rest)
    | .entry rest =>
      let (item, rest) ← value bound rest
      items bound (item :: taken) rest

def members (bound : Nat) (before : Members) (first : Bool) (s : List Char) :
    Except Fault (Members × List Char) :=
  match bound with
  | 0 => .error (.peeked .endInValue s)
  | bound + 1 => do
    match ← nextMember first s with
    | .closed rest => .ok (before, rest)
    | .entry rest =>
      let (name, rest) ← string rest
      let rest ← colon rest
      let (member, rest) ← value bound rest
      members bound (before.insert name member) false rest

end

def boundFor (s : List Char) : Nat := 2 * s.length + 2

def Value.ofText (text : List Char) : Except Fault Value := do
  let (v, rest) ← value (boundFor text) text
  endOfText rest
  .ok v

end RichText.Json
