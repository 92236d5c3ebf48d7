import RichText.Json.Lexeme

/-!
# Passing over JSON values

A value that nobody asks for is only passed over: its brackets, commas and colons have to be in
place, but a number may be out of range, and a string may hold lone surrogates.
-/
namespace RichText.Json

def afterItem (s : List Char) : Except Fault Turn :=
  match skipBlanks s with
  | [] => .error (.peeked .endInList [])
  | ',' :: rest => .ok (.entry rest)
  | ']' :: rest => .ok (.closed rest)
  | rest => .error (.peeked .expectedListComma rest)

def afterMember (s : List Char) : Except Fault Turn :=
  match skipBlanks s with
  | [] => .error (.peeked .endInObject [])
  | ',' :: rest => .ok (.entry rest)
  | '\x7d' :: rest => .ok (.closed rest)
  | rest => .error (.peeked .expectedObjectComma rest)

def skipName (s : List Char) : Except Fault (List Char) :=
  match skipBlanks s with
  | [] => .error (.peeked .endInObject [])
  | '"' :: rest => do
    let rest ← skipString rest
    colon rest
  | rest => .error (.peeked .keyNotString rest)

mutual

def skip (bound : Nat) (s : List Char) : Except Fault (List Char) :=
  match bound with
  | 0 => .error (.peeked .endInValue s)
  | bound + 1 =>
    match skipBlanks s with
    | [] => .error (.peeked .endInValue [])
    | 'n' :: rest => keyword ['u', 'l', 'l'] rest
    | 't' :: rest => keyword ['r', 'u', 'e'] rest
    | 'f' :: rest => keyword ['a', 'l', 's', 'e'] rest
    | '"' :: rest => skipString rest
    | '[' :: rest =>
      match skipBlanks rest with
      | [] => .error (.peeked .endInList [])
      | ']' :: rest => .ok rest
      | rest => skipItems bound rest
    | '\x7b' :: rest =>
      match skipBlanks rest with
      | [] => .error (.peeked .endInObject [])
      | '\x7d' :: rest => .ok rest
      | rest => skipMembers bound rest
    | c :: rest =>
      if startsNumber c then skipNumber (c :: rest)
      else .error (.peeked .expectedValue (c :: rest))

def skipItems (bound : Nat) (s : List Char) : Except Fault (List Char) :=
  match bound with
  | 0 => .error (.peeked .endInValue s)
  | bound + 1 => do
    let rest ← skip bound s
    match ← afterItem rest with
    | .closed rest => .ok rest
    | .entry rest => skipItems bound rest

def skipMembers (bound : Nat) (s : List Char) : Except Fault (List Char) :=
  match bound with
  | 0 => .error (.peeked .endInValue s)
  | bound + 1 => do
    let rest ← skipName s
    let rest ← skip bound rest
    match ← afterMember rest with
    | .closed rest => .ok rest
    | .entry rest => skipMembers bound rest

end

end RichText.Json
