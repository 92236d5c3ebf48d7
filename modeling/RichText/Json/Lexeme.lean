import RichText.Json.Fault

/-!
# Words of JSON text

Blanks, keywords, strings and numbers, read off the front of a text. Each reader gives what it read
and the text after it, or the first fault. Strings and numbers can also be passed over: then a
string may hold lone surrogates and a number may be out of range.
-/
namespace RichText.Json

open Text (isDigit)

def isBlank (c : Char) : Bool := c == ' ' || c == '\n' || c == '\t' || c == '\r'

def skipBlanks (s : List Char) : List Char := s.dropWhile isBlank

def keyword : List Char → List Char → Except Fault (List Char)
  | [], s => .ok s
  | _ :: _, [] => .error (.here .endInValue [])
  | k :: ks, c :: rest =>
    if k = c then keyword ks rest else .error (.peeked .expectedKeyword (c :: rest))

/-! ## Strings -/

/-- Reads the four hexadecimal digits of an escape. They are four bytes, whatever stands there. -/
def hexUnit (s : List Char) : Except Fault (Nat × List Char) :=
  if Text.byteLength (s.take 4) < 4 then .error (.here .endInString [])
  else
    match (s.take 4).mapM Text.hexDigit? with
    | some [a, b, c, d] => .ok (((a * 16 + b) * 16 + c) * 16 + d, s.drop 4)
    | _ => .error ⟨.badEscape, s, 4⟩

def shortEscape? (c : Char) : Option Char :=
  match c with
  | '"' => some '"'
  | '\\' => some '\\'
  | '/' => some '/'
  | 'b' => some '\x08'
  | 'f' => some '\x0c'
  | 'n' => some '\n'
  | 'r' => some '\r'
  | 't' => some '\t'
  | _ => none

def isHighSurrogate (n : Nat) : Bool := 0xD800 ≤ n && n ≤ 0xDBFF

def isLowSurrogate (n : Nat) : Bool := 0xDC00 ≤ n && n ≤ 0xDFFF

def ofSurrogates (high low : Nat) : Char :=
  Char.ofNat ((high - 0xD800) * 0x400 + (low - 0xDC00) + 0x10000)

/-- Reads a numeric escape after `\u`: a pair of surrogates is one character. -/
def numericEscape (s : List Char) : Except Fault (Char × List Char) := do
  let (unit, rest) ← hexUnit s
  if isLowSurrogate unit then .error (.here .loneSurrogate rest)
  else if isHighSurrogate unit then
    match rest with
    | [] => .error (.here .endInString [])
    | '\\' :: rest =>
      match rest with
      | [] => .error (.here .endInString [])
      | 'u' :: rest =>
        let (low, rest) ← hexUnit rest
        if isLowSurrogate low then .ok (ofSurrogates unit low, rest)
        else .error (.here .loneSurrogate rest)
      | rest => .error (.peeked .cutSurrogatePair rest)
    | rest => .error (.peeked .cutSurrogatePair rest)
  else .ok (Char.ofNat unit, rest)

def escape : List Char → Except Fault (Char × List Char)
  | [] => .error (.here .endInString [])
  | c :: rest =>
    match shortEscape? c with
    | some value => .ok (value, rest)
    | none => if c = 'u' then numericEscape rest else .error (.peeked .badEscape (c :: rest))

def skipEscape : List Char → Except Fault (List Char)
  | [] => .error (.here .endInString [])
  | c :: rest =>
    match shortEscape? c with
    | some _ => .ok rest
    | none =>
      if c = 'u' then (hexUnit rest).map (·.2) else .error (.peeked .badEscape (c :: rest))

theorem hexUnit_length {s rest : List Char} {n : Nat} (h : hexUnit s = .ok (n, rest)) :
    rest.length ≤ s.length := by
  unfold hexUnit at h
  split at h
  · cases h
  · split at h
    · cases h
      simp
    · cases h

theorem numericEscape_length {s rest : List Char} {c : Char}
    (h : numericEscape s = .ok (c, rest)) : rest.length ≤ s.length := by
  unfold numericEscape at h
  cases hu : hexUnit s with
  | error => simp [hu, bind, Except.bind] at h
  | ok result =>
    obtain ⟨unit, r⟩ := result
    have hr := hexUnit_length hu
    simp only [hu, bind, Except.bind] at h
    split at h
    · cases h
    · split at h
      · split at h
        · cases h
        · split at h
          · cases h
          · rename_i r'
            cases hl : hexUnit r' with
            | error => simp [hl] at h
            | ok result =>
              obtain ⟨low, r''⟩ := result
              have hr' := hexUnit_length hl
              simp only [hl] at h
              split at h
              · simp only [Except.ok.injEq, Prod.mk.injEq] at h
                rw [← h.2]
                simp only [List.length_cons] at hr
                omega
              · cases h
          · cases h
        · cases h
      · cases h
        exact hr

theorem escape_length {s rest : List Char} {c : Char} (h : escape s = .ok (c, rest)) :
    rest.length < s.length := by
  cases s with
  | nil => cases h
  | cons d r =>
    simp only [escape] at h
    split at h
    · cases h
      simp
    · split at h
      · have := numericEscape_length h
        simp only [List.length_cons]
        omega
      · cases h

theorem skipEscape_length {s rest : List Char} (h : skipEscape s = .ok rest) :
    rest.length < s.length := by
  cases s with
  | nil => cases h
  | cons d r =>
    simp only [skipEscape] at h
    split at h
    · cases h
      simp
    · split at h
      · cases hu : hexUnit r with
        | error => simp [hu, Except.map] at h
        | ok result =>
          obtain ⟨_, r'⟩ := result
          have := hexUnit_length hu
          simp only [hu, Except.map, Except.ok.injEq] at h
          subst h
          simp only [List.length_cons]
          omega
      · cases h

/-- Reads a string after its opening quote; `taken` holds what was read, the last character
first. -/
def stringFrom (taken : List Char) (s : List Char) : Except Fault (String × List Char) :=
  match s with
  | [] => .error (.here .endInString [])
  | '"' :: rest => .ok (String.ofList taken.reverse, rest)
  | '\\' :: rest =>
    match h : escape rest with
    | .error fault => .error fault
    | .ok (c, rest') =>
      have := escape_length h
      stringFrom (c :: taken) rest'
  | c :: rest =>
    if c < ' ' then .error (.peeked .controlCharacter (c :: rest))
    else stringFrom (c :: taken) rest
termination_by s.length

def string (s : List Char) : Except Fault (String × List Char) := stringFrom [] s

def skipString (s : List Char) : Except Fault (List Char) :=
  match s with
  | [] => .error (.here .endInString [])
  | '"' :: rest => .ok rest
  | '\\' :: rest =>
    match h : skipEscape rest with
    | .error fault => .error fault
    | .ok rest' =>
      have := skipEscape_length h
      skipString rest'
  | c :: rest =>
    if c < ' ' then .error (.here .controlCharacter (c :: rest)) else skipString rest
termination_by s.length

/-! ## Numbers -/

structure Numeral where
  negative : Bool
  whole : List Char
  fraction : List Char
  exponent : Option (Bool × List Char)
deriving DecidableEq, Repr

/-- Reads one or more digits. `atEnd` is the cause to give when the text ends instead. -/
def digits (atEnd : Cause) (s : List Char) : Except Fault (List Char × List Char) :=
  match s.takeWhile isDigit, s with
  | [], [] => .error (.here atEnd [])
  | [], s => .error (.peeked .badNumber s)
  | ds, s => .ok (ds, s.dropWhile isDigit)

def wholeDigits (atEnd : Cause) (s : List Char) : Except Fault (List Char × List Char) := do
  let (ds, rest) ← digits atEnd s
  if ds.length > 1 ∧ ds.head? = some '0' then .error (.peeked .badNumber (s.drop 1))
  else .ok (ds, rest)

def fraction (atEnd : Cause) : List Char → Except Fault (List Char × List Char)
  | '.' :: rest => digits atEnd rest
  | rest => .ok ([], rest)

def exponentMark (c : Char) : Bool := c == 'e' || c == 'E'

def exponent (atEnd : Cause) : List Char →
    Except Fault (Option (Bool × List Char) × List Char)
  | c :: rest =>
    if exponentMark c then do
      let (negative, rest) :=
        match rest with
        | '-' :: rest => (true, rest)
        | '+' :: rest => (false, rest)
        | rest => (false, rest)
      let (ds, rest) ← digits atEnd rest
      .ok (some (negative, ds), rest)
    else .ok (none, c :: rest)
  | [] => .ok (none, [])

def numeral (atEnd : Cause) (s : List Char) : Except Fault (Numeral × List Char) := do
  let (negative, rest) :=
    match s with
    | '-' :: rest => (true, rest)
    | rest => (false, rest)
  let (whole, rest) ← wholeDigits atEnd rest
  let (fraction, rest) ← fraction atEnd rest
  let (exponent, rest) ← exponent atEnd rest
  .ok (⟨negative, whole, fraction, exponent⟩, rest)

/-- Appends digits to a significand as long as it fits in 64 bits; gives it and the digits that are
left. -/
def absorb (significand : Nat) : List Char → Nat × List Char
  | [] => (significand, [])
  | c :: rest =>
    let next := significand * 10 + (c.toNat - '0'.toNat)
    if next < 0x1_0000_0000_0000_0000 then absorb next rest else (significand, c :: rest)

/-- What an exponent comes to: a number, or more than 31 bits hold, with the digits that follow the
one that showed it. -/
inductive ExponentSize where
  | fits (value : Nat)
  | tooLarge (rest : List Char)

def exponentSize (value : Nat) : List Char → ExponentSize
  | [] => .fits value
  | c :: rest =>
    let next := value * 10 + (c.toNat - '0'.toNat)
    if next < 0x8000_0000 then exponentSize next rest else .tooLarge rest

def signed (negative : Bool) (x : Decimal.Binary64) : Number :=
  .double (if negative then x.negate else x)

/-- A whole number that was spelled without point and exponent; minus zero and what no word holds
are doubles. -/
def wholeNumber (negative : Bool) (n : Nat) : Number :=
  if negative then
    if h : 0 < n ∧ n ≤ 0x8000_0000_0000_0000 then .whole ⟨-n, by omega, by omega⟩
    else signed true ((Decimal.Binary64.ofNat? n).getD .zero)
  else if h : n < 0x1_0000_0000_0000_0000 then .whole ⟨n, by omega, by omega⟩
  else signed false ((Decimal.Binary64.ofNat? n).getD .zero)

def Numeral.value (numeral : Numeral) (rest : List Char) : Except Fault Number :=
  let (significand, dropped) := absorb 0 numeral.whole
  if numeral.fraction = [] ∧ numeral.exponent = none ∧ dropped = [] then
    .ok (wholeNumber numeral.negative significand)
  else
    let (significand, unused) := absorb significand numeral.fraction
    let shift : Int := dropped.length - (numeral.fraction.length - unused.length : Nat)
    let scaled (shift : Int) : Except Fault Number :=
      match Decimal.Binary64.ofDecimal? significand shift with
      | some x => .ok (signed numeral.negative x)
      | none => .error (.here .numberRange rest)
    match numeral.exponent with
    | none => scaled shift
    | some (negative, ds) =>
      match exponentSize 0 ds with
      | .fits n => scaled (if negative then shift - n else shift + n)
      | .tooLarge left =>
        if significand = 0 ∨ negative then .ok (signed numeral.negative .zero)
        else .error (.here .numberRange (left ++ rest))

def number (s : List Char) : Except Fault (Number × List Char) := do
  let (numeral, rest) ← numeral .endInValue s
  let value ← numeral.value rest
  .ok (value, rest)

def skipNumber (s : List Char) : Except Fault (List Char) := (numeral .badNumber s).map (·.2)

def startsNumber (c : Char) : Bool := c == '-' || isDigit c

/-! ## Punctuation -/

/-- What follows inside an open list or object: one more entry, or the text after its end. -/
inductive Turn where
  | entry (rest : List Char)
  | closed (rest : List Char)

def nextItem (first : Bool) (s : List Char) : Except Fault Turn :=
  match skipBlanks s with
  | [] => .error (.peeked .endInList [])
  | ']' :: rest => .ok (.closed rest)
  | c :: rest =>
    if first then .ok (.entry (c :: rest))
    else if c = ',' then
      match skipBlanks rest with
      | [] => .error (.peeked .endInValue [])
      | ']' :: rest => .error (.peeked .trailingComma (']' :: rest))
      | rest => .ok (.entry rest)
    else .error (.peeked .expectedListComma (c :: rest))

def nameQuote : List Char → Except Fault Turn
  | [] => .error (.peeked .endInValue [])
  | '"' :: rest => .ok (.entry rest)
  | '\x7d' :: rest => .error (.peeked .trailingComma ('\x7d' :: rest))
  | rest => .error (.peeked .keyNotString rest)

def nextMember (first : Bool) (s : List Char) : Except Fault Turn :=
  match skipBlanks s with
  | [] => .error (.peeked .endInObject [])
  | '\x7d' :: rest => .ok (.closed rest)
  | c :: rest =>
    if first then nameQuote (c :: rest)
    else if c = ',' then nameQuote (skipBlanks rest)
    else .error (.peeked .expectedObjectComma (c :: rest))

def colon (s : List Char) : Except Fault (List Char) :=
  match skipBlanks s with
  | [] => .error (.peeked .endInObject [])
  | ':' :: rest => .ok rest
  | rest => .error (.peeked .expectedColon rest)

def closeList (s : List Char) : Except Fault (List Char) :=
  match skipBlanks s with
  | [] => .error (.peeked .endInList [])
  | ']' :: rest => .ok rest
  | ',' :: rest =>
    match skipBlanks rest with
    | ']' :: rest => .error (.peeked .trailingComma (']' :: rest))
    | rest => .error (.peeked .trailingText rest)
  | rest => .error (.peeked .trailingText rest)

def endOfText (s : List Char) : Except Fault Unit :=
  match skipBlanks s with
  | [] => .ok ()
  | rest => .error (.peeked .trailingText rest)

end RichText.Json
