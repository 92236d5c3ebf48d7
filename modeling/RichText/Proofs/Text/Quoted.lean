import RichText.Text.Quoted

/-!
# Reading quoted text

A reader for quoted text. Main statement (`unquote?_quote`): it gives every text back. It finds the
closing quotes whatever follows them (`readFrom_encode`).
-/
namespace RichText.Text.Quoted

def shortEscape? : Char → Option Char
  | '0' => some '\x00'
  | 't' => some '\t'
  | 'r' => some '\r'
  | 'n' => some '\n'
  | '\\' => some '\\'
  | '"' => some '"'
  | _ => none

/-- Reads a text up to the closing quotes. Inside an escape by code point, the number that has been
read of it is at hand. -/
def readFrom : Option Nat → List Char → Option (List Char × List Char)
  | _, [] => none
  | some code, '}' :: rest =>
    (readFrom none rest).map fun (cs, rest) => (Char.ofNat code :: cs, rest)
  | some code, c :: rest => (hexDigit? c).bind fun d => readFrom (some (16 * code + d)) rest
  | none, '"' :: rest => some ([], rest)
  | none, '\\' :: 'u' :: '{' :: rest => readFrom (some 0) rest
  | none, '\\' :: c :: rest =>
    (shortEscape? c).bind fun d => (readFrom none rest).map fun (cs, rest) => (d :: cs, rest)
  | none, c :: rest => (readFrom none rest).map fun (cs, rest) => (c :: cs, rest)

def unquote? (s : String) : Option String :=
  match s.toList with
  | '"' :: cs =>
    match readFrom none cs with
    | some (text, []) => some (String.ofList text)
    | _ => none
  | _ => none

theorem readFrom_digit {d : Nat} (small : d < 16) (code : Nat) (rest : List Char) :
    readFrom (some code) (hexDigit d :: rest) = readFrom (some (16 * code + d)) rest := by
  have digit := hexDigit?_hexDigit d small
  rw [readFrom, digit, Option.bind_some]
  intro close
  rw [close] at digit
  cases digit

theorem readFrom_hexDigits (n : Nat) (rest : List Char) :
    readFrom (some 0) (hexDigits n ++ rest) = readFrom (some n) rest := by
  induction n using Nat.strongRecOn generalizing rest with
  | ind n ih =>
      unfold hexDigits at *
      by_cases small : n < 16
      · rw [Nat.toDigits_of_lt_base small]
        exact (readFrom_digit small 0 rest).trans (by rw [Nat.mul_zero, Nat.zero_add])
      · have large : 16 ≤ n := Nat.le_of_not_lt small
        rw [Nat.toDigits_of_base_le (by decide) large, List.append_assoc,
          ih (n / 16) (Nat.div_lt_self (by omega) (by decide)), List.singleton_append]
        exact (readFrom_digit (Nat.mod_lt n (by decide)) _ rest).trans (by rw [Nat.div_add_mod])

theorem readFrom_encodeChar (c : Char) (rest : List Char) :
    readFrom none (encodeChar c ++ rest) =
      (readFrom none rest).map fun (cs, rest) => (c :: cs, rest) := by
  unfold encodeChar
  -- Six characters have an escape of one letter.
  iterate 6
    split
    · subst_vars
      rfl
  split
  · rename_i backslash quote _
    rw [List.singleton_append, readFrom]
    · exact quote
    · exact fun _ same => absurd same backslash
    · exact fun _ _ same => absurd same backslash
  · rw [List.cons_append, List.cons_append, List.cons_append, readFrom, List.append_assoc,
      readFrom_hexDigits, List.singleton_append, readFrom, Char.ofNat_toNat]

theorem readFrom_encode (cs rest : List Char) :
    readFrom none (encode cs ++ '"' :: rest) = some (cs, rest) := by
  induction cs with
  | nil => rfl
  | cons c cs ih =>
      rw [encode, List.flatMap_cons, List.append_assoc, readFrom_encodeChar]
      exact congrArg _ ih

theorem unquote?_quote (s : String) : unquote? (quote s) = some s := by
  have read := readFrom_encode s.toList []
  simp only [unquote?, quote, String.toList_ofList, read, String.ofList_toList]

end RichText.Text.Quoted
