import RichText.Json.Lexeme
import RichText.Json.Writer

/-!
# Written words

Strings and whole numbers, once written, read back as what they were, and what follows them is left
unread (`string_writeTail`, `number_write`).
-/
namespace RichText.Json
open Text (isDigit toDigits hexDigit hexDigit? hexDigit?_hexDigit)

/-! ## Strings -/

theorem utf8Size_hexDigit : ∀ d < 16, (hexDigit d).utf8Size = 1 := by decide

theorem hexUnit_hexDigits {n : Nat} (small : n < 256) (rest : List Char) :
    hexUnit ('0' :: '0' :: hexDigit (n / 16) :: hexDigit (n % 16) :: rest) = .ok (n, rest) := by
  have high : n / 16 < 16 := by omega
  have low : n % 16 < 16 := by omega
  have bytes : Text.byteLength ['0', '0', hexDigit (n / 16), hexDigit (n % 16)] = 4 := by
    simp only [Text.byteLength, List.foldl_cons, List.foldl_nil, utf8Size_hexDigit _ high,
      utf8Size_hexDigit _ low]
    rfl
  have zero : hexDigit? '0' = some 0 := rfl
  have value : ((0 * 16 + 0) * 16 + n / 16) * 16 + n % 16 = n := by omega
  simp only [hexUnit, List.take_succ_cons, List.take_zero, List.drop_succ_cons, List.drop_zero,
    bytes, Nat.lt_irrefl, if_false, List.mapM_cons, List.mapM_nil, zero,
    hexDigit?_hexDigit _ high, hexDigit?_hexDigit _ low, bind, Option.bind, pure, value]

theorem escape_control {c : Char} (control : c < ' ') (rest : List Char) :
    escape ('u' :: '0' :: '0' :: hexDigit (c.toNat / 16) :: hexDigit (c.toNat % 16) :: rest) =
      .ok (c, rest) := by
  have small : c.toNat < 32 := control
  have notLow : isLowSurrogate c.toNat = false := by
    simp only [isLowSurrogate, Bool.and_eq_false_iff, decide_eq_false_iff_not]
    omega
  have notHigh : isHighSurrogate c.toNat = false := by
    simp only [isHighSurrogate, Bool.and_eq_false_iff, decide_eq_false_iff_not]
    omega
  change numericEscape _ = _
  simp only [numericEscape, hexUnit_hexDigits (by omega : c.toNat < 256), bind, Except.bind,
    notLow, notHigh, Bool.false_eq_true, if_false, Char.ofNat_toNat]

theorem stringFrom_escape {r rest : List Char} {c : Char} (escaped : escape r = .ok (c, rest))
    (taken : List Char) : stringFrom taken ('\\' :: r) = stringFrom (c :: taken) rest := by
  rw [stringFrom]
  split
  · rename_i fault failed
    rw [escaped] at failed
    cases failed
  · rename_i d r' read
    rw [escaped] at read
    cases read
    rfl

theorem stringFrom_writeChar (c : Char) (taken rest : List Char) :
    stringFrom taken (writeChar c ++ rest) = stringFrom (c :: taken) rest := by
  unfold writeChar
  -- Seven characters have an escape of one letter.
  iterate 7
    split
    · subst_vars
      exact stringFrom_escape rfl taken
  split
  · rename_i control
    exact stringFrom_escape (escape_control control rest) taken
  · rename_i quote backslash _ _ _ _ _ control
    rw [List.singleton_append, stringFrom]
    · rw [if_neg control]
    · exact quote
    · exact backslash

theorem stringFrom_write (cs taken rest : List Char) :
    stringFrom taken (cs.flatMap writeChar ++ '"' :: rest) =
      .ok (String.ofList (taken.reverse ++ cs), rest) := by
  induction cs generalizing taken with
  | nil => rw [List.flatMap_nil, List.nil_append, stringFrom, List.append_nil]
  | cons c cs ih =>
      rw [List.flatMap_cons, List.append_assoc, stringFrom_writeChar, ih, List.reverse_cons,
        List.append_assoc, List.singleton_append]

def writeTail (s : String) : List Char := s.toList.flatMap writeChar ++ ['"']

theorem string_writeTail (s : String) (rest : List Char) :
    string (writeTail s ++ rest) = .ok (s, rest) := by
  rw [string, writeTail, List.append_assoc, List.singleton_append, stringFrom_write,
    List.reverse_nil, List.nil_append, String.ofList_toList]

/-! ## Whole numbers -/

/-- What may follow a value in a written text: its end, a comma, or a closing bracket. -/
def Ends (rest : List Char) : Prop :=
  ∀ c, rest.head? = some c → c = ',' ∨ c = ']' ∨ c = '\x7d'

theorem ends_cons {c : Char} (rest : List Char) (closes : c = ',' ∨ c = ']' ∨ c = '\x7d') :
    Ends (c :: rest) := by
  intro d head
  cases head
  exact closes

theorem Ends.not_isDigit {c : Char} {rest : List Char} (ends : Ends (c :: rest)) :
    isDigit c = false := by
  rcases ends c rfl with rfl | rfl | rfl <;> rfl

theorem Ends.takeWhile_isDigit {rest : List Char} (ends : Ends rest) :
    rest.takeWhile isDigit = [] := by
  cases rest with
  | nil => rfl
  | cons c rest => rw [List.takeWhile_cons_of_neg (by simp [ends.not_isDigit])]

theorem Ends.dropWhile_isDigit {rest : List Char} (ends : Ends rest) :
    rest.dropWhile isDigit = rest := by
  cases rest with
  | nil => rfl
  | cons c rest => rw [List.dropWhile_cons_of_neg (by simp [ends.not_isDigit])]

theorem isDigit_of_mem_toDigits {n : Nat} {c : Char} (member : c ∈ toDigits n) :
    isDigit c = true := by
  have digit := Nat.isDigit_of_mem_toDigits (by decide) (by decide) member
  simpa [isDigit, Char.isDigit, Char.le_def] using digit

theorem toDigits_ne_nil (n : Nat) : toDigits n ≠ [] := Nat.toDigits_ne_nil

/-- Only zero is written with a leading zero. -/
theorem head?_toDigits {n : Nat} (positive : 0 < n) : (toDigits n).head? ≠ some '0' := by
  induction n using Nat.strongRecOn with
  | ind n ih =>
      by_cases single : n < 10
      · have digits : ∀ d < 10, 0 < d → Nat.digitChar d ≠ '0' := by decide
        rw [toDigits, Nat.toDigits_of_lt_base single]
        intro head
        exact digits n single positive (Option.some.inj head)
      · have front := ih (n / 10) (by omega) (by omega)
        obtain ⟨d, ds, same⟩ := List.exists_cons_of_ne_nil (toDigits_ne_nil (n / 10))
        rw [toDigits] at same front ⊢
        rw [Nat.toDigits_of_base_le (by decide) (by omega), same]
        rwa [same] at front

theorem digits_append {ds rest : List Char} (isDigits : ∀ c ∈ ds, isDigit c = true)
    (nonempty : ds ≠ []) (ends : Ends rest) (atEnd : Cause) :
    digits atEnd (ds ++ rest) = .ok (ds, rest) := by
  have taken : (ds ++ rest).takeWhile isDigit = ds := by
    rw [List.takeWhile_append_of_pos isDigits, ends.takeWhile_isDigit, List.append_nil]
  have left : (ds ++ rest).dropWhile isDigit = rest := by
    rw [List.dropWhile_append_of_pos isDigits, ends.dropWhile_isDigit]
  unfold digits
  rw [taken]
  cases ds with
  | nil => exact absurd rfl nonempty
  | cons d ds =>
      change Except.ok (d :: ds, _) = _
      rw [left]

theorem wholeDigits_toDigits (n : Nat) {rest : List Char} (ends : Ends rest) (atEnd : Cause) :
    wholeDigits atEnd (toDigits n ++ rest) = .ok (toDigits n, rest) := by
  have isDigits : ∀ c ∈ toDigits n, isDigit c = true := fun c => isDigit_of_mem_toDigits
  have read := digits_append isDigits (toDigits_ne_nil n) ends atEnd
  have alone : ¬ ((toDigits n).length > 1 ∧ (toDigits n).head? = some '0') := by
    rintro ⟨long, zero⟩
    rcases Nat.eq_zero_or_pos n with rfl | positive
    · exact absurd long (by decide)
    · exact head?_toDigits positive zero
  rw [wholeDigits, read]
  exact if_neg alone

theorem fraction_ends {rest : List Char} (ends : Ends rest) (atEnd : Cause) :
    fraction atEnd rest = .ok ([], rest) := by
  cases rest with
  | nil => rfl
  | cons c rest => rcases ends c rfl with rfl | rfl | rfl <;> rfl

theorem exponent_ends {rest : List Char} (ends : Ends rest) (atEnd : Cause) :
    exponent atEnd rest = .ok (none, rest) := by
  cases rest with
  | nil => rfl
  | cons c rest => rcases ends c rfl with rfl | rfl | rfl <;> rfl

theorem numeral_unsigned {c : Char} {s ds rest : List Char} {atEnd : Cause} (unsigned : c ≠ '-')
    (whole : wholeDigits atEnd (c :: s) = .ok (ds, rest)) (ends : Ends rest) :
    numeral atEnd (c :: s) = .ok (⟨false, ds, [], none⟩, rest) := by
  have sign : ∀ t, c :: s ≠ '-' :: t := fun t same => unsigned (List.cons.inj same).1
  unfold numeral
  split
  rename_i negative t same
  split at same
  · rename_i minus
    exact absurd minus (sign _)
  · cases same
    simp only [whole, bind, Except.bind, fraction_ends ends, exponent_ends ends]

theorem numeral_write (w : Whole) {rest : List Char} (ends : Ends rest) (atEnd : Cause) :
    numeral atEnd (w.write ++ rest) =
      .ok (⟨decide (w.val < 0), toDigits w.val.natAbs, [], none⟩, rest) := by
  have whole := wholeDigits_toDigits w.val.natAbs ends atEnd
  unfold Whole.write
  by_cases negative : w.val < 0
  · simp only [numeral, negative, if_true, List.cons_append, whole, bind, Except.bind,
      fraction_ends ends, exponent_ends ends, decide_true]
  · -- The text starts with a digit, and so with no sign.
    obtain ⟨d, ds, same⟩ := List.exists_cons_of_ne_nil (toDigits_ne_nil w.val.natAbs)
    have digit : isDigit d = true := isDigit_of_mem_toDigits (same ▸ List.mem_cons_self)
    have unsigned : d ≠ '-' := by
      rintro rfl
      cases digit
    rw [same] at whole ⊢
    rw [List.cons_append] at whole
    simp only [negative, if_false, decide_false, List.cons_append]
    exact numeral_unsigned unsigned whole ends

/-- Digits of a number of 64 bits are all taken into the significand. -/
theorem absorb_digits (ds : List Char) (n : Nat)
    (fits : Nat.ofDigitChars 10 ds n < 0x1_0000_0000_0000_0000) :
    absorb n ds = (Nat.ofDigitChars 10 ds n, []) := by
  induction ds generalizing n with
  | nil => rfl
  | cons d ds ih =>
      rw [Nat.ofDigitChars_cons, Nat.mul_comm] at fits ⊢
      have below : n * 10 + (d.toNat - '0'.toNat) < 0x1_0000_0000_0000_0000 := by
        rw [Nat.ofDigitChars_eq_ofDigitChars_zero] at fits
        have grows := Nat.le_mul_of_pos_left (n * 10 + (d.toNat - '0'.toNat))
          (Nat.pow_pos (by decide) : 0 < 10 ^ ds.length)
        omega
      rw [absorb]
      simp only [below, if_true]
      exact ih _ fits

theorem wholeNumber_natAbs (w : Whole) :
    wholeNumber (decide (w.val < 0)) w.val.natAbs = .whole w := by
  have lower := w.lower
  have upper := w.upper
  unfold wholeNumber
  by_cases negative : w.val < 0
  · have range : 0 < w.val.natAbs ∧ w.val.natAbs ≤ 0x8000_0000_0000_0000 := by omega
    simp only [negative, decide_true, if_true, range, and_self, dite_true]
    congr 1
    exact Whole.ext (by simp only; omega)
  · have range : w.val.natAbs < 0x1_0000_0000_0000_0000 := by omega
    simp only [negative, decide_false, Bool.false_eq_true, if_false, range, dite_true]
    congr 1
    exact Whole.ext (by simp only; omega)

theorem number_write (w : Whole) {rest : List Char} (ends : Ends rest) :
    number (w.write ++ rest) = .ok (.whole w, rest) := by
  have lower := w.lower
  have upper := w.upper
  have same : Nat.ofDigitChars 10 (toDigits w.val.natAbs) 0 = w.val.natAbs :=
    Text.ofDigits_toDigits w.val.natAbs
  have read := absorb_digits (toDigits w.val.natAbs) 0 (by omega)
  rw [same] at read
  simp only [number, numeral_write w ends, bind, Except.bind, Numeral.value, read, and_self,
    if_true, wholeNumber_natAbs]

end RichText.Json
