import Mathlib.Data.List.Induction
import Mathlib.Data.List.TakeWhile
import RichText.Json.Fields
import RichText.Proofs.Json.Words

/-!
# Whole numbers of fields

A field is read as a whole number exactly if it is one or spells one that fits a word
(`Fields.natural?_tells`). The spellings of a number are its decimal digits behind any zeros, which are
all the digits of that value (`Text.numeral_iff`), with or without a plus sign and between blanks.
-/
namespace RichText

namespace Text

/-! ## Numerals -/

/-- The ways to write a number in decimal digits: its own digits behind any number of zeros. -/
def Numeral (digits : List Char) (n : Nat) : Prop :=
  ∃ zeros, digits = List.replicate zeros '0' ++ toDigits n

theorem numeral_append {digits : List Char} {m d : Nat} (numeral : Numeral digits m)
    (small : d < 10) : Numeral (digits ++ toDigits d) (10 * m + d) := by
  obtain ⟨zeros, rfl⟩ := numeral
  cases m with
  | zero =>
      -- The digit that writes zero becomes one more of the zeros in front.
      refine ⟨zeros + 1, ?_⟩
      rw [List.replicate_succ', Nat.mul_zero, Nat.zero_add]
      rfl
  | succ m =>
      refine ⟨zeros, ?_⟩
      rw [List.append_assoc, toDigits, toDigits,
        Nat.toDigits_append_toDigits (by decide) m.succ_pos small, toDigits]

theorem exists_digitChar {d : Char} (digit : isDigit d = true) : ∃ k < 10, d = Nat.digitChar k := by
  have single : ∀ k < 10, Char.ofNat (k + 48) = Nat.digitChar k := by decide
  rw [isDigit, Bool.and_eq_true, decide_eq_true_eq, decide_eq_true_eq] at digit
  have low : 48 ≤ d.toNat := digit.1
  have high : d.toNat ≤ 57 := digit.2
  refine ⟨d.toNat - 48, by omega, ?_⟩
  rw [← single _ (by omega), Nat.sub_add_cancel low, Char.ofNat_toNat]

theorem numeral_iff {digits : List Char} {n : Nat} :
    Numeral digits n ↔
      digits ≠ [] ∧ (∀ d ∈ digits, isDigit d = true) ∧ ofDigits digits = n := by
  constructor
  · rintro ⟨zeros, rfl⟩
    refine ⟨List.append_ne_nil_of_right_ne_nil _ (Json.toDigits_ne_nil n), ?_, ?_⟩
    · intro d member
      rcases List.mem_append.mp member with zero | own
      · rw [List.eq_of_mem_replicate zero]
        rfl
      · exact Json.isDigit_of_mem_toDigits own
    · rw [ofDigits, Nat.ofDigitChars_append, Nat.ofDigitChars_replicate_zero, Nat.mul_zero]
      exact ofDigits_toDigits n
  · rintro ⟨nonempty, ascii, rfl⟩
    induction digits using List.reverseRecOn with
    | nil => exact absurd rfl nonempty
    | append_singleton front d ih =>
        rw [List.forall_mem_append] at ascii
        obtain ⟨k, small, rfl⟩ := exists_digitChar (ascii.2 d List.mem_cons_self)
        have single : [Nat.digitChar k] = toDigits k := (Nat.toDigits_of_lt_base small).symm
        have value : ofDigits (front ++ [Nat.digitChar k]) = 10 * ofDigits front + k := by
          rw [ofDigits, Nat.ofDigitChars_append, Nat.ofDigitChars_cons, Nat.ofDigitChars_nil]
          exact congrArg _ (Nat.toNat_digitChar_sub_48_of_lt_ten small)
        rw [value, single]
        by_cases alone : front = []
        · subst alone
          exact ⟨0, congrArg toDigits (Nat.zero_add k).symm⟩
        · exact numeral_append (ih alone ascii.1) small

/-! ## Trimming -/

theorem trimBy_parts (p : Char → Bool) (cs : List Char) :
    ∃ front back, cs = front ++ trimBy p cs ++ back ∧ ∀ c ∈ front ++ back, p c = true := by
  refine ⟨cs.takeWhile p, ((cs.dropWhile p).reverse.takeWhile p).reverse, ?_, ?_⟩
  · rw [trimBy, List.append_assoc, ← List.reverse_append, List.takeWhile_append_dropWhile,
      List.reverse_reverse, List.takeWhile_append_dropWhile]
  · intro c member
    rcases List.mem_append.mp member with front | back
    · exact List.mem_takeWhile_imp front
    · exact List.mem_takeWhile_imp (List.mem_reverse.mp back)

theorem trimBy_enclosed {p : Char → Bool} {front core back : List Char}
    (blank : ∀ c ∈ front ++ back, p c = true) (nonempty : core ≠ [])
    (solid : ∀ c ∈ core, p c = false) : trimBy p (front ++ core ++ back) = core := by
  rw [List.forall_mem_append] at blank
  have gone : back.reverse.dropWhile p = [] :=
    List.dropWhile_eq_nil_iff.mpr fun c member => blank.2 c (List.mem_reverse.mp member)
  rw [trimBy_append blank.1 nonempty (fun c first => solid c (List.mem_of_head? first))
    (fun c last => solid c (List.mem_of_getLast? last)), gone, List.reverse_nil, List.append_nil]

theorem isBlank_of_isDigit {d : Char} (digit : isDigit d = true) : isBlank d = false := by
  obtain ⟨k, small, rfl⟩ := exists_digitChar digit
  exact (by decide : ∀ k < 10, isBlank (Nat.digitChar k) = false) k small

end Text

namespace Json

/-! ## Spelled numbers -/

def Signs (sign : List Char) : Prop := sign = [] ∨ sign = ['+']

def word? (digits : List Char) : Option UInt64 :=
  if digits.isEmpty ∨ !digits.all Text.isDigit then none
  else if Text.ofDigits digits < UInt64.size then some (UInt64.ofNat (Text.ofDigits digits))
  else none

theorem word?_eq_some {digits : List Char} {n : UInt64} :
    word? digits = some n ↔ Text.Numeral digits n.toNat := by
  rw [Text.numeral_iff, word?]
  by_cases ascii : digits ≠ [] ∧ ∀ d ∈ digits, Text.isDigit d = true
  · have passes : ¬(digits.isEmpty = true ∨ (!digits.all Text.isDigit) = true) := by
      simpa using ascii
    rw [if_neg passes]
    split
    case isTrue fits =>
      constructor
      · rintro ⟨⟩
        exact ⟨ascii.1, ascii.2, (UInt64.toNat_ofNat_of_lt' fits).symm⟩
      · rintro ⟨-, -, value⟩
        rw [value, UInt64.ofNat_toNat]
    case isFalse large =>
      refine iff_of_false nofun ?_
      rintro ⟨-, -, value⟩
      exact large (value ▸ n.toNat_lt)
  · have fails : digits.isEmpty = true ∨ (!digits.all Text.isDigit) = true := by
      simpa [or_iff_not_imp_left] using ascii
    rw [if_pos fails]
    exact iff_of_false nofun fun numeral => ascii ⟨numeral.1, numeral.2.1⟩

theorem natural?_plus (digits : List Char) : natural? ('+' :: digits) = word? digits := rfl

theorem natural?_of_head {digits : List Char} (unsigned : digits.head? ≠ some '+') :
    natural? digits = word? digits := by
  simp only [natural?]
  split
  · exact absurd rfl unsigned
  · rfl

theorem natural?_eq_some {cs : List Char} {n : UInt64} :
    natural? cs = some n ↔
      ∃ sign digits, cs = sign ++ digits ∧ Signs sign ∧ Text.Numeral digits n.toNat := by
  constructor
  · intro read
    by_cases plus : cs.head? = some '+'
    · obtain ⟨digits, rfl⟩ := List.head?_eq_some_iff.mp plus
      rw [natural?_plus, word?_eq_some] at read
      exact ⟨['+'], digits, rfl, .inr rfl, read⟩
    · rw [natural?_of_head plus, word?_eq_some] at read
      exact ⟨[], cs, rfl, .inl rfl, read⟩
  · rintro ⟨sign, digits, rfl, rfl | rfl, numeral⟩
    · have unsigned : digits.head? ≠ some '+' := by
        intro plus
        have digit := (Text.numeral_iff.mp numeral).2.1 '+' (List.mem_of_head? plus)
        cases digit
      rw [List.nil_append, natural?_of_head unsigned, word?_eq_some.mpr numeral]
    · exact word?_eq_some.mpr numeral

/-! ## Fields -/

/-- A value tells a number: it is that number, or a text of blanks, perhaps a plus sign, digits that
write the number, and blanks. -/
inductive Value.Tells : Value → Nat → Prop
  | number {w : Whole} {n : Nat} (same : w.val = n) : Tells (.number (.whole w)) n
  | text {s : String} {front sign digits back : List Char} {n : Nat}
      (parts : s.toList = front ++ (sign ++ digits) ++ back)
      (blank : ∀ c ∈ front ++ back, Text.isBlank c = true) (signs : Signs sign)
      (numeral : Text.Numeral digits n) : Tells (.string s) n

theorem Signs.solid {sign digits : List Char} {n : Nat} (signs : Signs sign)
    (numeral : Text.Numeral digits n) (c : Char) (member : c ∈ sign ++ digits) :
    Text.isBlank c = false := by
  rcases List.mem_append.mp member with inSign | inDigits
  · rcases signs with rfl | rfl
    · cases inSign
    · rw [List.mem_singleton.mp inSign]
      rfl
  · exact Text.isBlank_of_isDigit ((Text.numeral_iff.mp numeral).2.1 c inDigits)

theorem tells_string {s : String} {n : UInt64} :
    natural? (Text.trim s.toList) = some n ↔ (Value.string s).Tells n.toNat := by
  rw [natural?_eq_some]
  constructor
  · rintro ⟨sign, digits, trimmed, signs, numeral⟩
    obtain ⟨front, back, parts, blank⟩ := Text.trimBy_parts Text.isBlank s.toList
    rw [← Text.trim, trimmed] at parts
    exact .text parts blank signs numeral
  · intro tells
    cases tells with
    | @text _ front sign digits back _ parts blank signs numeral =>
        have solid := signs.solid numeral
        have nonempty := (Text.numeral_iff.mp numeral).1
        refine ⟨sign, digits, ?_, signs, numeral⟩
        rw [parts, Text.trim]
        exact Text.trimBy_enclosed blank (List.append_ne_nil_of_right_ne_nil _ nonempty) solid

namespace Fields

variable (data : Fields) (name : String)

theorem natural?_eq_some_iff (n : UInt64) :
    data.natural? name = some n ↔ ∃ v, data.lookup name = some v ∧ v.Tells n.toNat := by
  unfold natural?
  split
  case h_1 w given =>
    rw [Whole.toUInt64?_eq_some, given]
    constructor
    · exact fun same => ⟨_, rfl, .number same⟩
    · rintro ⟨_, ⟨⟩, tells⟩
      cases tells with
      | number same => exact same
  case h_2 s given =>
    rw [tells_string, given]
    constructor
    · exact fun tells => ⟨_, rfl, tells⟩
    · rintro ⟨_, ⟨⟩, tells⟩
      exact tells
  case h_3 notNumber notText =>
    refine iff_of_false nofun ?_
    rintro ⟨_, given, tells⟩
    cases tells with
    | number => exact notNumber _ given
    | text => exact notText _ given

theorem natural?_tells :
    (∀ n : UInt64, data.natural? name = some n ↔
        ∃ v, data.lookup name = some v ∧ v.Tells n.toNat) ∧
      (data.natural? name = none ↔
        ∀ v n, data.lookup name = some v → v.Tells n → UInt64.size ≤ n) := by
  refine ⟨natural?_eq_some_iff data name, ?_, ?_⟩
  · intro unread v n given tells
    by_contra fits
    have small := Nat.lt_of_not_le fits
    have read := (natural?_eq_some_iff data name (UInt64.ofNat n)).mpr
      ⟨v, given, by rwa [UInt64.toNat_ofNat_of_lt' small]⟩
    rw [unread] at read
    cases read
  · intro large
    rw [Option.eq_none_iff_forall_ne_some]
    intro n read
    obtain ⟨v, given, tells⟩ := (natural?_eq_some_iff data name n).mp read
    exact Nat.not_lt.mpr (large v _ given tells) n.toNat_lt

example : natural? (.ofMembers [("size", .string " +007\u3000")]) "size" = some 7 := by decide

example : natural? (.ofMembers [("size", .string "018446744073709551616")]) "size" = none := by
  decide

end Fields

end Json

end RichText
