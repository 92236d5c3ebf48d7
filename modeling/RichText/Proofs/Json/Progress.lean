import RichText.Json.Reader
import RichText.Json.Skip

/-!
# Words that are read

Strings and numbers that can be read can also be passed over, with the same text left, which is
shorter (`string_ok`, `number_ok`). What the readers of punctuation found is told from the
characters they met.
-/
namespace RichText.Json

theorem bind_eq_ok {ε α β : Type} {x : Except ε α} {next : α → Except ε β} {b : β}
    (done : x >>= next = .ok b) : ∃ a, x = .ok a ∧ next a = .ok b := by
  cases x with
  | error e => cases done
  | ok a => exact ⟨a, rfl, done⟩

/-! ## Blanks and keywords -/

theorem skipBlanks_length (s : List Char) : (skipBlanks s).length ≤ s.length :=
  (List.dropWhile_sublist _).length_le

theorem skipBlanks_idem (s : List Char) : skipBlanks (skipBlanks s) = skipBlanks s := by
  induction s with
  | nil => rfl
  | cons c s ih =>
      unfold skipBlanks at ih ⊢
      by_cases blank : isBlank c
      · rw [List.dropWhile_cons_of_pos blank, ih]
      · rw [List.dropWhile_cons_of_neg blank, List.dropWhile_cons_of_neg blank]

theorem keyword_length {letters s rest : List Char} (read : keyword letters s = .ok rest) :
    rest.length ≤ s.length := by
  induction letters generalizing s with
  | nil =>
      cases read
      exact Nat.le_refl _
  | cons letter letters ih =>
      cases s with
      | nil => cases read
      | cons c s =>
          rw [keyword] at read
          split at read
          · exact Nat.le_succ_of_le (ih read)
          · cases read

/-! ## Strings -/

theorem skipString_of_skipEscape {r rest : List Char} (passed : skipEscape r = .ok rest) :
    skipString ('\\' :: r) = skipString rest := by
  rw [skipString]
  split
  · rename_i failed
    rw [passed] at failed
    cases failed
  · rename_i same
    rw [passed] at same
    cases same
    rfl

theorem skipEscape_of_hexUnit {r rest : List Char} {n : Nat} (read : hexUnit r = .ok (n, rest)) :
    skipEscape ('u' :: r) = .ok rest := by
  change (hexUnit r).map (·.2) = _
  rw [read]
  rfl

theorem numericEscape_ok {s rest : List Char} {c : Char} (read : numericEscape s = .ok (c, rest)) :
    (∃ unit, hexUnit s = .ok (unit, rest)) ∨
      ∃ high low r, hexUnit s = .ok (high, '\\' :: 'u' :: r) ∧ hexUnit r = .ok (low, rest) := by
  unfold numericEscape at read
  cases first : hexUnit s with
  | error => simp [first, bind, Except.bind] at read
  | ok result =>
      obtain ⟨unit, r⟩ := result
      simp only [first, bind, Except.bind] at read
      split at read
      · cases read
      · split at read
        · split at read
          · cases read
          · split at read
            · cases read
            · rename_i r'
              cases second : hexUnit r' with
              | error => simp [second] at read
              | ok result =>
                  obtain ⟨low, r''⟩ := result
                  simp only [second] at read
                  split at read
                  · simp only [Except.ok.injEq, Prod.mk.injEq] at read
                    exact .inr ⟨unit, low, r', rfl, read.2 ▸ second⟩
                  · cases read
            · cases read
          · cases read
        · cases read
          exact .inl ⟨unit, rfl⟩

/-- A pair of surrogates is read at once, but passed over one after the other. -/
theorem skipString_of_escape {r rest : List Char} {c : Char} (read : escape r = .ok (c, rest)) :
    skipString ('\\' :: r) = skipString rest := by
  cases r with
  | nil => cases read
  | cons d r =>
      rw [escape] at read
      split at read
      · rename_i value short
        cases read
        apply skipString_of_skipEscape
        rw [skipEscape, short]
      · split at read
        · rename_i isU
          subst isU
          rcases numericEscape_ok read with ⟨unit, one⟩ | ⟨high, low, r', one, two⟩
          · exact skipString_of_skipEscape (skipEscape_of_hexUnit one)
          · rw [skipString_of_skipEscape (skipEscape_of_hexUnit one),
              skipString_of_skipEscape (skipEscape_of_hexUnit two)]
        · cases read

theorem stringFrom_ok {taken s rest : List Char} {text : String}
    (read : stringFrom taken s = .ok (text, rest)) :
    skipString s = .ok rest ∧ rest.length < s.length := by
  fun_induction stringFrom taken s with
  | case1 => cases read
  | case2 taken rest' =>
      cases read
      exact ⟨by rw [skipString], Nat.lt_succ_self _⟩
  | case3 => cases read
  | case4 taken r c r' escaped shorter ih =>
      obtain ⟨passed, less⟩ := ih read
      refine ⟨?_, by rw [List.length_cons]; omega⟩
      rw [skipString_of_escape escaped, passed]
  | case5 => cases read
  | case6 taken c r quote backslash visible ih =>
      obtain ⟨passed, less⟩ := ih read
      refine ⟨?_, Nat.lt_succ_of_lt less⟩
      rw [skipString, if_neg visible, passed]
      · exact quote
      · exact backslash

theorem string_ok {s rest : List Char} {text : String} (read : string s = .ok (text, rest)) :
    skipString s = .ok rest ∧ rest.length < s.length :=
  stringFrom_ok read

/-! ## Numbers -/

theorem digits_ok {atEnd : Cause} {s ds rest : List Char} (read : digits atEnd s = .ok (ds, rest))
    (other : Cause) : digits other s = .ok (ds, rest) ∧ rest.length < s.length := by
  have parts :
      (s.takeWhile Text.isDigit).length + (s.dropWhile Text.isDigit).length = s.length := by
    rw [← List.length_append, List.takeWhile_append_dropWhile]
  unfold digits at read ⊢
  split at read
  · cases read
  · cases read
  · rename_i some_digits _
    cases read
    have := List.length_pos_iff.mpr some_digits
    exact ⟨rfl, by omega⟩

theorem wholeDigits_ok {atEnd : Cause} {s ds rest : List Char}
    (read : wholeDigits atEnd s = .ok (ds, rest)) (other : Cause) :
    wholeDigits other s = .ok (ds, rest) ∧ rest.length < s.length := by
  unfold wholeDigits at read ⊢
  obtain ⟨⟨ds', rest'⟩, first, done⟩ := bind_eq_ok read
  obtain ⟨same, less⟩ := digits_ok first other
  rw [same]
  refine ⟨done, ?_⟩
  change (if _ then _ else _) = _ at done
  split at done
  · cases done
  · cases done
    exact less

theorem fraction_ok {atEnd : Cause} {s ds rest : List Char}
    (read : fraction atEnd s = .ok (ds, rest)) (other : Cause) :
    fraction other s = .ok (ds, rest) ∧ rest.length ≤ s.length := by
  unfold fraction at read ⊢
  split at read
  · obtain ⟨same, less⟩ := digits_ok read other
    exact ⟨same, Nat.le_succ_of_le (Nat.le_of_lt less)⟩
  · rename_i noPoint
    cases read
    exact ⟨rfl, Nat.le_refl _⟩

theorem signedDigits_ok {atEnd : Cause} {s rest : List Char} {negative : Bool}
    {e : Option (Bool × List Char)}
    (read : (digits atEnd s >>= fun x => .ok (some (negative, x.1), x.2)) = .ok (e, rest))
    (other : Cause) :
    (digits other s >>= fun x => .ok (some (negative, x.1), x.2)) = .ok (e, rest) ∧
      rest.length < s.length := by
  obtain ⟨⟨ds, t⟩, first, done⟩ := bind_eq_ok read
  obtain ⟨same, less⟩ := digits_ok first other
  cases done
  rw [same]
  exact ⟨rfl, less⟩

theorem exponent_ok {atEnd : Cause} {s rest : List Char} {e : Option (Bool × List Char)}
    (read : exponent atEnd s = .ok (e, rest)) (other : Cause) :
    exponent other s = .ok (e, rest) ∧ rest.length ≤ s.length := by
  cases s with
  | nil =>
      cases read
      exact ⟨rfl, Nat.le_refl _⟩
  | cons c s =>
      dsimp only [exponent] at read ⊢
      by_cases mark : exponentMark c
      · rw [if_pos mark] at read ⊢
        split at read
        all_goals
          obtain ⟨same, less⟩ := signedDigits_ok read other
          refine ⟨same, ?_⟩
          simp only [List.length_cons] at less ⊢
          omega
      · rw [if_neg mark] at read ⊢
        cases read
        exact ⟨rfl, Nat.le_refl _⟩

theorem numeral_ok {atEnd : Cause} {s rest : List Char} {n : Numeral}
    (read : numeral atEnd s = .ok (n, rest)) (other : Cause) :
    numeral other s = .ok (n, rest) ∧ rest.length < s.length := by
  unfold numeral at read ⊢
  split at read
  rename_i signed negative t sign
  have shorter : t.length ≤ s.length := by
    split at sign <;> cases sign <;> simp
  obtain ⟨⟨whole, t₁⟩, first, read⟩ := bind_eq_ok read
  obtain ⟨⟨fraction, t₂⟩, second, read⟩ := bind_eq_ok read
  obtain ⟨⟨exponent, t₃⟩, third, done⟩ := bind_eq_ok read
  obtain ⟨same₁, less₁⟩ := wholeDigits_ok first other
  obtain ⟨same₂, less₂⟩ := fraction_ok second other
  obtain ⟨same₃, less₃⟩ := exponent_ok third other
  cases done
  refine ⟨?_, by omega⟩
  simp only [same₁, same₂, same₃, bind, Except.bind]

theorem number_ok {s rest : List Char} {n : Number} (read : number s = .ok (n, rest)) :
    skipNumber s = .ok rest ∧ rest.length < s.length := by
  obtain ⟨⟨spelled, rest'⟩, first, done⟩ := bind_eq_ok read
  obtain ⟨_, -, same⟩ := bind_eq_ok done
  cases same
  obtain ⟨same, less⟩ := numeral_ok first .badNumber
  refine ⟨?_, less⟩
  rw [skipNumber, same]
  rfl

/-! ## Punctuation -/

theorem nextItem_closed {first : Bool} {s rest : List Char}
    (next : nextItem first s = .ok (.closed rest)) : skipBlanks s = ']' :: rest := by
  unfold nextItem at next
  split at next
  · cases next
  · rename_i start
    cases next
    exact start
  · split at next
    · cases next
    · split at next
      · split at next <;> cases next
      · cases next

theorem nextItem_entry {first : Bool} {s t : List Char}
    (next : nextItem first s = .ok (.entry t)) :
    (∃ c r, t = c :: r ∧ c ≠ ']') ∧
      if first then skipBlanks s = t else ∃ r, skipBlanks s = ',' :: r ∧ skipBlanks r = t := by
  unfold nextItem at next
  split at next
  · cases next
  · cases next
  · rename_i c r notEnd start
    split at next
    · rename_i isFirst
      cases next
      exact ⟨⟨c, r, rfl, notEnd⟩, by rw [if_pos isFirst, start]⟩
    · rename_i notFirst
      split at next
      · rename_i isComma
        subst isComma
        split at next
        · cases next
        · cases next
        · rename_i notEmpty notClosed
          cases next
          refine ⟨?_, by rw [if_neg notFirst]; exact ⟨r, start, rfl⟩⟩
          cases item : skipBlanks r with
          | nil => exact absurd item notEmpty
          | cons d r' =>
              refine ⟨d, r', rfl, ?_⟩
              rintro rfl
              exact notClosed r' item
      · cases next

theorem nameQuote_ok {s : List Char} {turn : Turn} (read : nameQuote s = .ok turn) :
    ∃ rest, turn = .entry rest ∧ s = '"' :: rest := by
  unfold nameQuote at read
  split at read
  · cases read
  · cases read
    exact ⟨_, rfl, rfl⟩
  · cases read
  · cases read

theorem nextMember_closed {first : Bool} {s rest : List Char}
    (next : nextMember first s = .ok (.closed rest)) : skipBlanks s = '\x7d' :: rest := by
  unfold nextMember at next
  split at next
  · cases next
  · rename_i start
    cases next
    exact start
  · split at next
    · obtain ⟨_, same, -⟩ := nameQuote_ok next
      cases same
    · split at next
      · obtain ⟨_, same, -⟩ := nameQuote_ok next
        cases same
      · cases next

theorem nextMember_entry {first : Bool} {s t : List Char}
    (next : nextMember first s = .ok (.entry t)) :
    if first then skipBlanks s = '"' :: t
    else ∃ r, skipBlanks s = ',' :: r ∧ skipBlanks r = '"' :: t := by
  unfold nextMember at next
  split at next
  · cases next
  · cases next
  · rename_i c r notEnd start
    split at next
    · rename_i isFirst
      obtain ⟨_, same, quoted⟩ := nameQuote_ok next
      cases same
      rw [if_pos isFirst, start, quoted]
    · rename_i notFirst
      split at next
      · rename_i isComma
        subst isComma
        obtain ⟨_, same, quoted⟩ := nameQuote_ok next
        cases same
        rw [if_neg notFirst]
        exact ⟨r, start, quoted⟩
      · cases next

theorem colon_ok {s rest : List Char} (read : colon s = .ok rest) : skipBlanks s = ':' :: rest := by
  unfold colon at read
  split at read
  · cases read
  · rename_i start
    cases read
    exact start
  · cases read

theorem length_of_skipBlanks {s t : List Char} {c : Char} (start : skipBlanks s = c :: t) :
    t.length < s.length := by
  have shorter := skipBlanks_length s
  rw [start, List.length_cons] at shorter
  omega

theorem nextItem_length {first : Bool} {s t : List Char}
    (next : nextItem first s = .ok (.entry t)) : t.length ≤ s.length := by
  obtain ⟨-, place⟩ := nextItem_entry next
  split at place
  · rw [← place]
    exact skipBlanks_length s
  · obtain ⟨r, start, rfl⟩ := place
    have := skipBlanks_length r
    have := length_of_skipBlanks start
    omega

theorem nextMember_length {first : Bool} {s t : List Char}
    (next : nextMember first s = .ok (.entry t)) : t.length < s.length := by
  have place := nextMember_entry next
  split at place
  · exact length_of_skipBlanks place
  · obtain ⟨r, start, quoted⟩ := place
    have := length_of_skipBlanks start
    have := length_of_skipBlanks quoted
    omega

end RichText.Json
