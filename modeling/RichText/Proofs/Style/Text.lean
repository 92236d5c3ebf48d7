import RichText.Proofs.Style.Writes
import RichText.Proofs.Url.Action

/-!
# The text of a style

What can be told from the text of an address, a colour, a property and a style: each is the only one
that has it (`Url.eq_of_text`, `Color.eq_of_text`, `Style.Property.eq_of_text`, `Style.text_inj`).
A comma between properties is told from one in an address because a link comes last.
-/
namespace RichText

/-! ## Pieces of text -/

namespace Text

/-- A mark that a front does not have sets off what follows it, if anything does. -/
theorem append_mark_inj {mark : Char} {xs ys : List Char} {rest rest' : Option (List Char)}
    (absent : mark ∉ xs) (absent' : mark ∉ ys)
    (same : xs ++ rest.elim [] (mark :: ·) = ys ++ rest'.elim [] (mark :: ·)) :
    xs = ys ∧ rest = rest' := by
  have cuts := congrArg (cut? mark) same
  rw [cut?_elim absent, cut?_elim absent'] at cuts
  cases rest with
  | none =>
      cases rest' with
      | none => exact ⟨List.append_cancel_right same, rfl⟩
      | some _ => cases cuts
  | some _ =>
      cases rest' with
      | none => cases cuts
      | some _ =>
          cases cuts
          exact ⟨rfl, rfl⟩

theorem eq_of_hexByte {a b : UInt8} (same : hexByte a = hexByte b) : a = b := by
  have digit : ∀ m n : Fin 16, hexDigit m = hexDigit n → m = n := by decide
  have smallA := a.toNat_lt
  have smallB := b.toNat_lt
  obtain ⟨high, low⟩ : hexDigit (a.toNat / 16) = hexDigit (b.toNat / 16) ∧
      hexDigit (a.toNat % 16) = hexDigit (b.toNat % 16) := by
    simpa [hexByte] using same
  have highs := digit ⟨a.toNat / 16, by omega⟩ ⟨b.toNat / 16, by omega⟩ high
  have lows := digit ⟨a.toNat % 16, by omega⟩ ⟨b.toNat % 16, by omega⟩ low
  rw [Fin.mk.injEq] at highs lows
  exact UInt8.toNat_inj.mp (by omega)

end Text

/-! ## Addresses and colours -/

namespace Url

theorem toList_text_eq (u : Url) :
    u.text.toList = u.scheme.toList ++ (some (u.body.toList ++
      (u.query.map String.toList).elim [] ('?' :: ·) ++
        (u.fragment.map String.toList).elim [] ('#' :: ·))).elim [] (':' :: ·) := by
  unfold text
  cases u.query <;> cases u.fragment <;> simp

theorem eq_of_text {u v : Url} (same : u.text = v.text) : u = v := by
  -- Each mark is the first of its kind behind the mark before it.
  have front (u : Url) : '#' ∉ u.body.toList ++ (u.query.map String.toList).elim [] ('?' :: ·) := by
    have clean := u.mark_not_mem_query
    cases given : u.query with
    | none => simp [u.mark_not_mem_body.2]
    | some q => simp [u.mark_not_mem_body.2, clean q given]
  have lists := congrArg String.toList same
  rw [toList_text_eq, toList_text_eq] at lists
  obtain ⟨schemes, rests⟩ :=
    Text.append_mark_inj u.colon_not_mem_scheme v.colon_not_mem_scheme lists
  obtain ⟨fronts, fragments⟩ := Text.append_mark_inj (front u) (front v) (Option.some.inj rests)
  obtain ⟨bodies, queries⟩ :=
    Text.append_mark_inj u.mark_not_mem_body.1 v.mark_not_mem_body.1 fronts
  have sameList {o o' : Option String} (same : o.map String.toList = o'.map String.toList) :
      o = o' := Option.map_injective (fun _ _ => String.toList_inj.mp) same
  obtain ⟨scheme, body, query, fragment, _, _, _⟩ := u
  obtain ⟨scheme', body', query', fragment', _, _, _⟩ := v
  cases String.toList_inj.mp schemes
  cases String.toList_inj.mp bodies
  cases sameList queries
  cases sameList fragments
  rfl

end Url

namespace Color

theorem eq_of_text {c d : Color} (same : c.text = d.text) : c = d := by
  obtain ⟨r, g, b, a⟩ := c
  obtain ⟨r', g', b', a'⟩ := d
  have digits := String.ofList_injective same
  rw [List.cons.injEq, Color.digits, Color.digits] at digits
  simp only [List.append_assoc] at digits
  obtain ⟨reds, rest⟩ := List.append_inj digits.2 rfl
  obtain ⟨greens, rest⟩ := List.append_inj rest rfl
  obtain ⟨blues, alphas⟩ := List.append_inj rest rfl
  cases Text.eq_of_hexByte reds
  cases Text.eq_of_hexByte greens
  cases Text.eq_of_hexByte blues
  have alpha : a = a' := by
    split at alphas
    · rename_i full
      split at alphas
      · rename_i full'
        exact full.trans full'.symm
      · cases alphas
    · split at alphas
      · cases alphas
      · exact Text.eq_of_hexByte alphas
  rw [alpha]

theorem not_mem_text {c : Char} (noMark : c ≠ '#') (noDigit : ∀ d : Fin 16, Text.hexDigit d ≠ c)
    (color : Color) : c ∉ color.text.toList := by
  have byte (b : UInt8) : c ∉ Text.hexByte b := by
    have small := b.toNat_lt
    have first := noDigit ⟨b.toNat / 16, by omega⟩
    have second := noDigit ⟨b.toNat % 16, by omega⟩
    simp [Text.hexByte, first.symm, second.symm]
  rw [text, String.toList_ofList, digits]
  split <;> simp [byte, noMark]

end Color

/-! ## Properties and styles -/

namespace Style

def Key.start : Key → List Char
  | bold => ['b', 'o']
  | italic => ['i', 't']
  | strikethrough => ['s', 't']
  | monospace => ['m', 'o']
  | foreground => ['f', 'g']
  | background => ['b', 'g']
  | link => ['l', 'i']

theorem Key.eq_of_start {k l : Key} (same : k.start = l.start) : k = l := by
  cases k <;> cases l <;> first | rfl | cases same

namespace Property

theorem starts (p : Property) : p.key.start <+: p.text.toList := by
  cases p with
  | bold | italic | strikethrough | monospace => exact ⟨_, rfl⟩
  | foreground c | background c | link u =>
      rw [text, String.toList_append]
      exact ⟨_, rfl⟩

theorem key_eq_of_text {p q : Property} {rest rest' : List Char}
    (same : p.text.toList ++ rest = q.text.toList ++ rest') : p.key = q.key := by
  have length (k : Key) : k.start.length = 2 := by cases k <;> rfl
  have taken (p : Property) (rest : List Char) : p.key.start = (p.text.toList ++ rest).take 2 := by
    rw [← length p.key]
    exact List.prefix_iff_eq_take.mp ((starts p).trans (List.prefix_append _ _))
  apply Key.eq_of_start
  rw [taken p rest, same, ← taken q rest']

theorem eq_of_text {p q : Property} (same : p.text = q.text) : p = q := by
  have keys : p.key = q.key :=
    key_eq_of_text (congrArg (fun text : String => text.toList ++ []) same)
  cases p with
  | bold | italic | strikethrough | monospace => cases q <;> first | rfl | cases keys
  | foreground c =>
      cases q with
      | foreground d => rw [Color.eq_of_text ((String.append_right_inj _).mp same)]
      | _ => cases keys
  | background c =>
      cases q with
      | background d => rw [Color.eq_of_text ((String.append_right_inj _).mp same)]
      | _ => cases keys
  | link u =>
      cases q with
      | link v => rw [Url.eq_of_text ((String.append_right_inj _).mp same)]
      | _ => cases keys

theorem comma_not_mem {p : Property} (other : p.key ≠ .link) : ',' ∉ p.text.toList := by
  cases p with
  | bold | italic | strikethrough | monospace => decide
  | foreground c | background c =>
      have color := c.not_mem_text (c := ',') (by decide) (by decide)
      simp [text, color]
  | link u => exact absurd rfl other

end Property

def listed (ps : List Property) : List Char := [','].intercalate (ps.map (·.text.toList))

/-- What stands behind the comma after a property, if there is one. -/
def more? (ps : List Property) : Option (List Char) := if ps = [] then none else some (listed ps)

theorem listed_cons (p : Property) (ps : List Property) :
    listed (p :: ps) = p.text.toList ++ (more? ps).elim [] (',' :: ·) := by
  cases ps with
  | nil => simp [listed, more?]
  | cons q ps => simp [listed, more?, List.intercalate_cons_cons]

theorem listed_of_more? {ps qs : List Property} (same : more? ps = more? qs) :
    listed ps = listed qs := by
  have known (ps : List Property) : listed ps = (more? ps).getD [] := by cases ps <;> rfl
  rw [known, same, known]

theorem listed_ne_nil (p : Property) (ps : List Property) : listed (p :: ps) ≠ [] := by
  rw [listed_cons]
  intro none
  have start := p.starts
  rw [(List.append_eq_nil_iff.mp none).1, List.prefix_nil] at start
  cases key : p.key <;> rw [key] at start <;> cases start

/-- A list of properties in which only the last may be a link can be told from its text. -/
theorem eq_of_listed {ps qs : List Property} (last : ps.Pairwise fun p _ => p.key ≠ .link)
    (last' : qs.Pairwise fun p _ => p.key ≠ .link) (same : listed ps = listed qs) : ps = qs := by
  induction ps generalizing qs with
  | nil =>
      cases qs with
      | nil => rfl
      | cons q qs => exact absurd same.symm (listed_ne_nil q qs)
  | cons p ps ih =>
      cases qs with
      | nil => exact absurd same (listed_ne_nil p ps)
      | cons q qs =>
          rw [listed_cons, listed_cons] at same
          rw [List.pairwise_cons] at last last'
          have keys := Property.key_eq_of_text same
          by_cases isLink : p.key = .link
          -- A link ends both lists, so its commas set nothing apart.
          · have alone : ps = [] :=
              List.eq_nil_iff_forall_not_mem.mpr fun r member => last.1 r member isLink
            have alone' : qs = [] :=
              List.eq_nil_iff_forall_not_mem.mpr fun r member => last'.1 r member (keys ▸ isLink)
            subst alone alone'
            rw [Property.eq_of_text (String.toList_inj.mp (List.append_cancel_right same))]
          -- Another property ends before the first comma.
          · obtain ⟨texts, rests⟩ := Text.append_mark_inj (Property.comma_not_mem isLink)
              (Property.comma_not_mem (keys ▸ isLink)) same
            rw [Property.eq_of_text (String.toList_inj.mp texts),
              ih last.2 last'.2 (listed_of_more? rests)]

theorem link_last (s : Style) : s.toList.Pairwise fun p _ => p.key ≠ .link := by
  have last (k : Key) : ¬Key.link.ctorIdx < k.ctorIdx := by cases k <;> decide
  refine (pairwise_toList s).imp fun less isLink => ?_
  rw [isLink] at less
  exact last _ less

theorem eq_of_toList {s t : Style} (same : s.toList = t.toList) : s = t := by
  apply ext_get?
  intro k
  rw [← last?_toList, same, last?_toList]

theorem eq_of_text {s t : Style} (same : s.text = t.text) : s = t := by
  have text (s : Style) : s.text.toList = listed s.toList := by
    rw [Style.text, String.toList_intercalate, listed, List.map_map]
    rfl
  apply eq_of_toList
  apply eq_of_listed (link_last s) (link_last t)
  rw [← text, same, text]

/-- Two styles have one text exactly if they are equal, and they are equal exactly if their properties
have the same texts, kind by kind: links are compared by their text. -/
theorem text_inj (s t : Style) :
    (s.text = t.text ↔ s = t) ∧
      (s = t ↔ ∀ k, (s.get? k).map Property.text = (t.get? k).map Property.text) := by
  refine ⟨⟨eq_of_text, congrArg Style.text⟩, ?_, ?_⟩
  · rintro rfl k
    rfl
  · intro same
    apply ext_get?
    intro k
    exact Option.map_injective (fun _ _ => Property.eq_of_text) (same k)

example :
    ({ link := some ⟨"http", "//a/,bold,bg=", none, some "000000", by decide, by decide,
      by decide⟩ } : Style).text = "link=http://a/,bold,bg=#000000" := by decide

end Style

end RichText
