import RichText.CommandLine
import RichText.Proofs.Rendering.Drawn
import RichText.Proofs.Style.Text
import RichText.Proofs.Url.Lines

/-!
# Lines of the output

Main statement (`run_lines`): a run that succeeds prints the line of every leaf of the document, set
in by its quotes. Texts, styles and the addresses of links and buttons stay on the line; only a
reference that the data of an image or a file gives is printed as it is, and breaks the line where it
has a newline.
-/
namespace RichText

/-! ## Pieces of a line -/

theorem Text.newline_not_mem_encodeChar (c : Char) : '\n' ∉ Text.Quoted.encodeChar c := by
  by_cases isNewline : c = '\n'
  · subst isNewline
    decide
  · have digits : '\n' ∉ Nat.toDigits 16 c.toNat :=
      Text.newline_not_mem_toDigits (by decide) (by decide) _
    unfold Text.Quoted.encodeChar
    repeat' split
    all_goals first
      | decide
      | simp [Text.Quoted.hexDigits, digits, Ne.symm isNewline]

theorem Text.newline_not_mem_quote (s : String) : '\n' ∉ (Text.Quoted.quote s).toList := by
  rw [Text.Quoted.quote, String.toList_ofList]
  simp [Text.Quoted.encode, newline_not_mem_encodeChar]

namespace Style

def Clean (s : Style) : Prop := ∀ u, s.link = some u → '\n' ∉ u.text.toList

theorem newline_not_mem_property {p : Property}
    (clean : ∀ u, p = .link u → '\n' ∉ u.text.toList) : '\n' ∉ p.text.toList := by
  cases p with
  | bold | italic | strikethrough | monospace => decide
  | foreground c | background c =>
      have color := c.not_mem_text (c := '\n') (by decide) (by decide)
      simp [Property.text, color]
  | link u => simp [Property.text, clean u rfl]

theorem Clean.newline_not_mem {s : Style} (clean : s.Clean) : '\n' ∉ s.text.toList := by
  rw [text, String.toList_intercalate]
  apply Text.not_mem_intercalate (by decide)
  rw [List.map_map, List.forall_mem_map]
  intro p member
  apply newline_not_mem_property
  rintro u rfl
  obtain ⟨v, linked, same⟩ := Option.map_eq_some_iff.mp (mem_toList.mp member)
  cases same
  exact clean u linked

end Style

/-! ## Leaves -/

def Leaf.reference? (leaf : Leaf) : Option String :=
  match leaf.content with
  | .text _ => none
  | .attachment a => a.reference

def Leaf.Broken (leaf : Leaf) : Prop := ∃ r ∈ leaf.reference?, '\n' ∈ r.toList

/-- An image or a file of the document has data with the reference. -/
def Span.Names (root : Span) (reference : String) : Prop :=
  ∃ span data, root.Within span ∧ (span.tag = some .image ∨ span.tag = some .file) ∧
    span.data = some data ∧ data.text? "ref" = some reference

/-- Only the references of images and files bring newlines into what is printed beside texts. -/
structure Leaf.Sourced (root : Span) (leaf : Leaf) : Prop where
  style : leaf.style.Clean
  reference : ∀ r ∈ leaf.reference?, '\n' ∈ r.toList → root.Names r

namespace Span

variable {root span : Span}

theorem Draws.names (inside : root.Within span) {a : Attachment} (draws : span.Draws a)
    {reference : String} (has : a.reference = some reference)
    (newline : '\n' ∈ reference.toList) : root.Names reference := by
  cases draws with
  | image isTag =>
      cases given : span.data with
      | none =>
          rw [given] at has
          cases has
      | some data =>
          rw [given] at has
          exact ⟨span, data, inside, .inl isTag, given, has⟩
  | file isTag =>
      cases given : span.data with
      | none =>
          rw [given] at has
          cases has
      | some data =>
          rw [given] at has
          refine ⟨span, data, inside, .inr isTag, given, ?_⟩
          rw [← has, Option.elim_some]
          rcases Attachment.file_cases data with ⟨-, same⟩ | ⟨-, same⟩ <;> rw [same] <;> rfl
  | button isTag acts =>
      cases has
      obtain ⟨data, -, acts⟩ := Option.bind_eq_some_iff.mp acts
      exact absurd newline (Action.newline_not_mem_address? acts)
  | quote isTag => cases has

theorem newline_not_mem_link {policy : Option QuotePolicy} {u : Url}
    (given : span.property? policy = some (.link u)) : '\n' ∉ u.text.toList := by
  unfold property? at given
  split at given
  · cases given
  · split at given
    · obtain ⟨id, -, same⟩ := Option.map_eq_some_iff.mp given
      cases same
    · cases given
  · split at given
    · obtain ⟨v, target, same⟩ := Option.map_eq_some_iff.mp given
      cases same
      obtain ⟨s, -, target⟩ := Option.bind_eq_some_iff.mp target
      obtain ⟨v, parsed, target⟩ := Option.bind_eq_some_iff.mp target
      split at target
      · cases target
        exact Url.newline_not_mem_text parsed
      · cases target
    · cases given
  -- No other tag gives a link.
  · rename_i tag _ _ _
    cases tag <;> cases given

theorem clean_having {place : Place} {policy : Option QuotePolicy} {p : Style.Property}
    (given : span.property? policy = some p) (clean : place.style.Clean) :
    (place.having p).style.Clean := by
  cases p with
  | link u =>
      rintro _ ⟨⟩
      exact newline_not_mem_link given
  | _ => exact clean

theorem clean_styled {place : Place} {style : Style} (plain : style.link = none)
    (clean : place.style.Clean) : (place.styled style).style.Clean := by
  intro u linked
  apply clean u
  rw [← linked]
  change _ = (style.link <|> place.style.link)
  rw [plain]
  rfl

theorem invariant_sourced (root : Span) {options : Options}
    (plain : ∀ rules ∈ options.quotePolicy, rules.textStyle.link = none) :
    root.Invariant options fun place leaf => place.style.Clean → leaf.Sourced root where
  text _ _ clean := ⟨clean, nofun⟩
  attached _ inside _ draws _ clean :=
    ⟨clean, fun _ has newline => draws.names inside has newline⟩
  muted rules inPolicy _ _ sourced clean := sourced (clean_styled (plain rules inPolicy) clean)
  italic _ _ sourced clean := sourced clean
  having _ _ _ _ given _ _ sourced clean := sourced (clean_having given clean)
  quoted _ _ sourced clean := sourced clean

end Span

theorem Document.sourced_render (root : Span) {options : Options}
    (plain : ∀ rules ∈ options.quotePolicy, rules.textStyle.link = none) :
    ∀ leaf ∈ (render root options).leaves, leaf.Sourced root := by
  have drawn : (render root options).leaves = root.draw options options.maxDepth false {} := by
    rw [render_eq]
    exact drawn_render options options.maxDepth [] root {}
  intro leaf member
  rw [drawn] at member
  exact (Span.invariant_sourced root plain).draw .root _ false {} leaf member nofun

/-! ## Lines -/

namespace CommandLine

def linesOf (s : String) : List String := (s.toList.splitOn '\n').map String.ofList

theorem not_mem_of_mem_splitOn (c : Char) (cs : List Char) : ∀ piece ∈ cs.splitOn c, c ∉ piece := by
  induction cs with
  | nil => exact List.forall_mem_singleton.mpr List.not_mem_nil
  | cons d rest ih =>
      rw [List.splitOn_cons_eq_if_modifyHead]
      split
      · exact List.forall_mem_cons.mpr ⟨List.not_mem_nil, ih⟩
      · rename_i other
        cases pieces : rest.splitOn c with
        | nil => exact List.forall_mem_nil _
        | cons first others =>
            rw [pieces] at ih
            obtain ⟨start, others⟩ := List.forall_mem_cons.mp ih
            refine List.forall_mem_cons.mpr ⟨?_, others⟩
            rw [List.mem_cons, not_or]
            exact ⟨fun same => other (beq_iff_eq.mpr same.symm), start⟩

theorem newline_not_mem_linesOf (s : String) : ∀ l ∈ linesOf s, '\n' ∉ l.toList := by
  rw [linesOf, List.forall_mem_map]
  intro piece member
  rw [String.toList_ofList]
  exact not_mem_of_mem_splitOn '\n' s.toList piece member

theorem linesOf_append (s t : String) : linesOf (s ++ "\n" ++ t) = linesOf s ++ linesOf t := by
  have cut : (s ++ "\n" ++ t).toList = s.toList ++ '\n' :: t.toList := by simp
  rw [linesOf, cut, List.splitOn_append_cons_self, List.map_append, linesOf, linesOf]

theorem linesOf_eq_singleton {s : String} : linesOf s = [s] ↔ '\n' ∉ s.toList := by
  constructor
  · intro single
    exact newline_not_mem_linesOf s s (single ▸ List.mem_cons_self)
  · intro clean
    rw [linesOf, List.splitOn_eq_singleton clean, List.map_singleton, String.ofList_toList]

/-- Terminated texts are the lines of what they make up if they have no newlines themselves. -/
theorem linesOf_join (texts : List String) :
    linesOf (String.join (texts.map (· ++ "\n"))) = texts.flatMap linesOf ++ [""] := by
  induction texts with
  | nil => rfl
  | cons first rest ih =>
      rw [List.map_cons, String.join_cons, linesOf_append, ih, List.flatMap_cons,
        List.append_assoc]

theorem flatMap_linesOf_eq_self {texts : List String} :
    texts.flatMap linesOf = texts ↔ ∀ s ∈ texts, '\n' ∉ s.toList := by
  constructor
  · intro same s member
    rw [← same] at member
    obtain ⟨text, -, inside⟩ := List.mem_flatMap.mp member
    exact newline_not_mem_linesOf text s inside
  · intro clean
    have single : texts.map linesOf = texts.map fun s => [s] :=
      List.map_congr_left fun s member => linesOf_eq_singleton.mpr (clean s member)
    rw [List.flatMap_def, single, ← List.flatMap_def, List.flatMap_singleton']

theorem newline_not_mem_indent (quoteDepth : Nat) : '\n' ∉ (indent quoteDepth).toList := by
  rw [indent, String.toList_join, List.mem_flatMap]
  rintro ⟨mark, member, inside⟩
  rw [List.eq_of_mem_replicate member] at inside
  revert inside
  decide

theorem newline_mem_describe {leaf : Leaf} :
    '\n' ∈ (describe leaf.content).toList ↔ leaf.Broken := by
  obtain ⟨content, style, quoteDepth⟩ := leaf
  cases content with
  | text s =>
      refine iff_of_false (Text.newline_not_mem_quote s) ?_
      rintro ⟨r, ⟨⟩, -⟩
  | attachment a =>
      have kind : '\n' ∉ a.kind.name.toList := by cases a.kind <;> decide
      unfold describe Leaf.Broken Leaf.reference?
      cases given : a.reference <;> simp [given, kind]

theorem newline_mem_line {leaf : Leaf} (clean : leaf.style.Clean) :
    '\n' ∈ (line leaf).toList ↔ leaf.Broken := by
  rw [← newline_mem_describe, line]
  simp [newline_not_mem_indent, clean.newline_not_mem]

theorem output_of_succeeds {input : List UInt8} (succeeds : (run input).exitCode = 0) :
    ∃ text root, Text.ofUtf8? input = some text ∧ Document.parse (String.ofList text) = .ok root ∧
      (run input).output = print (Document.render root) := by
  cases read : Text.ofUtf8? input with
  | none => simp [run, read, failure] at succeeds
  | some text =>
      cases parsed : Document.parse (String.ofList text) with
      | error problem =>
          simp [run, read, Document.renderJson, parsed, Except.map, failure] at succeeds
      | ok root =>
          refine ⟨text, root, rfl, parsed, ?_⟩
          simp only [run, read, Document.renderJson, parsed, Except.map]

/-! ## The statement -/

theorem run_lines (input : List UInt8) (succeeds : (run input).exitCode = 0) :
    ∃ text root, Text.ofUtf8? input = some text ∧ Document.parse (String.ofList text) = .ok root ∧
      linesOf (run input).output =
        ((Document.render root).leaves.map line).flatMap linesOf ++ [""] ∧
      (linesOf (run input).output = (Document.render root).leaves.map line ++ [""] ↔
        ∀ leaf ∈ (Document.render root).leaves, ¬ leaf.Broken) ∧
      ∀ leaf ∈ (Document.render root).leaves,
        (indent leaf.quoteDepth).toList <+: (line leaf).toList ∧
        (linesOf (line leaf) = [line leaf] ↔ ¬ leaf.Broken) ∧
        ∀ r ∈ leaf.reference?, '\n' ∈ r.toList → root.Names r := by
  obtain ⟨text, root, read, parsed, printed⟩ := output_of_succeeds succeeds
  have plain : ∀ rules ∈ ({} : Options).quotePolicy, rules.textStyle.link = none := by
    rintro rules ⟨⟩
    rfl
  have sourced := Document.sourced_render root plain
  have unbroken : ∀ leaf ∈ (Document.render root).leaves,
      ('\n' ∉ (line leaf).toList ↔ ¬ leaf.Broken) :=
    fun leaf member => not_congr (newline_mem_line (sourced leaf member).style)
  have lines : linesOf (run input).output =
      ((Document.render root).leaves.map line).flatMap linesOf ++ [""] := by
    rw [printed, print, ← linesOf_join, List.map_map]
    rfl
  refine ⟨text, root, read, parsed, lines, ?_, fun leaf member => ⟨?_, ?_, ?_⟩⟩
  · rw [lines, List.append_left_inj, flatMap_linesOf_eq_self, List.forall_mem_map]
    exact forall₂_congr unbroken
  · rw [line, String.append_assoc, String.append_assoc, String.append_assoc, String.toList_append]
    exact List.prefix_append _ _
  · exact linesOf_eq_singleton.trans (unbroken leaf member)
  · exact (sourced leaf member).reference

/-- An image whose reference is a newline, and so breaks its line. -/
theorem run_lines_image :
    let input := "\x7b\"tp\":\"IM\",\"data\":\x7b\"ref\":\"\\n\"\x7d\x7d".toUTF8.toList
    (run input).exitCode = 0 ∧
      ∃ text root, Text.ofUtf8? input = some text ∧
        Document.parse (String.ofList text) = .ok root ∧
        linesOf (run input).output =
          ((Document.render root).leaves.map line).flatMap linesOf ++ [""] ∧
        linesOf (run input).output ≠ (Document.render root).leaves.map line ++ [""] := by
  intro input
  have succeeds : (run input).exitCode = 0 := by decide +kernel
  have references : ((Text.ofUtf8? input).bind fun text =>
      (Document.renderJson (String.ofList text)).toOption.map
        (·.leaves.map Leaf.reference?)) = some [some "\n"] := by decide +kernel
  obtain ⟨text, root, read, parsed, lines, whole, -⟩ := run_lines input succeeds
  refine ⟨succeeds, text, root, read, parsed, lines, fun unbroken => ?_⟩
  rw [read, Option.bind_some, Document.renderJson, parsed] at references
  obtain ⟨leaf, single, reference⟩ := List.map_eq_singleton_iff.mp (Option.some.inj references)
  exact whole.mp unbroken leaf (single ▸ List.mem_cons_self) ⟨"\n", reference, by decide⟩

theorem run_image_broken :
    let json := "\x7b\"tp\":\"IM\",\"data\":\x7b\"ref\":\"\\n\"\x7d\x7d"
    (Document.renderJson json).toOption.map (·.leaves.length) = some 1 ∧
      (run json.toUTF8.toList).exitCode = 0 ∧
      linesOf (run json.toUTF8.toList).output = ["<Image ", "> []", ""] := by
  decide +kernel

end CommandLine

end RichText
