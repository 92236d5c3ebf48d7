import RichText.Proofs.Rendering.Inside
import RichText.Proofs.Rendering.Truncation
import RichText.Proofs.Style.Text

/-!
# The style of quoted text

Main statement (`render_textStyle`): if a document ends above the depth limit, then every text inside
a quote has all properties that the policy sets for quoted text, and no span around it, inside the
quote or outside, takes one away. Only line breaks keep out: they are not text of the document.
-/
namespace RichText

/-- A text has the properties that a policy sets for quoted text, unless it is a line break. -/
def Node.Muted (rules : QuotePolicy) (n : Node) : Prop :=
  ∀ s, n.content? = some s → s ≠ "\n" →
    ∀ k p, rules.textStyle.get? k = some p → n.style.get? k = some p

namespace Strategy

theorem muted_text (rules : QuotePolicy) (s : String) (enclosing : List Tag) :
    ((quoted rules).text s enclosing).Muted rules := by
  intro _ _ _ k p sets
  change (Style.empty.merge rules.textStyle).get? k = some p
  rw [Style.empty_merge]
  exact sets

/-- The italics of a placeholder replace no property but themselves. -/
theorem muted_placeholder (rules : QuotePolicy) (kind : String) (name : Option String) :
    (placeholder rules kind name).Muted rules := by
  intro _ _ _ k p sets
  change ((Style.empty.merge rules.textStyle).insert .italic).get? k = some p
  rw [Style.empty_merge, Style.get?_insert]
  split
  case isTrue italic =>
    have key : p.key = .italic := (Style.key_of_get? sets).trans italic
    cases p with
    | italic => rfl
    | _ => cases key
  case isFalse => exact sets

theorem muted_quoted (rules : QuotePolicy) (c : Context) {children : List Node}
    (muted : ∀ m ∈ children, ∀ l ∈ m.nodes, l.Muted rules) :
    ∀ l ∈ ((quoted rules).node c children).nodes, l.Muted rules := by
  refine (makes_quoted c children rules).forall_nodes muted ?_ ?_ ?_ ?_
  · rintro m - - (container | rfl) s text other
    · cases container.symm.trans text
    · cases text
      exact absurd rfl other
  · exact fun p _ => nofun
  · rintro _ kind name ⟨⟩
    exact muted_placeholder rules kind name
  · exact fun ns a _ => nofun

end Strategy

/-! ## The statement -/

theorem Document.render_textStyle (rules : QuotePolicy) {root : Span} {maxDepth : Nat}
    (ends : root.EndsAbove maxDepth) :
    ∀ leaf ∈ (render root ⟨some rules, maxDepth⟩).leaves, 1 ≤ leaf.quoteDepth →
      ∀ s, leaf.content = .text s → s ≠ "\n" →
        ∀ k p, rules.textStyle.get? k = some p → leaf.style.get? k = some p := by
  intro leaf member deep s text other k p sets
  have muted : (render root ⟨some rules, maxDepth⟩).InQuotes (·.Muted rules) := by
    rw [render_eq]
    refine inQuotes_render (Q := fun limit span => span.EndsAbove limit) ?_ ?_ ?_ ?_
      maxDepth maxDepth [] ends
    · exact fun _ _ ends _ below => ends.child below
    · exact fun span ends => absurd ends span.not_endsAbove_zero
    · exact fun s enclosing => Strategy.muted_text rules s enclosing
    · exact fun c children muted => Strategy.muted_quoted rules c muted
  obtain ⟨path, n, drawn⟩ := Node.exists_draws member
  obtain ⟨-, content, -⟩ := Node.shown?_eq_text.mp (drawn.content.trans (congrArg some text))
  -- The text itself has the property, and no node is nearer to the leaf.
  rw [drawn.style, Node.nearest?_append, Node.nearest?_singleton,
    muted.of_draws drawn deep s content other k p sets, Option.some_or]

/-- Highlighted text, nested quotes and labels in a highlighted quote, in a colour of the policy. -/
theorem Document.render_textStyle_highlight :
    let root : Span := .withChildren (.ofTag .highlight) [.withChildren (.ofTag .quote)
      [{ tag := some .highlight, text := some "a" },
        .withChildren (.ofTag .quote) [.ofText "b"], .ofTag .image]]
    let rules : QuotePolicy :=
      { nestedQuotes := .keep, textStyle := .ofProperty (.background Palette.quoted) }
    let quoted := (render root ⟨some rules, 4⟩).leaves.filter (1 ≤ ·.quoteDepth)
    root.EndsAbove 4 ∧ quoted.filterMap Leaf.text? = ["a", "b", "\n", "[image]"] ∧
      ∀ leaf ∈ quoted, ∀ s, leaf.content = .text s → s ≠ "\n" →
        leaf.style.get? .background = some (.background Palette.quoted) := by
  intro root rules quoted
  have ends : root.EndsAbove 4 := by
    simp [root, Span.endsAbove_succ_iff, Span.withChildren, Span.ofTag, Span.ofText]
  refine ⟨ends, by decide +kernel, fun leaf member s text other => ?_⟩
  obtain ⟨member, deep⟩ := List.mem_filter.mp member
  exact render_textStyle rules ends leaf member (of_decide_eq_true deep) s text other _ _ rfl

end RichText
