import RichText.Proofs.Rendering.Context
import RichText.Proofs.Span.FlatText

/-!
# The depth limit as truncation

Main statement (`render_truncate`): if runs of text keep their style in quotes, then a limit to the
depth has the effect of cutting the document there, with plain texts in place of what is cut off. A
document that ends above the limit is rendered as without it.
-/
namespace RichText

namespace Span

/-- A document whose spans at a depth are replaced by the text below them. -/
def truncate : Nat → Span → Span
  | 0, span => .ofText span.flatText
  | depth + 1, span => span.withChildren (span.children.map (truncate depth))

def EndsAbove (root : Span) (depth : Nat) : Prop :=
  ∀ path span, root.follow? path = some span → path.length < depth

theorem EndsAbove.child {span child : Span} {depth : Nat} (ends : span.EndsAbove (depth + 1))
    (below : child ∈ span.children) : child.EndsAbove depth := by
  intro path inner leads
  obtain ⟨i, leads⟩ := follow?_of_mem below leads
  exact Nat.lt_of_succ_lt_succ (ends (i :: path) inner leads)

theorem endsAbove_succ {span : Span} {depth : Nat}
    (children : ∀ child ∈ span.children, child.EndsAbove depth) : span.EndsAbove (depth + 1) := by
  intro path inner leads
  cases path with
  | nil => exact Nat.succ_pos depth
  | cons i path =>
      obtain ⟨child, place, leads⟩ := follow?_cons_eq_some.mp leads
      exact Nat.succ_lt_succ (children child (List.mem_of_getElem? place) path inner leads)

theorem endsAbove_succ_iff {span : Span} {depth : Nat} :
    span.EndsAbove (depth + 1) ↔ ∀ child ∈ span.children, child.EndsAbove depth :=
  ⟨fun ends _ below => ends.child below, endsAbove_succ⟩

theorem not_endsAbove_zero (span : Span) : ¬ span.EndsAbove 0 :=
  fun ends => Nat.not_lt_zero _ (ends [] span rfl)

theorem flatText_ofText (s : String) : (ofText s).flatText = s := flatText_of_isText rfl

end Span

namespace Engine

variable {e : Engine} {depth limit : Nat}

/-- A text in place of a span is rendered as the text of the span, whether or not the limit is
reached there. -/
theorem render_ofText
    (plain : ∀ enclosing s, (e.strategyFor enclosing).text s enclosing = .ofText s)
    (limit : Nat) (enclosing : List Tag) (s : String) :
    e.render limit enclosing (.ofText s) = .ofText s := by
  cases limit with
  | zero => rw [render, Span.flatText_ofText]
  | succ limit => exact plain enclosing s

/-- A span shows of its children only the nodes, and whether there are any. -/
theorem render_withChildren {span : Span} (children : List Span)
    (empty : children.isEmpty = span.children.isEmpty)
    (same : ∀ inner, children.map (e.render limit inner) = span.children.map (e.render depth inner))
    (enclosing : List Tag) :
    e.render (limit + 1) enclosing (span.withChildren children) =
      e.render (depth + 1) enclosing span := by
  obtain ⟨tag, data, key, text, spans⟩ := span
  cases spans with
  | nil =>
      obtain rfl := List.isEmpty_iff.mp empty
      rfl
  | cons =>
      cases children with
      | nil => cases empty
      | cons => simp only [render, Span.withChildren, Span.isText, List.isEmpty_cons, same]

theorem render_of_truncate
    (plain : ∀ enclosing s, (e.strategyFor enclosing).text s enclosing = .ofText s)
    (le : depth ≤ limit) (enclosing : List Tag) (span : Span) :
    e.render limit enclosing (span.truncate depth) = e.render depth enclosing span := by
  induction depth generalizing limit enclosing span with
  | zero => exact render_ofText plain limit enclosing span.flatText
  | succ depth ih =>
      obtain ⟨limit, rfl⟩ := Nat.exists_eq_add_of_lt le
      refine render_withChildren _ List.isEmpty_map (fun inner => ?_) enclosing
      rw [List.map_map]
      exact List.map_congr_left fun child _ => ih (Nat.le_add_right depth limit) inner child

/-- What a limit cuts off is below it. -/
theorem render_of_endsAbove {span : Span} (ends : span.EndsAbove depth) (le : depth ≤ limit)
    (enclosing : List Tag) : e.render limit enclosing span = e.render depth enclosing span := by
  induction depth generalizing limit enclosing span with
  | zero => exact absurd ends span.not_endsAbove_zero
  | succ depth ih =>
      obtain ⟨limit, rfl⟩ := Nat.exists_eq_add_of_lt le
      refine render_withChildren span.children rfl (fun inner => ?_) enclosing
      exact List.map_congr_left fun child below =>
        ih (ends.child below) (Nat.le_add_right depth limit) inner

end Engine

theorem Strategy.underText_unstyled {policy : Option QuotePolicy}
    (unstyled : ∀ rules ∈ policy, rules.textStyle = .empty) (s : String) (enclosing : List Tag) :
    (under policy).text s enclosing = .ofText s := by
  rw [underText_eq]
  cases policy with
  | none => rfl
  | some rules => exact congrArg (Node.text s · none) (unstyled rules rfl)

/-! ## The statement -/

theorem Document.render_truncate (span : Span) (policy : Option QuotePolicy) {depth limit : Nat}
    (le : depth ≤ limit) :
    ((∀ rules ∈ policy, rules.textStyle = .empty) →
      render span ⟨policy, depth⟩ = render (span.truncate depth) ⟨policy, limit⟩) ∧
    (span.EndsAbove depth → render span ⟨policy, depth⟩ = render span ⟨policy, limit⟩) := by
  have limited (root : Span) (maxDepth : Nat) : render root ⟨policy, maxDepth⟩ =
      (engine ⟨policy, limit⟩).render maxDepth [] root :=
    Engine.renderIn_maxDepth (engine ⟨policy, limit⟩) maxDepth root []
  rw [limited, limited, limited]
  constructor
  · intro unstyled
    have inForce (quoted : Bool) :
        ∀ rules ∈ (⟨policy, limit⟩ : Options).policyFor quoted, rules.textStyle = .empty := by
      cases quoted with
      | true => exact unstyled
      | false => rintro rules ⟨⟩
    refine (Engine.render_of_truncate (fun enclosing s => ?_) le [] span).symm
    rw [strategyFor_engine]
    exact Strategy.underText_unstyled (inForce _) s enclosing
  · exact fun ends => (Engine.render_of_endsAbove ends le []).symm

/-- A button in a quote, cut at the text that it shows. -/
theorem Document.render_truncate_quoted :
    let root : Span := .withChildren (.ofTag .quote)
      [.withData (.withChildren (.ofTag .button) [.ofText "yes", .ofTag .lineBreak])
        (.object [("act", .string "pub")])]
    root.truncate 2 = .withChildren (.ofTag .quote)
        [.withData (.withChildren (.ofTag .button) [.ofText "yes", .ofText "\n"])
          (.object [("act", .string "pub")])] ∧
      render root ⟨some .keepAll, 2⟩ = render (root.truncate 2) ⟨some .keepAll, 3⟩ := by
  intro root
  constructor
  · simp [root, Span.truncate, Span.withChildren, Span.withData, Span.ofTag, Span.ofText,
      Span.flatText, Span.gather, Span.ownText, Span.textChildren]
  · refine (render_truncate root (some .keepAll) (by decide)).1 ?_
    rintro rules ⟨⟩
    rfl

end RichText
