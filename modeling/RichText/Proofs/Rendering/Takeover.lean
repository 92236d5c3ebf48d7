import RichText.Proofs.Rendering.Context

/-!
# Where the quote strategy is followed

An engine with two strategies, whatever they are. Main statement (`renderIn_takeover`): inside a
quote it is the engine that has only the quote strategy; without content inside a quote it is the
engine that has only the other one; and the outermost quote is left to the other strategy, its
content to the quote strategy.
-/
namespace RichText

namespace Span

def hasContent (span : Span) : Bool := !span.children.isEmpty || span.text.isSome

/-- Among the upper levels of a document is a quote with content. -/
def QuotesAbove (root : Span) (limit : Nat) : Prop :=
  ∃ path quote, root.follow? path = some quote ∧ path.length < limit ∧ quote.tag = some .quote ∧
    quote.hasContent = true

theorem QuotesAbove.of_child {span child : Span} {limit : Nat} (quotes : child.QuotesAbove limit)
    (below : child ∈ span.children) : span.QuotesAbove (limit + 1) := by
  obtain ⟨path, quote, leads, short, isTag, content⟩ := quotes
  obtain ⟨i, leads⟩ := follow?_of_mem below leads
  exact ⟨i :: path, quote, leads, Nat.succ_lt_succ short, isTag, content⟩

/-- With a quote neither around nor with content at the root, none is around the content. -/
theorem quote_not_mem_inner {span : Span} {enclosing : List Tag} {limit : Nat}
    (outside : Tag.quote ∉ enclosing) (free : ¬ span.QuotesAbove (limit + 1))
    (content : span.hasContent = true) : Tag.quote ∉ enclosing ++ span.tag.toList := by
  rw [List.mem_append, not_or]
  refine ⟨outside, fun isTag => free ⟨[], span, rfl, Nat.succ_pos limit, ?_, content⟩⟩
  exact Option.mem_toList.mp isTag

end Span

namespace Engine

variable (base quoted : Strategy) (maxDepth : Nat) {enclosing : List Tag}

theorem strategyFor_inside (inside : Tag.quote ∈ enclosing) :
    ({ strategy := base, quoteStrategy := some quoted, maxDepth } : Engine).strategyFor enclosing =
      quoted :=
  if_pos (List.contains_iff_mem.mpr inside)

theorem strategyFor_outside (outside : Tag.quote ∉ enclosing) :
    ({ strategy := base, quoteStrategy := some quoted, maxDepth } : Engine).strategyFor enclosing =
      base :=
  if_neg fun inside => outside (List.contains_iff_mem.mp inside)

theorem render_quoted (inside : Tag.quote ∈ enclosing) (limit : Nat) (span : Span) :
    ({ strategy := base, quoteStrategy := some quoted, maxDepth } : Engine).render limit enclosing
        span =
      ({ strategy := quoted, maxDepth } : Engine).render limit enclosing span := by
  apply render_congr_inside (P := (Tag.quote ∈ ·)) _ _ limit inside
  · exact fun _ _ inside => List.mem_append_left _ inside
  · exact fun _ inside => strategyFor_inside base quoted maxDepth inside

theorem render_unquoted (outside : Tag.quote ∉ enclosing) {limit : Nat} {span : Span}
    (free : ¬ span.QuotesAbove limit) :
    ({ strategy := base, quoteStrategy := some quoted, maxDepth } : Engine).render limit enclosing
        span =
      ({ strategy := base, maxDepth } : Engine).render limit enclosing span := by
  induction limit generalizing enclosing span with
  | zero => rfl
  | succ limit ih =>
      have other (enclosing : List Tag) :
          ({ strategy := base, maxDepth } : Engine).strategyFor enclosing = base := rfl
      simp only [render, other, strategyFor_outside base quoted maxDepth outside]
      split
      · rfl
      -- The handler is the same. A span with content is no quote here, so its content is outside too.
      · congr 1
        split
        case isTrue childless =>
          apply List.map_congr_left
          intro s has
          have content : span.hasContent = true := by
            rw [Span.hasContent, Option.mem_toList.mp has]
            exact Bool.or_true _
          have inner := Span.quote_not_mem_inner outside free content
          rw [strategyFor_outside base quoted maxDepth inner]
        case isFalse parent =>
          have content : span.hasContent = true := by
            rw [Span.hasContent, Bool.eq_false_iff.mpr parent]
            rfl
          apply List.map_congr_left
          intro child below
          exact ih (Span.quote_not_mem_inner outside free content) fun quotes =>
            free (quotes.of_child below)

theorem render_outermost (outside : Tag.quote ∉ enclosing) (limit : Nat) {span : Span}
    (isTag : span.tag = some .quote) :
    ({ strategy := base, quoteStrategy := some quoted, maxDepth } : Engine).render (limit + 1)
        enclosing span =
      base.quote ⟨some .quote, span.data, span.key, enclosing⟩
        (if span.children.isEmpty then
          span.text.toList.map fun s => quoted.text s (enclosing ++ [.quote])
        else span.children.map fun child =>
          ({ strategy := quoted, maxDepth := limit } : Engine).renderIn child
            (enclosing ++ [.quote])) := by
  have inside : Tag.quote ∈ enclosing ++ [.quote] := List.mem_append_right _ List.mem_cons_self
  have typed : span.isText = false := by rw [Span.isText, isTag]; rfl
  have child (child : Span) :
      ({ strategy := base, quoteStrategy := some quoted, maxDepth } : Engine).render limit
          (enclosing ++ [.quote]) child =
        ({ strategy := quoted, maxDepth := limit } : Engine).renderIn child
          (enclosing ++ [.quote]) := by
    rw [render_quoted base quoted maxDepth inside, ← renderIn_maxDepth]
  rw [render]
  simp only [typed, isTag, Option.toList_some, Bool.false_eq_true, if_false,
    strategyFor_outside base quoted maxDepth outside,
    strategyFor_inside base quoted maxDepth inside, ← funext child]
  rfl

/-! ## The statement -/

theorem renderIn_takeover (root : Span) (initial : List Tag) :
    let both : Engine := { strategy := base, quoteStrategy := some quoted, maxDepth }
    (Tag.quote ∈ initial →
      both.renderIn root initial =
        ({ strategy := quoted, maxDepth } : Engine).renderIn root initial) ∧
    (Tag.quote ∉ initial → ¬ root.QuotesAbove maxDepth →
      both.renderIn root initial =
        ({ strategy := base, maxDepth } : Engine).renderIn root initial) ∧
    both.renderIn root initial = both.assemble root initial maxDepth [] root ∧
    ∀ path span, root.follow? path = some span → path.length < maxDepth → span.tag = some .quote →
      Tag.quote ∉ initial ++ root.tagsAbove path →
      both.assemble root initial (maxDepth - path.length) path span =
        base.quote ⟨some .quote, span.data, span.key, initial ++ root.tagsAbove path⟩
          (if span.children.isEmpty then
            span.text.toList.map fun s =>
              quoted.text s (initial ++ root.tagsAbove path ++ [.quote])
          else span.children.map fun child =>
            ({ strategy := quoted, maxDepth := maxDepth - path.length - 1 } : Engine).renderIn child
              (initial ++ root.tagsAbove path ++ [.quote])) := by
  intro both
  refine ⟨?_, ?_, both.renderIn_eq_assemble root initial, ?_⟩
  · intro inside
    rw [renderIn_eq, renderIn_eq]
    exact render_quoted base quoted maxDepth inside maxDepth root
  · intro outside free
    rw [renderIn_eq, renderIn_eq]
    exact render_unquoted base quoted maxDepth outside free
  · intro path span leads short isTag outside
    obtain ⟨limit, levels⟩ : ∃ limit, maxDepth - path.length = limit + 1 :=
      ⟨maxDepth - path.length - 1, by omega⟩
    rw [assemble_eq_render both initial _ leads, levels, Nat.add_sub_cancel]
    exact render_outermost base quoted maxDepth outside limit isTag

end Engine

end RichText
