import RichText.Proofs.Rendering.Quoting
import RichText.Proofs.Span.Paths

/-!
# The context of a span

The engine renders a document with one stack of tags that is pushed and popped on the way. Main
statement (`walk_assemble`): it finds the same node as if every span looked up the tags around it in
the whole document, and leaves the stack as it was. So the part of a document below a path is
rendered as on its own, inside the tags around it. Of these tags it counts only whether a quote is
among them (`renderIn_enclosing`).
-/
namespace RichText

namespace Engine

/-- The node of the span at a path of a document that stands inside the given tags. Nothing is handed
down: each span, and the text that a span has itself, gets the tags around it in the document. -/
def assemble (e : Engine) (root : Span) (initial : List Tag) : Nat → List Nat → Span → Node
  | 0, _, span => .ofText span.flatText
  | limit + 1, path, span =>
    let enclosing := initial ++ root.tagsAbove path
    let inner := enclosing ++ span.tag.toList
    if span.isText then (e.strategyFor enclosing).text (span.text.getD "") enclosing
    else
      (e.strategyFor enclosing).node ⟨span.tag, span.data, span.key, enclosing⟩ <|
        if span.children.isEmpty then
          span.text.toList.map fun s => (e.strategyFor inner).text s inner
        else span.children.mapIdx fun i child => e.assemble root initial limit (path ++ [i]) child

theorem mapIdx_eq_map {α β : Type} {xs : List α} {f : Nat → α → β} {g : α → β}
    (same : ∀ i x, xs[i]? = some x → f i x = g x) : xs.mapIdx f = xs.map g := by
  apply List.ext_getElem?
  intro i
  rw [List.getElem?_mapIdx, List.getElem?_map]
  cases place : xs[i]? with
  | none => rfl
  | some x => rw [Option.map_some, Option.map_some, same i x place]

/-- The tags that are handed down to a span are those around it in the document. -/
theorem assemble_eq_render (e : Engine) {root span : Span} (initial : List Tag) (limit : Nat)
    {path : List Nat} (leads : root.follow? path = some span) :
    e.assemble root initial limit path span =
      e.render limit (initial ++ root.tagsAbove path) span := by
  induction limit generalizing path span with
  | zero => rfl
  | succ limit ih =>
      rw [assemble, render]
      have below :
          span.children.mapIdx (fun i child => e.assemble root initial limit (path ++ [i]) child) =
            span.children.map
              (e.render limit (initial ++ root.tagsAbove path ++ span.tag.toList)) := by
        apply mapIdx_eq_map
        intro i child place
        rw [ih (Span.follow?_child leads place), Span.tagsAbove_child leads, List.append_assoc]
      simp only [below]

theorem renderIn_maxDepth (e : Engine) (limit : Nat) (span : Span) (enclosing : List Tag) :
    ({ e with maxDepth := limit } : Engine).renderIn span enclosing =
      e.render limit enclosing span := by
  have same (enclosing : List Tag) :
      ({ e with maxDepth := limit } : Engine).strategyFor enclosing = e.strategyFor enclosing := rfl
  rw [renderIn_eq]
  exact render_congr same limit enclosing span

theorem renderIn_eq_assemble (e : Engine) (root : Span) (initial : List Tag) :
    e.renderIn root initial = e.assemble root initial e.maxDepth [] root := by
  rw [assemble_eq_render e initial e.maxDepth rfl, renderIn_eq, Span.tagsAbove, Span.ancestors,
    List.filterMap_nil, List.append_nil]

/-! ## The statement -/

theorem walk_assemble (e : Engine) (root : Span) (stack : Stack) :
    (e.walk e.maxDepth root).run stack =
        pure (e.assemble root stack.toList e.maxDepth [] root, stack) ∧
      ∀ path span, root.follow? path = some span → path.length ≤ e.maxDepth →
        e.assemble root stack.toList (e.maxDepth - path.length) path span =
          ({ e with maxDepth := e.maxDepth - path.length } : Engine).renderIn span
            (stack.toList ++ root.tagsAbove path) := by
  constructor
  · rw [walk_eq, ← renderIn_eq, renderIn_eq_assemble]
  · intro path span leads _
    rw [assemble_eq_render e stack.toList _ leads, renderIn_maxDepth]

end Engine

/-! ## What the tags around a span count for -/

namespace Strategy

/-- What a strategy makes of a text or a span does not depend on the tags around it. -/
structure Blind (s : Strategy) : Prop where
  text : ∀ run enclosing enclosing', s.text run enclosing = s.text run enclosing'
  node : ∀ tag data key children enclosing enclosing',
    s.node ⟨tag, data, key, enclosing⟩ children = s.node ⟨tag, data, key, enclosing'⟩ children

theorem blind_full : full.Blind where
  text _ _ _ := rfl
  node tag _ _ _ _ _ := by cases tag with
    | none => rfl
    | some t => cases t <;> rfl

theorem blind_quoted (rules : QuotePolicy) : (quoted rules).Blind where
  text _ _ _ := rfl
  node tag _ _ _ _ _ := by cases tag with
    | none => rfl
    | some t => cases t <;> rfl

end Strategy

theorem Engine.strategyFor_congr (e : Engine) {enclosing enclosing' : List Tag}
    (same : Tag.quote ∈ enclosing ↔ Tag.quote ∈ enclosing') :
    e.strategyFor enclosing = e.strategyFor enclosing' := by
  have contains : enclosing.contains .quote = enclosing'.contains .quote := by
    rw [Bool.eq_iff_iff, List.contains_iff_mem, List.contains_iff_mem, same]
  rw [strategyFor, strategyFor, contains]

/-- An engine of two such strategies sees only whether there is a quote around. -/
theorem Engine.render_of_blind {e : Engine} (blind : ∀ enclosing, (e.strategyFor enclosing).Blind)
    (limit : Nat) {enclosing enclosing' : List Tag}
    (same : Tag.quote ∈ enclosing ↔ Tag.quote ∈ enclosing') (span : Span) :
    e.render limit enclosing span = e.render limit enclosing' span := by
  refine render_congr_related
    (R := fun enclosing enclosing' => Tag.quote ∈ enclosing ↔ Tag.quote ∈ enclosing') ?_ ?_ ?_ limit
    same span
  · intro enclosing enclosing' tags same
    rw [List.mem_append, List.mem_append, same]
  · intro enclosing enclosing' s same
    rw [e.strategyFor_congr same]
    exact (blind enclosing').text s enclosing enclosing'
  · intro enclosing enclosing' tag data key children same
    rw [e.strategyFor_congr same]
    exact (blind enclosing').node tag data key children enclosing enclosing'

namespace Document

theorem blind_strategyFor (options : Options) (enclosing : List Tag) :
    ((engine options).strategyFor enclosing).Blind := by
  rw [strategyFor_engine]
  cases options.policyFor (enclosing.contains .quote) with
  | none => exact Strategy.blind_full
  | some rules => exact Strategy.blind_quoted rules

theorem renderIn_enclosing (options : Options) (span : Span) {enclosing enclosing' : List Tag}
    (same : Tag.quote ∈ enclosing ↔ Tag.quote ∈ enclosing') :
    (engine options).renderIn span enclosing = (engine options).renderIn span enclosing' := by
  rw [Engine.renderIn_eq, Engine.renderIn_eq]
  exact Engine.render_of_blind (blind_strategyFor options) options.maxDepth same span

/-- A form, and a tag that is only spelled like a quote, around a quote and its button. -/
theorem renderIn_enclosing_spelled :
    let enclosing : List Tag := [.form, .other Tag.quote.spelling]
    let button : Span := .withData (.withChildren (.ofTag .button) [.ofText "Yes"])
      (.object [("act", .string "pub")])
    let root : Span := .group [button, .withChildren (.ofTag .quote) [button]]
    (Tag.quote ∈ enclosing ↔ Tag.quote ∈ []) ∧
      (engine { }).renderIn root enclosing = (engine { }).renderIn root [] := by
  intro enclosing button root
  have same : Tag.quote ∈ enclosing ↔ Tag.quote ∈ [] := by decide
  exact ⟨same, renderIn_enclosing { } root same⟩

end Document

end RichText
