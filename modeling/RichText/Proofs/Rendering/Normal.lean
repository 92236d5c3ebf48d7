import RichText.Proofs.Rendering.Truncation

/-!
# Two ways to write a text

A span with a tag may hold a text itself or have a child that does, and a text beside children does
not count. Main statement (`renderIn_normalize`): every engine makes the same of a document and of
its normal form, in which only spans of plain text have a text. The children that take the texts
stand one level deeper, so they have to be above the limit.
-/
namespace RichText

namespace Span

mutual

/-- A document in which only spans of plain text have a text. -/
def normalize : Span → Span
  | ⟨tag, data, key, text, children⟩ =>
    if children.isEmpty then
      if tag.isNone then ⟨tag, data, key, text, []⟩
      else ⟨tag, data, key, none, text.toList.map .ofText⟩
    else ⟨tag, data, key, none, normalizeAll children⟩

def normalizeAll : List Span → List Span
  | [] => []
  | span :: rest => span.normalize :: normalizeAll rest

end

theorem normalizeAll_eq (spans : List Span) : normalizeAll spans = spans.map normalize := by
  induction spans with
  | nil => rfl
  | cons span rest ih => rw [normalizeAll, ih, List.map_cons]

theorem normalize_of_isText {span : Span} (plain : span.isText) : span.normalize = span := by
  obtain ⟨tag, data, key, text, children⟩ := span
  obtain ⟨untagged, childless⟩ := Bool.and_eq_true_iff.mp plain
  obtain rfl := List.isEmpty_iff.mp childless
  rw [normalize, if_pos childless, if_pos untagged]

/-- What a span in normal form that is no text has as its children. -/
def normalChildren (span : Span) : List Span :=
  if span.children.isEmpty then span.text.toList.map .ofText else span.children.map normalize

theorem normalize_of_not_isText {span : Span} (other : ¬ span.isText) :
    span.normalize = ⟨span.tag, span.data, span.key, none, span.normalChildren⟩ := by
  obtain ⟨tag, data, key, text, children⟩ := span
  rw [normalize, normalChildren]
  by_cases childless : children.isEmpty
  · have tagged : ¬ tag.isNone := fun untagged => other (Bool.and_eq_true_iff.mpr ⟨untagged, childless⟩)
    rw [if_pos childless, if_neg tagged, if_pos childless]
  · rw [if_neg childless, if_neg childless, normalizeAll_eq]

theorem not_isText_normalize {span : Span} (other : ¬ span.isText) : ¬ span.normalize.isText := by
  rw [normalize_of_not_isText other]
  intro plain
  obtain ⟨untagged, childless⟩ := Bool.and_eq_true_iff.mp plain
  refine other (Bool.and_eq_true_iff.mpr ⟨untagged, ?_⟩)
  unfold normalChildren at childless
  split at childless
  · assumption
  · exact List.isEmpty_map.symm.trans childless

end Span

namespace Engine

variable {e : Engine} {limit : Nat} {enclosing : List Tag}

theorem content_of_textless {span : Span} (textless : span.text = none) :
    e.content limit enclosing span = span.children.map (e.render limit enclosing) := by
  unfold content
  split
  · rename_i childless
    rw [textless, List.isEmpty_iff.mp childless]
    rfl
  · rfl

theorem render_ofText_of_endsAbove {s : String} (ends : (Span.ofText s).EndsAbove limit) :
    e.render limit enclosing (.ofText s) = (e.strategyFor enclosing).text s enclosing := by
  cases limit with
  | zero => exact absurd ends (Span.not_endsAbove_zero _)
  | succ limit => exact render_text rfl e limit enclosing

theorem render_normalize {span : Span} (ends : span.normalize.EndsAbove limit) :
    e.render limit enclosing span.normalize = e.render limit enclosing span := by
  induction limit generalizing enclosing span with
  | zero => exact absurd ends (Span.not_endsAbove_zero _)
  | succ limit ih =>
      by_cases plain : span.isText
      · rw [Span.normalize_of_isText plain]
      · rw [render_node (Span.not_isText_normalize plain), render_node plain]
        rw [Span.normalize_of_not_isText plain] at ends ⊢
        congr 1
        rw [content_of_textless rfl]
        -- A text that a child takes has the same tags around it as in the span itself.
        have above (child : Span) (below : child ∈ span.normalChildren) : child.EndsAbove limit :=
          ends.child below
        unfold content
        unfold Span.normalChildren at above ⊢
        split at above
        · rename_i childless
          rw [if_pos childless, if_pos childless, List.map_map]
          exact List.map_congr_left fun s own =>
            render_ofText_of_endsAbove (above _ (List.mem_map_of_mem own))
        · rename_i parent
          rw [if_neg parent, if_neg parent, List.map_map]
          exact List.map_congr_left fun child below => ih (above _ (List.mem_map_of_mem below))

/-! ## The statement -/

theorem renderIn_normalize (e : Engine) (span : Span) (enclosing : List Tag)
    (ends : span.normalize.EndsAbove e.maxDepth) :
    e.renderIn span.normalize enclosing = e.renderIn span enclosing := by
  rw [renderIn_eq, renderIn_eq]
  exact render_normalize ends

/-- A quote that holds its text itself, in a form with a text beside its child. -/
theorem renderIn_normalize_quote :
    let quote : Span := { tag := some .quote, text := some "hi" }
    let root : Span := { tag := some .form, text := some "old", children := [quote] }
    let e : Engine := { strategy := .full, quoteStrategy := some (.quoted {}), maxDepth := 3 }
    root.normalize =
        .withChildren (.ofTag .form) [.withChildren (.ofTag .quote) [.ofText "hi"]] ∧
      root.normalize.EndsAbove e.maxDepth ∧
      e.renderIn root.normalize [.strong] = e.renderIn root [.strong] := by
  intro quote root e
  have ends : root.normalize.EndsAbove e.maxDepth := by
    refine Span.endsAbove_succ (List.forall_mem_singleton.mpr ?_)
    refine Span.endsAbove_succ (List.forall_mem_singleton.mpr ?_)
    exact Span.endsAbove_succ (List.forall_mem_nil _)
  exact ⟨rfl, ends, renderIn_normalize e root [.strong] ends⟩

end Engine

end RichText
