import RichText.Proofs.Rendering.Conservation
import RichText.Proofs.Rendering.Drawn

/-!
# Tags without a meaning

Hashtags, rows and tags that are not known only group their content. Main statement
(`render_untag`): to take such tags away, anywhere in a document, changes neither its leaves nor its
plain text, whatever the options. The tree of nodes does change, since a span without tag and
children is a text itself and not a node around one.
-/
namespace RichText

def Tag.isNeutral : Tag → Bool
  | hashtag => true
  | row => true
  | other _ => true
  | _ => false

def Tag.keep (taken : Bool) (tag : Option Tag) : Option Tag :=
  if taken then tag.filter (!·.isNeutral) else tag

namespace Span

mutual

/-- A document without the neutral tags at some of its paths. -/
def untag (taken : List Nat → Bool) : Span → Span
  | ⟨tag, data, key, text, children⟩ =>
    ⟨Tag.keep (taken []) tag, data, key, text, untagAll taken 0 children⟩

def untagAll (taken : List Nat → Bool) (i : Nat) : List Span → List Span
  | [] => []
  | span :: rest => span.untag (fun path => taken (i :: path)) :: untagAll taken (i + 1) rest

end

theorem untag_eq (taken : List Nat → Bool) (span : Span) :
    span.untag taken =
      { span with tag := Tag.keep (taken []) span.tag
                  children := untagAll taken 0 span.children } := by
  cases span
  rw [untag]

theorem map_untagAll {α : Type} {f : Span → α} {spans : List Span}
    (same : ∀ span ∈ spans, ∀ taken, f (span.untag taken) = f span) (taken : List Nat → Bool)
    (i : Nat) : (untagAll taken i spans).map f = spans.map f := by
  induction spans generalizing i with
  | nil => rfl
  | cons span rest ih =>
      obtain ⟨first, others⟩ := List.forall_mem_cons.mp same
      rw [untagAll, List.map_cons, List.map_cons, first, ih others]

theorem isEmpty_untagAll (taken : List Nat → Bool) (i : Nat) (spans : List Span) :
    (untagAll taken i spans).isEmpty = spans.isEmpty := by
  cases spans <;> rfl

end Span

theorem Tag.keep_eq_some {t : Tag} (other : t.isNeutral = false) (taken : Bool)
    (tag : Option Tag) : keep taken tag = some t ↔ tag = some t := by
  cases taken with
  | false => rfl
  | true =>
      rw [keep, if_pos rfl, Option.filter_eq_some_iff]
      refine and_iff_left_of_imp fun _ => ?_
      rw [other]
      rfl

namespace Span

theorem drawAround_keep (span : Span) (taken : Bool) (children : List Span)
    (policy : Option QuotePolicy) (content : Place → List (List Leaf)) (place : Place) :
    { span with tag := Tag.keep taken span.tag, children }.drawAround policy content place =
      span.drawAround policy content place := by
  obtain ⟨tag, data, key, text, spans⟩ := span
  cases taken with
  | false => rfl
  | true =>
      -- A neutral tag has no property, so it is drawn like no tag.
      cases tag with
      | none => rfl
      | some t => cases t <;> rfl

theorem flatText_untag (taken : List Nat → Bool) (span : Span) :
    (span.untag taken).flatText = span.flatText := by
  induction span using Span.induction generalizing taken with
  | step span ih =>
      have isBreak := Tag.keep_eq_some (t := .lineBreak) rfl (taken []) span.tag
      rw [untag_eq, flatText_eq, flatText_eq, texts, texts]
      simp only [isBreak, isEmpty_untagAll, map_untagAll ih]

theorem content_untag {options : Options} {limit : Nat} {quoted : Bool} {span : Span}
    (same : ∀ place, ∀ child ∈ span.children, ∀ taken,
      (child.untag taken).draw options limit quoted place = child.draw options limit quoted place)
    (taken : List Nat → Bool) :
    (span.untag taken).content options limit quoted = span.content options limit quoted := by
  funext place
  rw [untag_eq]
  simp only [Span.content, isEmpty_untagAll, map_untagAll (same place)]

theorem draw_untag (options : Options) (limit : Nat) (quoted : Bool) (place : Place) (span : Span)
    (taken : List Nat → Bool) :
    (span.untag taken).draw options limit quoted place =
      span.draw options limit quoted place := by
  induction limit generalizing quoted place span taken with
  | zero => rw [draw, draw, flatText_untag]
  | succ limit ih =>
      -- No quote is taken away, so the same policy is in force inside.
      have within : ((span.untag taken).tag == some .quote) = (span.tag == some .quote) := by
        rw [untag_eq, Bool.eq_iff_iff, beq_iff_eq, beq_iff_eq]
        exact Tag.keep_eq_some rfl _ _
      rw [draw_succ, draw_succ, within, content_untag fun place child _ => ih _ place child,
        untag_eq]
      exact drawAround_keep span (taken []) _ _ _ place

end Span

/-! ## Plain text -/

open Node

namespace Node

theorem map_innerText_intersperse (separator : Node) (ns : List Node) :
    (ns.intersperse separator).map innerText =
      (ns.map innerText).intersperse separator.innerText := by
  induction ns with
  | nil => rfl
  | cons first rest ih =>
      cases rest with
      | nil => rfl
      | cons second rest =>
          rw [List.intersperse_cons_cons, List.map_cons, List.map_cons, ih]
          rfl

end Node

namespace Strategy

theorem plainText_buttonNode (c : Context) (children : List Node) :
    (buttonNode c children).plainText = innerTexts children := by
  unfold buttonNode
  dsimp only
  split <;> rfl

theorem plainText_full (c : Context) {ns ms : List Node}
    (same : ns.map innerText = ms.map innerText) :
    (full.node c ns).plainText = (full.node c ms).plainText := by
  have inner : innerTexts ns = innerTexts ms := by
    rw [innerTexts_eq_join, same, innerTexts_eq_join]
  have lines : innerTexts (onLines ns) = innerTexts (onLines ms) := by
    rw [innerTexts_eq_join, innerTexts_eq_join, onLines, onLines, map_innerText_intersperse, same,
      map_innerText_intersperse]
  obtain ⟨tag, data, key, enclosing⟩ := c
  cases tag with
  | none => exact inner
  | some t =>
      cases t with
      | lineBreak | image | file => rfl
      | mention | link =>
          exact (shows_withProperty? ns _).text.trans
            (inner.trans (shows_withProperty? ms _).text.symm)
      | button =>
          change (buttonNode _ ns).plainText = (buttonNode _ ms).plainText
          rw [plainText_buttonNode, plainText_buttonNode, inner]
      | form => exact lines
      | quote =>
          change innerTexts ns ++ "\n" = innerTexts ms ++ "\n"
          rw [inner]
      | strong | emphasis | strikethrough | highlight | code | hashtag | row | other => exact inner

theorem full_keep (taken : Bool) (tag : Option Tag) (data : Option Json.Fields)
    (key : Option UInt64) (enclosing : List Tag) :
    full.node ⟨Tag.keep taken tag, data, key, enclosing⟩ =
      full.node ⟨tag, data, key, enclosing⟩ := by
  cases taken with
  | false => rfl
  | true =>
      cases tag with
      | none => rfl
      | some t => cases t <;> rfl

end Strategy

namespace Document

variable (options : Options) (limit : Nat) (enclosing : List Tag) (span : Span)

theorem drawn_content (place : Place) :
    ((engine options).content limit enclosing span).map (·.drawn place) =
      span.content options limit (enclosing.contains .quote) place := by
  unfold Engine.content Span.content
  split
  · rw [List.map_map, strategyFor_engine]
    exact List.map_congr_left fun s _ => Strategy.drawn_underText _ s enclosing place
  · rw [List.map_map]
    exact List.map_congr_left fun child _ => drawn_render options limit enclosing child place

theorem map_innerText_content :
    ((engine options).content limit enclosing span).map innerText =
      (span.content options limit (enclosing.contains .quote) { }).map Leaf.textOf := by
  rw [← drawn_content, List.map_map]
  apply List.map_congr_left
  intro n member
  exact (textOf_leavesIn n (sound_content options limit enclosing span n member).1 .empty 0).symm

theorem plainText_render_root :
    ((engine options).render (limit + 1) [] span).plainText =
      (Strategy.full.node ⟨span.tag, span.data, span.key, []⟩
        ((engine options).content limit span.tag.toList span)).plainText := by
  have strategy : (engine options).strategyFor [] = .full := strategyFor_engine options []
  by_cases plain : span.isText
  -- A text says what a span around it would, and no quote is around the root.
  · rw [Engine.render_text plain, strategy]
    obtain ⟨tag, data, key, text, children⟩ := span
    simp only [Span.isText, Bool.and_eq_true, Option.isNone_iff_eq_none, List.isEmpty_iff] at plain
    obtain ⟨rfl, rfl⟩ := plain
    cases text with
    | none => rfl
    | some s =>
        simp only [Engine.content, Option.toList_none, Option.toList_some, strategy]
        exact String.append_empty.symm
  · rw [Engine.render_node plain, strategy]
    rfl

theorem plainText_untag (taken : List Nat → Bool) :
    ((engine options).render limit [] (span.untag taken)).plainText =
      ((engine options).render limit [] span).plainText := by
  cases limit with
  | zero => rw [Engine.render, Engine.render, Span.flatText_untag]
  | succ limit =>
      have quoted : (span.untag taken).tag.toList.contains .quote =
          span.tag.toList.contains .quote := by
        rw [Span.untag_eq, Bool.eq_iff_iff, List.contains_iff_mem, List.contains_iff_mem,
          Option.mem_toList, Option.mem_toList]
        exact Tag.keep_eq_some rfl _ _
      have inner : ((engine options).content limit (span.untag taken).tag.toList
          (span.untag taken)).map innerText =
            ((engine options).content limit span.tag.toList span).map innerText := by
        rw [map_innerText_content, map_innerText_content, quoted,
          Span.content_untag fun place child _ => Span.draw_untag options limit _ place child]
      rw [plainText_render_root, plainText_render_root, Strategy.plainText_full _ inner,
        Span.untag_eq, Strategy.full_keep]

/-! ## The statement -/

theorem render_untag (taken : List Nat → Bool) :
    (render (span.untag taken) options).leaves = (render span options).leaves ∧
      (render (span.untag taken) options).plainText = (render span options).plainText := by
  rw [render_eq, render_eq]
  refine ⟨?_, plainText_untag options options.maxDepth span taken⟩
  have drawn (span : Span) := drawn_render options options.maxDepth [] span { }
  exact (drawn _).trans ((Span.draw_untag options _ _ { } span taken).trans (drawn _).symm)

end Document

end RichText
