import Mathlib.Data.List.Forall2
import RichText.Proofs.Rendering.Drawn
import RichText.Proofs.Span.FlatText

/-!
# Entity keys

Keys are handed on from spans to attachments and never looked at. Main statement
(`render_mapPayload`): to change the keys of a document changes the keys of its attachments and
nothing else. Read in order, the attachments belong to spans of the document, each to one of its own,
and carry its key.
-/
namespace RichText

def Attachment.mapKey (f : Option UInt64 → Option UInt64) (a : Attachment) : Attachment :=
  a.withKey (f a.key)

def Attachment.DrawnBy (a : Attachment) (span : Span) : Prop := span.Draws a

namespace Span

mutual

def spans : Span → List Span
  | ⟨tag, data, key, text, children⟩ => ⟨tag, data, key, text, children⟩ :: spansOfAll children

def spansOfAll : List Span → List Span
  | [] => []
  | span :: rest => span.spans ++ spansOfAll rest

end

theorem spans_eq (span : Span) : span.spans = span :: span.children.flatMap spans := by
  have all (spans' : List Span) : spansOfAll spans' = spans'.flatMap spans := by
    induction spans' with
    | nil => rfl
    | cons span rest ih => rw [spansOfAll, ih, List.flatMap_cons]
  cases span
  rw [spans, all]

def unkeyed (span : Span) : Span := span.mapPayload id fun _ => none

end Span

namespace Node

mutual

def mapKeys (f : Option UInt64 → Option UInt64) : Node → Node
  | text s own a => text s own (a.map (·.mapKey f))
  | container ns own a => container (mapKeysAll f ns) own (a.map (·.mapKey f))

def mapKeysAll (f : Option UInt64 → Option UInt64) : List Node → List Node
  | [] => []
  | n :: rest => n.mapKeys f :: mapKeysAll f rest

end

def unkeyed (n : Node) : Node := n.mapKeys fun _ => none

/-- The attachments of a tree, each before those below it, hidden ones included. -/
def attachments (n : Node) : List Attachment := n.nodes.filterMap attachment

variable (f : Option UInt64 → Option UInt64)

theorem mapKeysAll_eq (ns : List Node) : mapKeysAll f ns = ns.map (mapKeys f) := by
  induction ns with
  | nil => rfl
  | cons n rest ih => rw [mapKeysAll, ih, List.map_cons]

theorem mapKeys_container (ns : List Node) (own : Style) (a : Option Attachment) :
    (container ns own a).mapKeys f = container (ns.map (mapKeys f)) own (a.map (·.mapKey f)) := by
  rw [mapKeys, mapKeysAll_eq]

theorem mapKeys_group (ns : List Node) : (group ns).mapKeys f = group (ns.map (mapKeys f)) :=
  mapKeys_container f ns .empty none

theorem mapKeys_empty : empty.mapKeys f = empty := mapKeys_group f []

theorem mapKeys_ofAttachment (a : Attachment) :
    (ofAttachment a).mapKeys f = ofAttachment (a.mapKey f) :=
  mapKeys_container f [] .empty (some a)

theorem mapKeys_withProperty (p : Style.Property) (n : Node) :
    (n.withProperty p).mapKeys f = (n.mapKeys f).withProperty p := by
  cases n with
  | text s own a => rfl
  | container ns own a => rw [withProperty, mapKeys_container, mapKeys_container, withProperty]

mutual

theorem innerText_mapKeys (n : Node) : (n.mapKeys f).innerText = n.innerText := by
  have hides_map (a : Option Attachment) : hides (a.map (·.mapKey f)) = hides a := by
    cases a <;> rfl
  match n with
  | text s own a => rw [mapKeys, innerText, hides_map, innerText]
  | container ns own a => rw [mapKeys, innerText, hides_map, innerTexts_mapKeys ns, innerText]

theorem innerTexts_mapKeys (ns : List Node) : innerTexts (mapKeysAll f ns) = innerTexts ns := by
  match ns with
  | [] => rfl
  | n :: rest =>
      rw [mapKeysAll, innerTexts, innerText_mapKeys n, innerTexts_mapKeys rest, innerTexts]

end

theorem plainText_group_mapKeys (ns : List Node) :
    (group (ns.map (mapKeys f))).plainText = (group ns).plainText := by
  rw [← mapKeysAll_eq]
  exact innerTexts_mapKeys f ns

theorem attachments_container (ns : List Node) (own : Style) (a : Option Attachment) :
    (container ns own a).attachments = a.toList ++ ns.flatMap attachments := by
  have all (ns : List Node) : (nodesOfAll ns).filterMap attachment = ns.flatMap attachments := by
    induction ns with
    | nil => rfl
    | cons n rest ih =>
        rw [nodesOfAll, List.filterMap_append, ih, List.flatMap_cons, attachments]
  rw [attachments, nodes, ← all]
  cases a <;> rfl

theorem attachments_group (ns : List Node) : (group ns).attachments = ns.flatMap attachments :=
  attachments_container ns .empty none

theorem attachments_withProperty (ns : List Node) (p : Style.Property) :
    ((group ns).withProperty p).attachments = ns.flatMap attachments :=
  attachments_container ns (Style.empty.insert p) none

theorem attachments_withAttachment (ns : List Node) (a : Attachment) :
    ((group ns).withAttachment a).attachments = a :: ns.flatMap attachments :=
  attachments_container ns .empty (some a)

end Node

open Node

/-! ## Steps -/

namespace Strategy

variable (f : Option UInt64 → Option UInt64) (tag : Option Tag) (data : Option Json.Fields)
  (key : Option UInt64) (enclosing : List Tag) (children : List Node)

theorem mapKeys_withProperty? (p : Option Style.Property) :
    (withProperty? (.group children) p).mapKeys f =
      withProperty? (.group (children.map (mapKeys f))) p := by
  cases p with
  | none => exact mapKeys_group f children
  | some p =>
      rw [withProperty?, mapKeys_withProperty, mapKeys_group]
      rfl

theorem mapKeys_onLines : (onLines children).map (mapKeys f) = onLines (children.map (mapKeys f)) := by
  unfold onLines
  induction children with
  | nil => rfl
  | cons first rest ih =>
      cases rest with
      | nil => rfl
      | cons second rest =>
          rw [List.intersperse_cons_cons, List.map_cons, List.map_cons, ih]
          rfl

theorem attachments_onLines : (onLines children).flatMap attachments = children.flatMap attachments := by
  unfold onLines
  induction children with
  | nil => rfl
  | cons first rest ih =>
      cases rest with
      | nil => rfl
      | cons second rest =>
          rw [List.intersperse_cons_cons, List.flatMap_cons, List.flatMap_cons, ih,
            List.flatMap_cons]
          rfl

theorem mapKeys_imageNode :
    (imageNode ⟨tag, data, key, enclosing⟩).mapKeys f = imageNode ⟨tag, data, f key, enclosing⟩ := by
  unfold imageNode
  exact mapKeys_ofAttachment f _

theorem mapKeys_fileNode :
    (fileNode ⟨tag, data, key, enclosing⟩).mapKeys f = fileNode ⟨tag, data, f key, enclosing⟩ := by
  rw [fileNode_eq, fileNode_eq]
  split
  · exact mapKeys_empty f
  · exact mapKeys_ofAttachment f _

theorem mapKeys_buttonNode :
    (buttonNode ⟨tag, data, key, enclosing⟩ children).mapKeys f =
      buttonNode ⟨tag, data, f key, enclosing⟩ (children.map (mapKeys f)) := by
  unfold buttonNode
  dsimp only
  -- The label, and with it the address, come from the texts below.
  rw [plainText_group_mapKeys]
  cases data.bind (Action.address? (Node.group children).plainText) with
  | none => exact mapKeys_group f children
  | some address => exact mapKeys_container f children .empty (some _)

theorem mapKeys_quoteNode :
    (quoteNode ⟨tag, data, key, enclosing⟩ children).mapKeys f =
      quoteNode ⟨tag, data, f key, enclosing⟩ (children.map (mapKeys f)) := by
  have inner := mapKeys_container f children .empty (some { kind := .quote, key })
  unfold quoteNode
  rw [mapKeys_group, List.map_cons]
  exact congrArg (fun n => Node.group [n, .lineBreak]) inner

theorem mapKeys_full :
    (full.node ⟨tag, data, key, enclosing⟩ children).mapKeys f =
      full.node ⟨tag, data, f key, enclosing⟩ (children.map (mapKeys f)) := by
  have plain := mapKeys_group f children
  cases tag with
  | none => exact plain
  | some t =>
      have styled := mapKeys_withProperty? f children t.property?
      cases t with
      | lineBreak => rfl
      | strong | emphasis | strikethrough | highlight | code => exact styled
      | mention | link => exact mapKeys_withProperty? f children _
      | image => exact mapKeys_imageNode f _ data key enclosing
      | file => exact mapKeys_fileNode f _ data key enclosing
      | button => exact mapKeys_buttonNode f _ data key enclosing children
      | form =>
          change (Node.group (onLines children)).mapKeys f = .group (onLines _)
          rw [mapKeys_group, mapKeys_onLines]
      | quote => exact mapKeys_quoteNode f _ data key enclosing children
      | hashtag | row | other => exact plain

theorem mapKeys_reduction (r : Reduction) {whole whole' substitute substitute' : Node}
    (kept : whole.mapKeys f = whole') (replaced : substitute.mapKeys f = substitute') :
    (match r with | .keep => whole | .placeholder => substitute | .drop => Node.empty).mapKeys f =
      match r with | .keep => whole' | .placeholder => substitute' | .drop => Node.empty := by
  cases r with
  | keep => exact kept
  | placeholder => exact replaced
  | drop => exact mapKeys_empty f

theorem mapKeys_quoted (rules : QuotePolicy) :
    ((quoted rules).node ⟨tag, data, key, enclosing⟩ children).mapKeys f =
      (quoted rules).node ⟨tag, data, f key, enclosing⟩ (children.map (mapKeys f)) := by
  have whole := mapKeys_full f tag data key enclosing children
  have plain := mapKeys_group f children
  cases tag with
  | none => exact whole
  | some t =>
      cases t with
      | mention =>
          change (if rules.mentionColor then _ else _ : Node).mapKeys f =
            if rules.mentionColor then _ else _
          split
          · exact whole
          · exact (mapKeys_withProperty f .bold _).trans (congrArg (·.withProperty .bold) plain)
      | link =>
          change (if rules.links then _ else _ : Node).mapKeys f = if rules.links then _ else _
          split
          · exact whole
          · exact plain
      -- A placeholder is a text, which has no key to begin with.
      | image => exact mapKeys_reduction f rules.images whole rfl
      | file =>
          change ((quoted rules).file _ children).mapKeys f = (quoted rules).file _ _
          rw [quotedFile_eq, quotedFile_eq]
          split
          · exact mapKeys_empty f
          · exact mapKeys_reduction f rules.files (mapKeys_fileNode f _ data key enclosing) rfl
      | button => exact mapKeys_reduction f rules.buttons whole plain
      | quote =>
          refine mapKeys_reduction f rules.nestedQuotes whole ?_
          rw [mapKeys_group, List.map_cons, mapKeys_group]
          rfl
      | lineBreak | strong | emphasis | strikethrough | highlight | code | hashtag | form | row
      | other => exact whole

theorem mapKeys_node (policy : Option QuotePolicy) :
    ((under policy).node ⟨tag, data, key, enclosing⟩ children).mapKeys f =
      (under policy).node ⟨tag, data, f key, enclosing⟩ (children.map (mapKeys f)) := by
  cases policy with
  | none => exact mapKeys_full f tag data key enclosing children
  | some rules => exact mapKeys_quoted f tag data key enclosing children rules

theorem mapKeys_underText (policy : Option QuotePolicy) (s : String) :
    ((under policy).text s enclosing).mapKeys f = (under policy).text s enclosing := by
  cases policy <;> rfl

/-- What a span becomes has the attachments of its content, and before them at most one that the
span draws. -/
theorem attachments_of_makes {span : Span} {enclosing : List Tag} {policy : Option QuotePolicy}
    {children : List Node} {n : Node} {below : List Span}
    (made : Makes policy ⟨span.tag, span.data, span.key, enclosing⟩ children n)
    (inner : List.SublistForall₂ Attachment.DrawnBy (children.flatMap attachments) below) :
    List.SublistForall₂ Attachment.DrawnBy n.attachments (span :: below) := by
  have line : [Node.lineBreak].flatMap attachments = [] := rfl
  have alone {a : Attachment} (draws : span.Draws a) :
      List.SublistForall₂ Attachment.DrawnBy (Node.ofAttachment a).attachments (span :: below) :=
    .cons draws .nil
  cases made with
  | lineBreak isTag => exact .nil
  | label inForce kind name => exact .nil
  | nothing => exact .nil
  | plain =>
      rw [attachments_group]
      exact .cons_right inner
  | styled given =>
      rw [attachments_withProperty]
      exact .cons_right inner
  | lines isTag =>
      rw [attachments_group, attachments_onLines]
      exact .cons_right inner
  | image isTag whole =>
      have draws := Span.Draws.image isTag
      unfold imageNode
      cases given : span.data with
      | none =>
          rw [given] at draws
          exact alone draws
      | some data =>
          rw [given] at draws
          exact alone draws
  | file isTag whole given =>
      have draws := Span.Draws.file isTag
      change span.data = _ at given
      rw [given] at draws
      exact alone draws
  | noFile isTag whole given =>
      have draws := Span.Draws.file isTag
      change span.data = _ at given
      rw [given] at draws
      exact alone draws
  | button isTag whole acts =>
      rw [attachments_withAttachment]
      exact .cons (.button isTag acts) inner
  | quote isTag whole =>
      rw [quoteNode, attachments_group, List.flatMap_cons, attachments_withAttachment, line,
        List.append_nil]
      exact .cons (.quote isTag) inner
  | unframed isTag reduced =>
      rw [attachments_group, List.flatMap_cons, attachments_group, line, List.append_nil]
      exact .cons_right inner

end Strategy

/-! ## Runs -/

theorem sublistForall₂_append {α β : Type} {R : α → β → Prop} {xs xs' : List α} {ys ys' : List β}
    (first : List.SublistForall₂ R xs ys) (second : List.SublistForall₂ R xs' ys') :
    List.SublistForall₂ R (xs ++ xs') (ys ++ ys') := by
  obtain ⟨zs, each, part⟩ := List.sublistForall₂_iff.mp first
  obtain ⟨zs', each', part'⟩ := List.sublistForall₂_iff.mp second
  exact List.sublistForall₂_iff.mpr ⟨zs ++ zs', List.rel_append each each', part.append part'⟩

theorem sublistForall₂_flatMap {α β γ : Type} {R : β → γ → Prop} {f : α → List β} {g : α → List γ}
    {xs : List α} (each : ∀ x ∈ xs, List.SublistForall₂ R (f x) (g x)) :
    List.SublistForall₂ R (xs.flatMap f) (xs.flatMap g) := by
  induction xs with
  | nil => exact .nil
  | cons x rest ih =>
      obtain ⟨first, others⟩ := List.forall_mem_cons.mp each
      exact sublistForall₂_append first (ih others)

namespace Document

variable (f : Option UInt64 → Option UInt64) (options : Options)

theorem mapKeys_render (limit : Nat) (enclosing : List Tag) (span : Span) :
    ((engine options).render limit enclosing span).mapKeys f =
      (engine options).render limit enclosing (span.mapPayload id f) := by
  induction limit generalizing enclosing span with
  | zero =>
      rw [Engine.render, Engine.render, Span.flatText_mapPayload]
      rfl
  | succ limit ih =>
      have content (inner : List Tag) : ((engine options).content limit inner span).map (mapKeys f) =
          (engine options).content limit inner (span.mapPayload id f) := by
        rw [Span.mapPayload_eq]
        unfold Engine.content
        simp only [List.isEmpty_map]
        split
        · rw [List.map_map, strategyFor_engine]
          exact List.map_congr_left fun s _ => Strategy.mapKeys_underText f inner _ s
        · rw [List.map_map, List.map_map]
          exact List.map_congr_left fun child _ => ih inner child
      have same : (span.mapPayload id f).isText = span.isText := by
        rw [Span.mapPayload_eq, Span.isText, Span.isText, List.isEmpty_map]
      by_cases plain : span.isText
      · rw [Engine.render_text plain, Engine.render_text (same.trans plain), strategyFor_engine,
          Strategy.mapKeys_underText, Span.mapPayload_eq]
      · rw [Engine.render_node plain, Engine.render_node (by rwa [same]), strategyFor_engine,
          Strategy.mapKeys_node, content, Span.mapPayload_eq]
        rfl

theorem attachments_render (limit : Nat) (enclosing : List Tag) (span : Span) :
    List.SublistForall₂ Attachment.DrawnBy
      ((engine options).render limit enclosing span).attachments span.spans := by
  have silent (s : String) (inner : List Tag) :
      (((engine options).strategyFor inner).text s inner).attachments = [] := by
    rw [strategyFor_engine]
    cases options.policyFor (inner.contains .quote) <;> rfl
  induction limit generalizing enclosing span with
  | zero => exact .nil
  | succ limit ih =>
      by_cases plain : span.isText
      · rw [Engine.render_text plain, silent]
        exact .nil
      · rw [Engine.render_node plain, strategyFor_engine, Span.spans_eq]
        apply Strategy.attachments_of_makes (Strategy.makes_node _ _ _)
        unfold Engine.content
        split
        · rw [List.flatMap_map, List.flatMap_eq_nil_iff.mpr fun s _ => silent s _]
          exact .nil
        · rw [List.flatMap_map]
          exact sublistForall₂_flatMap fun child _ => ih _ child

/-! ## The statement -/

theorem render_mapPayload (span : Span) (key : Option UInt64 → Option UInt64) :
    render (span.mapPayload id key) options = (render span options).mapKeys key ∧
      (∀ other : Span, other.unkeyed = span.unkeyed →
        (render other options).unkeyed = (render span options).unkeyed) ∧
      List.SublistForall₂ Attachment.DrawnBy (render span options).attachments
        span.spans := by
  refine ⟨?_, ?_, ?_⟩
  · rw [render_eq, render_eq, mapKeys_render]
  · intro other same
    rw [render_eq, render_eq, unkeyed, unkeyed, mapKeys_render, mapKeys_render]
    exact congrArg _ same
  · rw [render_eq]
    exact attachments_render options _ [] span

/-- Two keys trade places, in a quote with a button around an image. -/
theorem render_mapPayload_button :
    let image : Span := .withKey (.ofTag .image) 5
    let button : Span := .withKey (.withData (.withChildren (.ofTag .button) [image])
      (.object [("act", .string "pub")])) 8
    let span : Span := .withChildren (.ofTag .quote) [button]
    let key : Option UInt64 → Option UInt64 := fun k => if k = some 5 then some 8 else some 5
    let other := span.mapPayload id key
    other.unkeyed = span.unkeyed ∧
      (render other { quotePolicy := some .keepAll }).unkeyed =
        (render span { quotePolicy := some .keepAll }).unkeyed := by
  intro image button span key other
  have same : other.unkeyed = span.unkeyed := rfl
  exact ⟨same, (render_mapPayload { quotePolicy := some .keepAll } span key).2.1 other same⟩

end Document

end RichText
