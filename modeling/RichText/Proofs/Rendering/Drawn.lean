import RichText.Proofs.Rendering.Drawing

/-!
# What is drawn at a place

A relation between places and the leaves that are drawn there, handed on by every step from the
places to which a span takes its content. Main statement (`Invariant.draw`): it holds of all leaves
of a document.
-/
namespace RichText

namespace Span

def content (span : Span) (options : Options) (limit : Nat) (quoted : Bool) (place : Place) :
    List (List Leaf) :=
  if span.children.isEmpty then span.text.toList.map (place.words (options.policyFor quoted))
  else span.children.map (draw options limit quoted place)

theorem draw_succ (span : Span) (options : Options) (limit : Nat) (quoted : Bool) (place : Place) :
    span.draw options (limit + 1) quoted place =
      span.drawAround (options.policyFor quoted)
        (span.content options limit (quoted || span.tag == some .quote)) place := by
  rw [draw]
  rfl

inductive Draws (span : Span) : Attachment → Prop
  | image (isTag : span.tag = some .image) :
      Draws span { span.data.elim { kind := .image } Attachment.image with key := span.key }
  | file (isTag : span.tag = some .file) :
      Draws span { span.data.elim { kind := .empty } Attachment.file with key := span.key }
  | button {label address : String} (isTag : span.tag = some .button)
      (acts : span.data.bind (Action.address? label) = some address) :
      Draws span { Attachment.button address label with key := span.key }
  | quote (isTag : span.tag = some .quote) : Draws span { kind := .quote, key := span.key }

/-- What the steps of drawing a document hand on. -/
structure Invariant (root : Span) (options : Options) (P : Place → Leaf → Prop) : Prop where
  text : ∀ place s, P place ⟨.text s, place.style, place.quoteDepth⟩
  attached : ∀ span, root.Within span → ∀ a, span.Draws a → ∀ place,
    P place ⟨.attachment a, place.style, place.quoteDepth⟩
  muted : ∀ rules ∈ options.quotePolicy, ∀ place leaf,
    P (place.styled rules.textStyle) leaf → P place leaf
  italic : ∀ place leaf, P (place.having .italic) leaf → P place leaf
  having : ∀ span, root.Within span → ∀ policy p, span.property? policy = some p →
    ∀ place leaf, P (place.having p) leaf → P place leaf
  quoted : ∀ place leaf, P place.quoted leaf → P place leaf

theorem forall_mem_reduced {P : Leaf → Prop} {policy : Option QuotePolicy}
    {rule : QuotePolicy → Reduction} {whole : List Leaf} {substitute : QuotePolicy → List Leaf}
    (kept : ∀ leaf ∈ whole, P leaf)
    (replaced : ∀ rules ∈ policy, ∀ leaf ∈ substitute rules, P leaf) :
    ∀ leaf ∈ reduced policy rule whole substitute, P leaf := by
  unfold reduced
  split
  · exact kept
  · split
    · exact kept
    · exact replaced _ rfl
    · exact List.forall_mem_nil _

namespace Invariant

variable {root : Span} {options : Options} {P : Place → Leaf → Prop}
  (invariant : root.Invariant options P)

include invariant

theorem run (place : Place) (s : String) : ∀ leaf ∈ place.run s, P place leaf := by
  unfold Place.run
  split
  · exact List.forall_mem_nil _
  · exact List.forall_mem_singleton.mpr (invariant.text place s)

theorem words (quoted : Bool) (place : Place) (s : String) :
    ∀ leaf ∈ place.words (options.policyFor quoted) s, P place leaf := by
  cases given : options.policyFor quoted with
  | none => exact invariant.run place s
  | some rules =>
      intro leaf member
      apply invariant.muted rules (Options.mem_quotePolicy given)
      exact invariant.run _ s leaf member

theorem label {rules : QuotePolicy} (inForce : rules ∈ options.quotePolicy) (place : Place)
    (kind : String) (name : Option String) :
    ∀ leaf ∈ place.label rules kind name, P place leaf := by
  intro leaf member
  apply invariant.muted rules inForce
  apply invariant.italic
  exact invariant.run _ _ leaf member

theorem content {span : Span} {limit : Nat}
    (drawn : ∀ child ∈ span.children, ∀ quoted place,
      ∀ leaf ∈ child.draw options limit quoted place, P place leaf)
    (quoted : Bool) (place : Place) :
    ∀ leaves ∈ span.content options limit quoted place, ∀ leaf ∈ leaves, P place leaf := by
  intro leaves member
  unfold Span.content at member
  split at member
  · obtain ⟨s, -, rfl⟩ := List.mem_map.mp member
    exact invariant.words quoted place s
  · obtain ⟨child, below, rfl⟩ := List.mem_map.mp member
    exact drawn child below quoted place

variable {span : Span} (inside : root.Within span)

include inside

theorem attachment {a : Attachment} (draws : span.Draws a) (place : Place) :
    ∀ leaf ∈ place.attachment a, P place leaf :=
  List.forall_mem_singleton.mpr (invariant.attached span inside a draws place)

theorem drawAround (quoted : Bool) {content : Place → List (List Leaf)}
    (inner : ∀ place, ∀ leaves ∈ content place, ∀ leaf ∈ leaves, P place leaf) (place : Place) :
    ∀ leaf ∈ span.drawAround (options.policyFor quoted) content place, P place leaf := by
  have line : ∀ leaf ∈ place.run "\n", P place leaf := invariant.run place "\n"
  have label (kind : String) (name : Option String) : ∀ rules ∈ options.policyFor quoted,
      ∀ leaf ∈ place.label rules kind name, P place leaf :=
    fun rules inForce => invariant.label (Options.mem_quotePolicy inForce) place kind name
  have face (place : Place) : ∀ leaf ∈ (content place).flatten, P place leaf :=
    List.forall_mem_flatten.mpr (inner place)
  have laid : ∀ leaf ∈
      (content (place.having? (span.property? (options.policyFor quoted)))).flatten,
      P place leaf := by
    cases given : span.property? (options.policyFor quoted) with
    | none => exact face place
    | some p =>
        intro leaf member
        exact invariant.having span inside _ p given place leaf (face _ leaf member)
  unfold Span.drawAround
  cases isTag : span.tag with
  | none => exact laid
  | some t =>
      cases t with
      | lineBreak => exact line
      | image =>
          exact forall_mem_reduced (invariant.attachment inside (.image isTag) place) (label _ _)
      | file =>
          simp only [drawFile]
          split
          · exact List.forall_mem_nil _
          · exact forall_mem_reduced (invariant.attachment inside (.file isTag) place) (label _ _)
      | button =>
          refine forall_mem_reduced ?_ fun _ _ => face place
          split
          · exact face place
          · rename_i acts
            exact invariant.attachment inside (.button isTag acts) place
      | form =>
          exact List.forall_mem_flatten.mpr (Strategy.forall_mem_intersperse (inner place) line)
      | quote =>
          refine forall_mem_reduced ?_ fun _ _ => List.forall_mem_append.mpr ⟨face place, line⟩
          rw [List.forall_mem_append, List.forall_mem_append]
          refine ⟨invariant.attachment inside (.quote isTag) place, ?_, line⟩
          exact fun leaf member => invariant.quoted place leaf (face place.quoted leaf member)
      | _ => exact laid

theorem draw (limit : Nat) (quoted : Bool) (place : Place) :
    ∀ leaf ∈ span.draw options limit quoted place, P place leaf := by
  induction limit generalizing quoted place span with
  | zero => exact invariant.run place _
  | succ limit ih =>
      rw [draw_succ]
      apply invariant.drawAround inside
      exact invariant.content (fun child below => ih (inside.child below)) _

end Invariant

end Span

end RichText
