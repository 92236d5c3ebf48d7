import Mathlib.Data.List.Forall2
import RichText.Proofs.Rendering.Drawn
import RichText.Proofs.Url.Action

/-!
# Content outside quotes

What the policy for quotes can change outside of them. Main statement (`render_outside`): under any
two policies the leaves that no quote is around are the same, one by one, up to the texts of buttons
that have a quote inside.
-/
namespace RichText

def Span.Quotes (span : Span) : Prop := ∃ quote, span.Within quote ∧ quote.tag = some .quote

/-- The leaves of a document under two policies: the same, or buttons of one span with a quote
inside, with other texts as their names and as the titles of their answers. -/
inductive Leaf.Alike (root : Span) : Leaf → Leaf → Prop
  | same (leaf : Leaf) : Alike root leaf leaf
  | button {span : Span} {label label' address address' : String} (inside : root.Within span)
      (isTag : span.tag = some .button) (quotes : span.Quotes)
      (leads : address = address' ∨ ∃ rest,
        address.toList =
          "tinode:///post?title=".toList ++ (Url.Form.encode label.toList ++ rest) ∧
        address'.toList =
          "tinode:///post?title=".toList ++ (Url.Form.encode label'.toList ++ rest))
      (style : Style) (quoteDepth : Nat) :
      Alike root
        ⟨.attachment { Attachment.button address label with key := span.key }, style, quoteDepth⟩
        ⟨.attachment { Attachment.button address' label' with key := span.key }, style, quoteDepth⟩

theorem Leaf.Alike.eq {root : Span} {leaf leaf' : Leaf}
    (free : ∀ button, root.Within button → button.tag = some .button → ¬ button.Quotes)
    (alike : Alike root leaf leaf') : leaf = leaf' := by
  cases alike with
  | same => rfl
  | button inside isTag quotes => exact absurd quotes (free _ inside isTag)

def Leaf.outside (leaves : List Leaf) : List Leaf := leaves.filter (·.quoteDepth == 0)

def Leaf.AlikeOutside (root : Span) (xs ys : List Leaf) : Prop :=
  List.Forall₂ (Alike root) (outside xs) (outside ys)

namespace Leaf

variable {root : Span}

theorem alikeOutside_refl (xs : List Leaf) : AlikeOutside root xs xs :=
  List.forall₂_same.mpr fun leaf _ => .same leaf

theorem alikeOutside_attachment {place : Place} {a a' : Attachment}
    (alike : Alike root ⟨.attachment a, place.style, place.quoteDepth⟩
      ⟨.attachment a', place.style, place.quoteDepth⟩) :
    AlikeOutside root (place.attachment a) (place.attachment a') := by
  unfold AlikeOutside outside Place.attachment
  rw [List.filter_cons, List.filter_cons]
  split
  · exact .cons alike .nil
  · exact .nil

theorem alikeOutside_append {xs ys xs' ys' : List Leaf} (first : AlikeOutside root xs ys)
    (second : AlikeOutside root xs' ys') : AlikeOutside root (xs ++ xs') (ys ++ ys') := by
  unfold AlikeOutside outside
  rw [List.filter_append, List.filter_append]
  exact List.rel_append first second

theorem alikeOutside_flatten {xs ys : List (List Leaf)}
    (alike : List.Forall₂ (AlikeOutside root) xs ys) :
    AlikeOutside root xs.flatten ys.flatten := by
  induction alike with
  | nil => exact alikeOutside_refl []
  | cons first _ ih => exact alikeOutside_append first ih

theorem forall₂_intersperse {xs ys : List (List Leaf)} (separator : List Leaf)
    (alike : List.Forall₂ (AlikeOutside root) xs ys) :
    List.Forall₂ (AlikeOutside root) (xs.intersperse separator) (ys.intersperse separator) := by
  induction alike with
  | nil => exact .nil
  | cons first others ih =>
      cases others with
      | nil => exact .cons first .nil
      | cons second others => exact .cons first (.cons (alikeOutside_refl separator) ih)

theorem alikeOutside_deep {xs ys : List Leaf} (deep : ∀ leaf ∈ xs, 0 < leaf.quoteDepth)
    (deep' : ∀ leaf ∈ ys, 0 < leaf.quoteDepth) : AlikeOutside root xs ys := by
  have none (zs : List Leaf) (deep : ∀ leaf ∈ zs, 0 < leaf.quoteDepth) : outside zs = [] := by
    apply List.filter_eq_nil_iff.mpr
    intro leaf member
    have := deep leaf member
    simp only [beq_iff_eq]
    omega
  unfold AlikeOutside
  rw [none xs deep, none ys deep']
  exact .nil

end Leaf

/-! ## Depth of quotes -/

def Place.Below (place : Place) (leaves : List Leaf) : Prop :=
  ∀ leaf ∈ leaves, place.quoteDepth ≤ leaf.quoteDepth

theorem Place.below_flatten {place : Place} {xs : List (List Leaf)}
    (below : ∀ leaves ∈ xs, place.Below leaves) : place.Below xs.flatten :=
  List.forall_mem_flatten.mpr below

namespace Span

theorem invariant_below (root : Span) (options : Options) :
    root.Invariant options fun place leaf => place.quoteDepth ≤ leaf.quoteDepth where
  text _ _ := Nat.le_refl _
  attached _ _ _ _ _ := Nat.le_refl _
  muted _ _ _ _ deep := deep
  italic _ _ deep := deep
  having _ _ _ _ _ _ _ deep := deep
  quoted _ _ deep := Nat.le_of_succ_le deep

theorem below_content (options : Options) (limit : Nat) (span : Span) (quoted : Bool)
    (place : Place) : ∀ leaves ∈ span.content options limit quoted place, place.Below leaves := by
  have invariant := invariant_below span options
  exact invariant.content (fun child below => invariant.draw (.child .root below) limit) quoted place

/-! ## Two runs -/

variable {root : Span}

theorem Quotes.of_child {span child : Span} (quotes : child.Quotes)
    (below : child ∈ span.children) : span.Quotes := by
  obtain ⟨quote, inside, isTag⟩ := quotes
  exact ⟨quote, Within.trans (.child .root below) inside, isTag⟩

theorem content_eq {options options' : Options} {limit : Nat} {span : Span}
    (same : ∀ child ∈ span.children, ∀ place,
      child.draw options limit false place = child.draw options' limit false place) :
    span.content options limit false = span.content options' limit false := by
  funext place
  unfold content
  split
  · rfl
  · exact List.map_congr_left fun child below => same child below place

theorem content_alike {options options' : Options} {limit : Nat} {span : Span}
    (alike : ∀ child ∈ span.children, ∀ place, Leaf.AlikeOutside root
      (child.draw options limit false place) (child.draw options' limit false place))
    (place : Place) :
    List.Forall₂ (Leaf.AlikeOutside root) (span.content options limit false place)
      (span.content options' limit false place) := by
  unfold content
  split
  · exact List.forall₂_same.mpr fun leaves _ => Leaf.alikeOutside_refl leaves
  · rw [List.forall₂_map_left_iff, List.forall₂_map_right_iff]
    exact List.forall₂_same.mpr fun child below => alike child below place

variable (policy policy' : Option QuotePolicy) (maxDepth limit : Nat)

/-- Without quotes inside, a span is drawn alike under all policies. -/
theorem draw_eq_of_not_quotes {span : Span} (free : ¬ span.Quotes) (place : Place) :
    span.draw ⟨policy, maxDepth⟩ limit false place =
      span.draw ⟨policy', maxDepth⟩ limit false place := by
  induction limit generalizing place span with
  | zero => rfl
  | succ limit ih =>
      have other : (span.tag == some .quote) = false :=
        beq_eq_false_iff_ne.mpr fun isTag => free ⟨span, .root, isTag⟩
      rw [draw_succ, draw_succ, other, Bool.or_false, content_eq fun child below =>
        ih fun quotes => free (quotes.of_child below)]
      rfl

/-- What a button leads to depends on its text by a title only, and its text on a policy only with a
quote inside. -/
theorem alikeOutside_button {span : Span} (inside : root.Within span)
    (isTag : span.tag = some .button) {label label' : String} {face face' : List Leaf}
    (same : ¬ span.Quotes → label = label') (alike : Leaf.AlikeOutside root face face')
    (place : Place) :
    Leaf.AlikeOutside root
      (match span.data.bind (Action.address? label) with
        | none => face
        | some address => place.attachment { Attachment.button address label with key := span.key })
      (match span.data.bind (Action.address? label') with
        | none => face'
        | some address =>
          place.attachment { Attachment.button address label' with key := span.key }) := by
  cases given : span.data with
  | none => exact alike
  | some data =>
      rw [Option.bind_some, Option.bind_some]
      by_cases quotes : span.Quotes
      · rcases Action.address?_cases data with never | ⟨address, always⟩ | ⟨rest, titled⟩
        · rw [never, never]
          exact alike
        · rw [always, always]
          exact Leaf.alikeOutside_attachment (.button inside isTag quotes (.inl rfl) _ _)
        · obtain ⟨address, acts, text⟩ := titled label
          obtain ⟨address', acts', text'⟩ := titled label'
          rw [acts, acts']
          exact Leaf.alikeOutside_attachment
            (.button inside isTag quotes (.inr ⟨rest, text, text'⟩) _ _)
      · rw [same quotes]
        cases Action.address? label' data with
        | none => exact alike
        | some address => exact Leaf.alikeOutside_refl _

theorem drawAround_alike {span : Span} (inside : root.Within span)
    {content content' : Place → List (List Leaf)}
    (alike : span.tag ≠ some .quote → ∀ place,
      List.Forall₂ (Leaf.AlikeOutside root) (content place) (content' place))
    (same : ¬ span.Quotes → content = content')
    (below : ∀ place, ∀ leaves ∈ content place, place.Below leaves)
    (below' : ∀ place, ∀ leaves ∈ content' place, place.Below leaves) (place : Place) :
    Leaf.AlikeOutside root (span.drawAround none content place)
      (span.drawAround none content' place) := by
  by_cases isQuote : span.tag = some .quote
  -- All that differs between the contents of a quote is one quote deeper than its place.
  · have deep (content : Place → List (List Leaf))
        (below : ∀ place, ∀ leaves ∈ content place, place.Below leaves) :
        ∀ leaf ∈ (content place.quoted).flatten, 0 < leaf.quoteDepth := by
      intro leaf member
      exact Nat.lt_of_lt_of_le (Nat.succ_pos _) (Place.below_flatten (below _) leaf member)
    have hidden := (Leaf.alikeOutside_deep (deep content below) (deep content' below') :
      Leaf.AlikeOutside root _ _)
    simp only [drawAround, isQuote]
    exact Leaf.alikeOutside_append (Leaf.alikeOutside_refl _)
      (Leaf.alikeOutside_append hidden (Leaf.alikeOutside_refl _))
  · have flat (place : Place) :
        Leaf.AlikeOutside root (content place).flatten (content' place).flatten :=
      Leaf.alikeOutside_flatten (alike isQuote place)
    cases isTag : span.tag with
    | none =>
        simp only [drawAround, isTag]
        exact flat _
    | some t =>
        simp only [drawAround, isTag]
        cases t with
        | lineBreak | image | file => exact Leaf.alikeOutside_refl _
        | button =>
            refine alikeOutside_button inside isTag (fun free => ?_) (flat place) place
            rw [same free]
        | form =>
            exact Leaf.alikeOutside_flatten (Leaf.forall₂_intersperse _ (alike isQuote place))
        | quote => exact absurd isTag isQuote
        | _ => exact flat _

theorem draw_alike {span : Span} (inside : root.Within span) (place : Place) :
    Leaf.AlikeOutside root (span.draw ⟨policy, maxDepth⟩ limit false place)
      (span.draw ⟨policy', maxDepth⟩ limit false place) := by
  induction limit generalizing place span with
  | zero => exact Leaf.alikeOutside_refl _
  | succ limit ih =>
      rw [draw_succ, draw_succ, Bool.false_or]
      -- The hypothesis is about children that no quote is around, which is why a quote is left out.
      apply drawAround_alike inside
      · intro isOther
        rw [beq_eq_false_iff_ne.mpr isOther]
        exact content_alike fun child below => ih (inside.child below)
      · intro free
        rw [beq_eq_false_iff_ne.mpr fun isTag => free ⟨span, .root, isTag⟩]
        exact content_eq fun child below => draw_eq_of_not_quotes policy policy' maxDepth limit
          fun quotes => free (quotes.of_child below)
      · exact below_content _ limit span _
      · exact below_content _ limit span _

end Span

/-! ## The statement -/

theorem Document.render_outside (span : Span) (maxDepth : Nat)
    (policy policy' : Option QuotePolicy) :
    List.Forall₂ (Leaf.Alike span)
        (Leaf.outside (render span { quotePolicy := policy, maxDepth }).leaves)
        (Leaf.outside (render span { quotePolicy := policy', maxDepth }).leaves) ∧
      ((∀ button, span.Within button → button.tag = some .button → ¬ button.Quotes) →
        Leaf.outside (render span { quotePolicy := policy, maxDepth }).leaves =
          Leaf.outside (render span { quotePolicy := policy', maxDepth }).leaves) := by
  have drawn (policy : Option QuotePolicy) :
      (render span { quotePolicy := policy, maxDepth }).leaves =
        span.draw ⟨policy, maxDepth⟩ maxDepth false { } := by
    rw [render_eq]
    exact drawn_render _ maxDepth [] span { }
  have alike := Span.draw_alike policy policy' maxDepth maxDepth (.root : span.Within span) { }
  rw [drawn, drawn]
  refine ⟨alike, fun free => ?_⟩
  rw [← List.forall₂_eq_eq_eq]
  exact alike.imp fun _ _ => Leaf.Alike.eq free

end RichText
