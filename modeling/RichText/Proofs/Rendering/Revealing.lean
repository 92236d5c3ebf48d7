import RichText.Proofs.Rendering.Conservation
import RichText.Proofs.Rendering.Context
import RichText.Proofs.Url.Action

/-!
# What the depth limit reveals

Main statement (`render_reveals`): as long as no images and files in quotes are given labels, a lower
limit to the depth can only bring out more of the text of a document, up to all of it. It takes no
text away and changes nothing of its order, newlines aside.
-/
namespace RichText

namespace Text

def unbroken (s : String) : List Char := s.toList.filter (· != '\n')

theorem unbroken_append (s t : String) : unbroken (s ++ t) = unbroken s ++ unbroken t := by
  rw [unbroken, String.toList_append, List.filter_append, unbroken, unbroken]

theorem unbroken_newline : unbroken "\n" = [] := by decide

theorem unbroken_append_newline (s : String) : unbroken (s ++ "\n") = unbroken s := by
  rw [unbroken_append, unbroken_newline, List.append_nil]

end Text

open Node Text

/-! ## Steps -/

namespace Node

/-- What a step shows of the content, newlines aside: all or nothing, and which of the two does not
depend on the content. -/
def AllOrNothing (part : Node → String) (step : List Node → Node) : Prop :=
  (∀ children, unbroken (part (step children)) = unbroken (innerTexts children)) ∨
    ∀ children, unbroken (part (step children)) = []

/-- A step that shows all of the content or nothing, as a root and inside another node. -/
structure Exposes (step : List Node → Node) : Prop where
  plain : AllOrNothing plainText step
  inner : AllOrNothing innerText step

theorem exposes_bare {step : List Node → Node} (plain : AllOrNothing plainText step)
    (bare : ∀ children, (step children).attachment = none) : Exposes step := by
  refine ⟨plain, ?_⟩
  unfold AllOrNothing
  simp only [← plainText_eq_innerText (bare _)]
  exact plain

theorem exposes_group : Exposes group := exposes_bare (.inl fun _ => rfl) fun _ => rfl

theorem exposes_empty : Exposes fun _ => empty := exposes_bare (.inr fun _ => rfl) fun _ => rfl

theorem exposes_lineBreak : Exposes fun _ => lineBreak :=
  exposes_bare (.inr fun _ => unbroken_newline) fun _ => rfl

theorem exposes_ofAttachment (a : Attachment) : Exposes fun _ => ofAttachment a := by
  refine ⟨.inr fun _ => rfl, .inr fun _ => ?_⟩
  change unbroken (if hides (some a) then "" else "") = []
  rw [ite_self]
  rfl

end Node

namespace Strategy

theorem exposes_withProperty? (p : Option Style.Property) :
    Exposes fun children => withProperty? (.group children) p := by
  cases p <;> exact exposes_bare (.inl fun _ => rfl) fun _ => rfl

theorem unbroken_onLines (children : List Node) :
    unbroken (innerTexts (onLines children)) = unbroken (innerTexts children) := by
  unfold onLines
  induction children with
  | nil => rfl
  | cons first rest ih =>
      cases rest with
      | nil => rfl
      | cons second rest =>
          have line : unbroken Node.lineBreak.innerText = [] := unbroken_newline
          rw [List.intersperse_cons_cons, innerTexts, innerTexts, innerTexts, unbroken_append,
            unbroken_append, unbroken_append, ih, line, List.nil_append]

theorem exposes_onLines : Exposes fun children => .group (onLines children) :=
  exposes_bare (.inl unbroken_onLines) fun _ => rfl

theorem exposes_fileNode (c : Context) : Exposes fun _ => fileNode c := by
  rw [fileNode_eq]
  split
  · exact exposes_empty
  · exact exposes_ofAttachment _

theorem exposes_imageNode (c : Context) : Exposes fun _ => imageNode c := exposes_ofAttachment _

theorem acts_or_not (data : Option Json.Fields) :
    (∀ label, data.bind (Action.address? label) = none) ∨
      ∀ label, ∃ address, data.bind (Action.address? label) = some address := by
  cases data with
  | none => exact .inl fun _ => rfl
  | some data =>
      rcases Action.address?_cases data with never | ⟨address, always⟩ | ⟨rest, titled⟩
      · exact .inl never
      · exact .inr fun label => ⟨address, always label⟩
      · right
        intro label
        obtain ⟨address, acts, -⟩ := titled label
        exact ⟨address, acts⟩

theorem exposes_buttonNode (c : Context) : Exposes (buttonNode c) := by
  rcases acts_or_not c.data with never | always
  · have step : buttonNode c = group := by
      funext children
      simp only [buttonNode, never]
    rw [step]
    exact exposes_group
  · have step (children : List Node) : ∃ address, buttonNode c children =
        (group children).withAttachment
          ((Attachment.button address (group children).plainText).withKey c.key) := by
      obtain ⟨address, acts⟩ := always (group children).plainText
      refine ⟨address, ?_⟩
      simp only [buttonNode, acts]
    refine ⟨.inl fun children => ?_, .inr fun children => ?_⟩
    · obtain ⟨address, same⟩ := step children
      rw [same]
      rfl
    · obtain ⟨address, same⟩ := step children
      rw [same]
      rfl

theorem exposes_unframed : Exposes fun children => .group [.group children, .lineBreak] :=
  exposes_bare (.inl fun children => unbroken_append_newline (innerTexts children)) fun _ => rfl

theorem exposes_quoteNode (c : Context) : Exposes (quoteNode c) :=
  exposes_bare (.inl fun children => unbroken_append_newline (innerTexts children)) fun _ => rfl

theorem exposes_full (c : Context) : Exposes (full.node c) := by
  obtain ⟨tag, data, key, enclosing⟩ := c
  cases tag with
  | none => exact exposes_group
  | some t =>
      cases t with
      | lineBreak => exact exposes_lineBreak
      | strong | emphasis | strikethrough | highlight | code =>
          exact exposes_bare (.inl fun _ => rfl) fun _ => rfl
      | mention | link => exact exposes_withProperty? _
      | image => exact exposes_imageNode _
      | file => exact exposes_fileNode _
      | button => exact exposes_buttonNode _
      | form => exact exposes_onLines
      | quote => exact exposes_quoteNode _
      | hashtag | row | other => exact exposes_group

theorem exposes_reduction (r : Reduction) {whole substitute : List Node → Node}
    (kept : Exposes whole) :
    (r = .placeholder → Exposes substitute) → Exposes fun children =>
      match r with
      | .keep => whole children
      | .placeholder => substitute children
      | .drop => .empty := by
  intro replaced
  cases r with
  | keep => exact kept
  | placeholder => exact replaced rfl
  | drop => exact exposes_empty

/-- Without labels, a policy reduces a span to its content or to nothing. -/
theorem exposes_quoted {rules : QuotePolicy} (images : rules.images ≠ .placeholder)
    (files : rules.files ≠ .placeholder) (c : Context) : Exposes ((quoted rules).node c) := by
  have whole := exposes_full c
  obtain ⟨tag, data, key, enclosing⟩ := c
  cases tag with
  | none => exact whole
  | some t =>
      cases t with
      | mention =>
          change Exposes fun children => if rules.mentionColor then _ else _
          split
          · exact whole
          · exact exposes_bare (.inl fun _ => rfl) fun _ => rfl
      | link =>
          change Exposes fun children => if rules.links then _ else _
          split
          · exact whole
          · exact exposes_group
      | image => exact exposes_reduction rules.images whole fun labelled => absurd labelled images
      | file =>
          have step := funext fun children =>
            quotedFile_eq ⟨some .file, data, key, enclosing⟩ children rules
          change Exposes ((quoted rules).file _)
          rw [step]
          split
          · exact exposes_empty
          · exact exposes_reduction rules.files (exposes_fileNode _) fun labelled =>
              absurd labelled files
      | button => exact exposes_reduction rules.buttons whole fun _ => exposes_group
      | quote => exact exposes_reduction rules.nestedQuotes whole fun _ => exposes_unframed
      | _ => exact whole

theorem exposes_under {policy : Option QuotePolicy}
    (unlabelled : ∀ rules ∈ policy, rules.images ≠ .placeholder ∧ rules.files ≠ .placeholder)
    (c : Context) : Exposes ((under policy).node c) := by
  cases policy with
  | none => exact exposes_full c
  | some rules => exact exposes_quoted (unlabelled rules rfl).1 (unlabelled rules rfl).2 c

end Strategy

/-! ## Runs -/

namespace Node

/-- What a node shows is part of what another shows, newlines aside. -/
structure PartOf (n m : Node) : Prop where
  plain : (unbroken n.plainText).Sublist (unbroken m.plainText)
  inner : (unbroken n.innerText).Sublist (unbroken m.innerText)

theorem PartOf.refl (n : Node) : n.PartOf n := ⟨.refl _, .refl _⟩

theorem Shows.partOf_ofText {n : Node} {s : String} (shown : n.Shows s) : n.PartOf (.ofText s) := by
  refine ⟨?_, ?_⟩
  · rw [shown.text]
    exact .refl _
  · rw [shown.innerText]
    exact .refl _

theorem innerTexts_sublist {ns ms : List Node} (part : List.Forall₂ PartOf ns ms) :
    (unbroken (innerTexts ns)).Sublist (unbroken (innerTexts ms)) := by
  induction part with
  | nil => exact .refl _
  | cons first _ ih =>
      rw [innerTexts, innerTexts, unbroken_append, unbroken_append]
      exact first.inner.append ih

theorem AllOrNothing.sublist {part : Node → String} {step : List Node → Node}
    (either : AllOrNothing part step) {ns : List Node} {s : List Char}
    (content : (unbroken (innerTexts ns)).Sublist s) :
    (unbroken (part (step ns))).Sublist s := by
  rcases either with all | nothing
  · rw [all]
    exact content
  · rw [nothing]
    exact List.nil_sublist s

/-- Both nodes show all, or neither shows anything. -/
theorem AllOrNothing.mono {part : Node → String} {step : List Node → Node}
    (either : AllOrNothing part step) {ns ms : List Node}
    (content : (unbroken (innerTexts ns)).Sublist (unbroken (innerTexts ms))) :
    (unbroken (part (step ns))).Sublist (unbroken (part (step ms))) := by
  rcases either with all | nothing
  · rw [all, all]
    exact content
  · have same : unbroken (part (step ns)) = unbroken (part (step ms)) :=
      (nothing ns).trans (nothing ms).symm
    exact same ▸ List.Sublist.refl _

theorem Exposes.partOf {step : List Node → Node} (exposes : Exposes step) {ns ms : List Node}
    (content : (unbroken (innerTexts ns)).Sublist (unbroken (innerTexts ms))) :
    (step ns).PartOf (step ms) :=
  ⟨exposes.plain.mono content, exposes.inner.mono content⟩

theorem Exposes.partOf_ofText {step : List Node → Node} (exposes : Exposes step) {ns : List Node}
    {s : String} (content : (unbroken (innerTexts ns)).Sublist (unbroken s)) :
    (step ns).PartOf (.ofText s) :=
  ⟨exposes.plain.sublist content, exposes.inner.sublist content⟩

end Node

namespace Engine

variable {e : Engine} (conserves : ∀ enclosing, (e.strategyFor enclosing).Conserves Tag.isTextual)
  (exposes : ∀ enclosing c, Exposes ((e.strategyFor enclosing).node c))

include conserves exposes

/-- Rendering shows no more than all text below a span. -/
theorem render_partOf_flatText (limit : Nat) (enclosing : List Tag) (span : Span) :
    (e.render limit enclosing span).PartOf (.ofText span.flatText) := by
  refine render_flatText (P := fun n s => n.PartOf (.ofText s)) ?_ ?_ ?_ ?_ limit enclosing .root
  · exact fun s => .refl (.ofText s)
  · exact fun enclosing s => ((conserves enclosing).text s enclosing).partOf_ofText
  · exact fun enclosing c children isBreak =>
      ((conserves enclosing).lineBreak c children isBreak).partOf_ofText
  · intro span enclosing children texts _ _ each
    have whole : innerTexts (texts.map ofText) = String.join texts :=
      innerTexts_of_shows <| List.forall₂_map_left_iff.mpr <|
        List.forall₂_same.mpr fun s _ => shows_ofText s
    apply (exposes enclosing _).partOf_ofText
    rw [← whole]
    exact innerTexts_sublist (List.forall₂_map_right_iff.mpr each)

theorem render_partOf {depth limit : Nat} (le : depth ≤ limit) (enclosing : List Tag)
    (span : Span) : (e.render limit enclosing span).PartOf (e.render depth enclosing span) := by
  induction depth generalizing limit enclosing span with
  | zero => exact render_partOf_flatText conserves exposes limit enclosing span
  | succ depth ih =>
      obtain ⟨limit, rfl⟩ := Nat.exists_eq_add_of_lt le
      by_cases plain : span.isText
      · rw [render_text plain, render_text plain]
        exact .refl _
      · rw [render_node plain, render_node plain]
        apply (exposes enclosing _).partOf
        apply innerTexts_sublist
        unfold content
        split
        · exact List.forall₂_same.mpr fun n _ => .refl n
        · rw [List.forall₂_map_left_iff, List.forall₂_map_right_iff]
          exact List.forall₂_same.mpr fun child _ => ih (Nat.le_add_right depth limit) _ child

end Engine

/-! ## The statement -/

theorem Document.render_reveals (span : Span) (policy : Option QuotePolicy)
    (unlabelled : ∀ rules ∈ policy, rules.images ≠ .placeholder ∧ rules.files ≠ .placeholder)
    {depth limit : Nat} (le : depth ≤ limit) :
    (unbroken (render span ⟨policy, limit⟩).plainText).Sublist
        (unbroken (render span ⟨policy, depth⟩).plainText) ∧
      (unbroken (render span ⟨policy, limit⟩).plainText).Sublist (unbroken span.flatText) ∧
      (unbroken (render span ⟨policy, depth⟩).plainText).Sublist (unbroken span.flatText) := by
  let e := engine ⟨policy, limit⟩
  have conserves (enclosing : List Tag) : (e.strategyFor enclosing).Conserves Tag.isTextual := by
    rw [strategyFor_engine]
    exact Strategy.conserves_under _
  have exposes (enclosing : List Tag) (c : Context) :
      Exposes ((e.strategyFor enclosing).node c) := by
    rw [strategyFor_engine]
    apply Strategy.exposes_under
    exact fun rules inForce => unlabelled rules (Options.mem_quotePolicy inForce)
  have limited (maxDepth : Nat) : render span ⟨policy, maxDepth⟩ = e.render maxDepth [] span :=
    Engine.renderIn_maxDepth e maxDepth span []
  rw [limited, limited]
  refine ⟨(Engine.render_partOf conserves exposes le [] span).plain, ?_, ?_⟩
  · exact (Engine.render_partOf_flatText conserves exposes limit [] span).plain
  · exact (Engine.render_partOf_flatText conserves exposes depth [] span).plain

/-- The text of a button comes out when the button itself is cut off. -/
theorem Document.render_reveals_button :
    let root : Span := .withChildren (.ofTag .quote)
      [.withData (.withChildren (.ofTag .button) [.ofText "yes", .ofTag .lineBreak])
        (.object [("act", .string "pub")]), .ofText "no"]
    let policy : Option QuotePolicy := some { QuotePolicy.keepAll with images := .drop }
    (∀ rules ∈ policy, rules.images ≠ .placeholder ∧ rules.files ≠ .placeholder) ∧
      unbroken (render root ⟨policy, 3⟩).plainText = "no".toList ∧
      unbroken (render root ⟨policy, 1⟩).plainText = "yesno".toList ∧
      (unbroken (render root ⟨policy, 3⟩).plainText).Sublist
        (unbroken (render root ⟨policy, 1⟩).plainText) := by
  intro root policy
  have unlabelled : ∀ rules ∈ policy, rules.images ≠ .placeholder ∧ rules.files ≠ .placeholder := by
    simp [policy, QuotePolicy.keepAll]
  refine ⟨unlabelled, by decide +kernel, by decide +kernel, ?_⟩
  exact (render_reveals root policy unlabelled (by decide)).1

end RichText
