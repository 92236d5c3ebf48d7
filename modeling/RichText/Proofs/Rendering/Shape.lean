import RichText.Proofs.Node.PlainText
import RichText.Proofs.Payload
import RichText.Proofs.Rendering.Steps

/-!
# The shape of rendered documents

Which attachments stand where in the tree of a rendered document (`render_regular`). In a tree of
this shape the text of the leaves is the plain text (`textOf_leavesIn`), so what a button says is
what its content shows.
-/
namespace RichText

/-! ## Regular nodes -/

/-- Whether an attachment is complete and may stand on a node. Only an entity key is free. -/
def Attachment.Suits (a : Attachment) (n : Node) : Prop :=
  n.content? = none ∧
    match a.kind with
    | .image => n.children = []
    | .data => n.children = [] ∧ a.hasPayload = true
    | .empty => n.children = [] ∧ a.hasPayload = false
    | .quote => a = { kind := .quote, key := a.key }
    | .button => ∃ address,
        a = { kind := .button, reference := some address, name := some n.plainText, key := a.key }

namespace Node

/-- A node with an attachment that suits it; a quote among its children is the first of two, and the
second is a line break. -/
structure Regular (n : Node) : Prop where
  suits : ∀ a, n.attachment = some a → a.Suits n
  quotes : ∀ m ∈ n.children, m.IsQuote → n.children = [m, .lineBreak]

/-- A tree of regular nodes, ready to stand anywhere in another: it is no quote itself. -/
def Sound (n : Node) : Prop := (∀ m ∈ n.nodes, m.Regular) ∧ ¬ n.IsQuote

theorem regular_bare {n : Node} (bare : n.attachment = none)
    (quotes : ∀ m ∈ n.children, m.IsQuote → n.children = [m, .lineBreak]) : n.Regular := by
  refine ⟨?_, quotes⟩
  intro a has
  rw [bare] at has
  cases has

theorem sound_text (s : String) (own : Style) : (text s own none).Sound := by
  refine ⟨forall_mem_nodes_text ?_, not_isQuote_bare rfl⟩
  exact regular_bare rfl fun m inside => absurd inside List.not_mem_nil

theorem sound_container {ns : List Node} {own : Style} (sound : ∀ n ∈ ns, n.Sound) :
    (container ns own none).Sound := by
  refine ⟨forall_mem_nodes_container ?_ fun n inside => (sound n inside).1, not_isQuote_bare rfl⟩
  exact regular_bare rfl fun n inside quote => absurd quote (sound n inside).2

/-- The nodes below an attachment are regular, and so is its own if the attachment suits it. -/
theorem regular_attached {ns : List Node} {own : Style} {a : Attachment}
    (sound : ∀ n ∈ ns, n.Sound) (suits : a.Suits (container ns own (some a))) :
    ∀ m ∈ (container ns own (some a)).nodes, m.Regular := by
  refine forall_mem_nodes_container ?_ fun n inside => (sound n inside).1
  refine ⟨?_, fun n inside quote => absurd quote (sound n inside).2⟩
  rintro b ⟨⟩
  exact suits

theorem sound_attached {ns : List Node} {own : Style} {a : Attachment}
    (sound : ∀ n ∈ ns, n.Sound) (suits : a.Suits (container ns own (some a)))
    (kind : a.kind ≠ .quote) : (container ns own (some a)).Sound := by
  refine ⟨regular_attached sound suits, ?_⟩
  rintro ⟨b, has, isQuote⟩
  cases has
  exact kind isQuote

theorem sound_ofAttachment {a : Attachment} (suits : a.Suits (.ofAttachment a))
    (kind : a.kind ≠ .quote) : (ofAttachment a).Sound :=
  sound_attached (fun _ member => absurd member List.not_mem_nil) suits kind

end Node

open Node

/-! ## Steps -/

namespace Strategy

theorem sound_quoteNode (c : Context) {children : List Node} (sound : ∀ n ∈ children, n.Sound) :
    (quoteNode c children).Sound := by
  have suits : Attachment.Suits { kind := .quote, key := c.key }
      (container children .empty (some { kind := .quote, key := c.key })) := ⟨rfl, rfl⟩
  have line := sound_text "\n" .empty
  refine ⟨forall_mem_nodes_container ?_ ?_, not_isQuote_bare rfl⟩
  · apply regular_bare rfl
    intro n inside quote
    rcases List.mem_cons.mp inside with rfl | inside
    · rfl
    · rw [List.mem_singleton.mp inside] at quote
      exact absurd quote line.2
  · rw [List.forall_mem_cons, List.forall_mem_singleton]
    exact ⟨regular_attached sound suits, line.1⟩

theorem forall_mem_intersperse {α : Type} {P : α → Prop} {xs : List α} {separator : α}
    (all : ∀ x ∈ xs, P x) (between : P separator) : ∀ x ∈ xs.intersperse separator, P x := by
  induction xs with
  | nil => exact all
  | cons first rest ih =>
      cases rest with
      | nil => exact all
      | cons second rest =>
          obtain ⟨start, others⟩ := List.forall_mem_cons.mp all
          rw [List.intersperse_cons_cons, List.forall_mem_cons, List.forall_mem_cons]
          exact ⟨start, between, ih others⟩

/-- The attachments that a span may put on a node, with what stands below them. -/
inductive Attaches (policy : Option QuotePolicy) (c : Context) (children : List Node) :
    List Node → Attachment → Prop
  | image {a : Attachment} (whole : InFull policy .image) (kind : a.kind = .image) :
      Attaches policy c children [] a
  | file {a : Attachment} (whole : InFull policy .file) (kind : a.kind = .data ∨ a.kind = .empty) :
      Attaches policy c children [] a
  | button {address : String} (isTag : c.tag = some .button) (whole : InFull policy .button)
      (acts : c.data.bind (Action.address? (Node.group children).plainText) = some address) :
      Attaches policy c children children
        ((Attachment.button address (Node.group children).plainText).withKey c.key)
  | quote {a : Attachment} (isTag : c.tag = some .quote) (whole : InFull policy .quote)
      (kind : a.kind = .quote) : Attaches policy c children children a

theorem Attaches.of_button {policy : Option QuotePolicy} {c : Context} {children ns : List Node}
    {a : Attachment} (attaches : Attaches policy c children ns a) (isButton : a.kind = .button) :
    c.tag = some .button ∧ ns = children ∧ ∃ address,
      c.data.bind (Action.address? (Node.group children).plainText) = some address ∧
        a = (Attachment.button address (Node.group children).plainText).withKey c.key := by
  cases attaches with
  | image whole kind => cases kind.symm.trans isButton
  | file whole kind =>
      rcases kind with kind | kind
      · cases kind.symm.trans isButton
      · cases kind.symm.trans isButton
  | button isTag whole acts => exact ⟨isTag, rfl, _, acts, rfl⟩
  | quote isTag whole kind => cases kind.symm.trans isButton

/-- A property of single nodes that the content of a span has holds of all that the span becomes, if
the few nodes that a step adds have it. -/
theorem Makes.forall_nodes {P : Node → Prop} {policy : Option QuotePolicy} {c : Context}
    {children : List Node} {n : Node} (made : Makes policy c children n)
    (content : ∀ m ∈ children, ∀ l ∈ m.nodes, P l)
    (plain : ∀ m : Node, m.attachment = none → m.style = .empty →
      m.content? = none ∨ m = .lineBreak → P m)
    (styled : ∀ p, Gives policy c p → P ((Node.group children).withProperty p))
    (label : ∀ rules kind name, policy = some rules → P (placeholder rules kind name))
    (attached : ∀ ns a, Attaches policy c children ns a → P ((Node.group ns).withAttachment a)) :
    ∀ m ∈ n.nodes, P m := by
  have line : ∀ m ∈ Node.lineBreak.nodes, P m := forall_mem_nodes_text (plain _ rfl rfl (.inr rfl))
  have group {ns : List Node} (all : ∀ m ∈ ns, ∀ l ∈ m.nodes, P l) :
      ∀ m ∈ (Node.group ns).nodes, P m := forall_mem_nodes_container (plain _ rfl rfl (.inl rfl)) all
  have alone {a : Attachment} (attaches : Attaches policy c children [] a) :
      ∀ m ∈ (Node.ofAttachment a).nodes, P m :=
    forall_mem_nodes_container (attached [] a attaches) nofun
  cases made with
  | lineBreak isTag => exact line
  | plain => exact group content
  | styled given => exact forall_mem_nodes_container (styled _ given) content
  | lines isTag => exact group (forall_mem_intersperse content line)
  | nothing => exact group nofun
  | label inForce kind name => exact forall_mem_nodes_text (label _ kind name inForce)
  | image isTag whole =>
      unfold imageNode
      cases c.data with
      | none => exact alone (.image whole rfl)
      | some data => exact alone (.image whole rfl)
  | @file data isTag whole given =>
      apply alone
      rcases Attachment.file_cases data with ⟨-, same⟩ | ⟨-, same⟩
      · exact .file whole (.inl (by rw [same]; rfl))
      · exact .file whole (.inr (by rw [same]; rfl))
  | noFile isTag whole given => exact alone (.file whole (.inr rfl))
  | button isTag whole acts =>
      exact forall_mem_nodes_container (attached _ _ (.button isTag whole acts)) content
  | quote isTag whole =>
      apply group
      rw [List.forall_mem_cons, List.forall_mem_singleton]
      exact ⟨forall_mem_nodes_container (attached _ _ (.quote isTag whole rfl)) content, line⟩
  | unframed isTag reduced =>
      apply group
      rw [List.forall_mem_cons, List.forall_mem_singleton]
      exact ⟨group content, line⟩

theorem sound_of_makes {policy : Option QuotePolicy} {c : Context} {children : List Node} {n : Node}
    (made : Makes policy c children n) (sound : ∀ m ∈ children, m.Sound) : n.Sound := by
  cases made with
  | lineBreak isTag => exact sound_text _ _
  | label inForce kind name => exact sound_text _ _
  | plain => exact sound_container sound
  | styled given => exact sound_container sound
  | nothing => exact sound_container nofun
  | lines isTag => exact sound_container (forall_mem_intersperse sound (sound_text _ _))
  | image isTag whole =>
      unfold imageNode
      cases c.data with
      | none => exact sound_ofAttachment ⟨rfl, rfl⟩ nofun
      | some data => exact sound_ofAttachment ⟨rfl, rfl⟩ nofun
  | @file data isTag whole given =>
      rcases Attachment.file_cases data with ⟨payload, same⟩ | ⟨payload, same⟩
      · rw [same]
        exact sound_ofAttachment ⟨rfl, rfl, payload⟩ nofun
      · rw [same]
        exact sound_ofAttachment ⟨rfl, rfl, payload⟩ nofun
  | noFile isTag whole given => exact sound_ofAttachment ⟨rfl, rfl, rfl⟩ nofun
  | button isTag whole acts => exact sound_attached sound ⟨rfl, _, rfl⟩ nofun
  | quote isTag whole => exact sound_quoteNode c sound
  | unframed isTag reduced =>
      apply sound_container
      rw [List.forall_mem_cons, List.forall_mem_singleton]
      exact ⟨sound_container sound, sound_text _ _⟩

theorem sound_underText (policy : Option QuotePolicy) (s : String) (enclosing : List Tag) :
    ((under policy).text s enclosing).Sound := by
  rw [underText_eq]
  exact sound_text _ _

end Strategy

theorem Document.sound_render (options : Options) (limit : Nat) (enclosing : List Tag)
    (span : Span) : ((Document.engine options).render limit enclosing span).Sound := by
  apply Engine.render_induction
  · exact fun s => sound_text s _
  · intro enclosing s
    rw [Document.strategyFor_engine]
    exact Strategy.sound_underText _ s enclosing
  · intro c children sound
    rw [Document.strategyFor_engine]
    exact Strategy.sound_of_makes (Strategy.makes_node _ c children) sound

theorem Document.sound_content (options : Options) (limit : Nat) (inner : List Tag) (span : Span) :
    ∀ n ∈ (engine options).content limit inner span, n.Sound := by
  intro n member
  unfold Engine.content at member
  split at member
  · obtain ⟨s, -, rfl⟩ := List.mem_map.mp member
    rw [strategyFor_engine]
    exact Strategy.sound_underText _ s inner
  · obtain ⟨child, -, rfl⟩ := List.mem_map.mp member
    exact sound_render options limit inner child

/-! ## Text of the leaves -/

namespace Node

theorem textOf_leavesIn (n : Node) (regular : ∀ m ∈ n.nodes, m.Regular) (style : Style)
    (quoteDepth : Nat) : Leaf.textOf (n.leavesIn style quoteDepth) = n.innerText := by
  have bare : ∀ path m, n.Seen path m → ¬ m.QuotedText := by
    rintro path m seen ⟨⟨a, has, -⟩, s, content, -⟩
    have inside := mem_nodes_of_leads seen.leads m (by simp)
    cases ((regular m inside).suits a has).1.symm.trans content
  exact String.toList_inj.mp ((textOf_leavesIn_sublist n style quoteDepth).2.mpr bare)

end Node

/-! ## The statement -/

theorem Document.render_regular (span : Span) (options : Options) :
    (∀ n ∈ (Document.render span options).nodes, n.Regular) ∧
      ¬ (Document.render span options).IsQuote ∧
      ((Document.render span options).attachment = none →
        (Document.render span options).plainText =
          Leaf.textOf (Document.render span options).leaves) := by
  rw [Document.render_eq]
  have sound := Document.sound_render options options.maxDepth [] span
  refine ⟨sound.1, sound.2, ?_⟩
  intro bare
  rw [plainText_eq_innerText bare, Node.leaves, textOf_leavesIn _ sound.1]

end RichText
