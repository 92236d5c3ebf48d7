import RichText.Document

/-!
# Steps of rendering

What the full strategy and the quote strategies make of one span, said once for every tag and every
policy (`makes_node`), and the induction that carries a property of nodes from the steps to a whole
run of the engine (`render_induction`).
-/
namespace RichText

/-- The strategy under a policy for quoted content; in full without one. -/
def Strategy.under : Option QuotePolicy → Strategy
  | none => full
  | some policy => quoted policy

theorem Strategy.underText_eq (policy : Option QuotePolicy) (s : String) (enclosing : List Tag) :
    (under policy).text s enclosing = .text s (policy.elim .empty (·.textStyle)) none := by
  cases policy with
  | none => rfl
  | some rules => exact congrArg (Node.text s · none) (Style.empty_merge rules.textStyle)

def Options.policyFor (options : Options) (quoted : Bool) : Option QuotePolicy :=
  if quoted then options.quotePolicy else none

theorem Options.mem_quotePolicy {options : Options} {quoted : Bool} {rules : QuotePolicy}
    (inForce : rules ∈ options.policyFor quoted) : rules ∈ options.quotePolicy := by
  cases quoted with
  | true => exact inForce
  | false => cases inForce

theorem Document.strategyFor_engine (options : Options) (enclosing : List Tag) :
    (Document.engine options).strategyFor enclosing =
      .under (options.policyFor (enclosing.contains .quote)) := by
  unfold Document.engine Engine.strategyFor Options.policyFor
  cases options.quotePolicy with
  | none => simp [Strategy.under]
  | some policy =>
      simp only [Option.map_some]
      by_cases inside : enclosing.contains .quote
      · rw [if_pos inside, if_pos inside, Strategy.under]
      · rw [if_neg inside, if_neg inside, Strategy.under]

theorem Document.render_eq (span : Span) (options : Options) :
    Document.render span options =
      (Document.engine options).render options.maxDepth [] span :=
  (Document.engine options).renderIn_eq span []

/-- Whether quoted spans with a tag are left as they are outside a quote. -/
def QuotePolicy.Keeps (rules : QuotePolicy) : Tag → Prop
  | .mention => rules.mentionColor = true
  | .link => rules.links = true
  | .image => rules.images = .keep
  | .file => rules.files = .keep
  | .button => rules.buttons = .keep
  | .quote => rules.nestedQuotes = .keep
  | _ => True

namespace Strategy

/-- Whether spans with a tag are shown in full under a policy. -/
def InFull (policy : Option QuotePolicy) (t : Tag) : Prop := ∀ rules ∈ policy, rules.Keeps t

theorem inFull_some {rules : QuotePolicy} {t : Tag} :
    InFull (some rules) t ↔ rules.Keeps t := by
  constructor
  · intro inFull
    exact inFull rules rfl
  · rintro keeps rules ⟨⟩
    exact keeps

/-- A property that some tag, mention or link gives to its content under a policy. -/
inductive Gives (policy : Option QuotePolicy) (c : Context) : Style.Property → Prop
  | tag {t : Tag} {p : Style.Property} (isTag : c.tag = some t) (has : t.property? = some p) :
      Gives policy c p
  | mention {p : Style.Property} (isTag : c.tag = some .mention) (whole : InFull policy .mention)
      (has : mentionProperty? c = some p) : Gives policy c p
  | mentioned (isTag : c.tag = some .mention) (reduced : ¬ InFull policy .mention) :
      Gives policy c .bold
  | link {p : Style.Property} (isTag : c.tag = some .link) (whole : InFull policy .link)
      (has : linkProperty? c = some p) : Gives policy c p

theorem Gives.of_link {policy : Option QuotePolicy} {c : Context} {u : Url}
    (given : Gives policy c (.link u)) : InFull policy .link ∧ linkProperty? c = some (.link u) := by
  cases given with
  | @tag t _ isTag has => cases t <;> cases has
  | mention isTag whole has =>
      obtain ⟨id, -, same⟩ := Option.map_eq_some_iff.mp has
      cases same
  | link isTag whole has => exact ⟨whole, has⟩

/-- The nodes that a span with the given content may become under a policy. -/
inductive Makes (policy : Option QuotePolicy) (c : Context) (children : List Node) : Node → Prop
  | lineBreak (isTag : c.tag = some .lineBreak) : Makes policy c children .lineBreak
  | plain : Makes policy c children (.group children)
  | styled {p : Style.Property} (given : Gives policy c p) :
      Makes policy c children ((Node.group children).withProperty p)
  | lines (isTag : c.tag = some .form) : Makes policy c children (.group (onLines children))
  | nothing : Makes policy c children .empty
  | label {rules : QuotePolicy} (inForce : policy = some rules) (kind : String)
      (name : Option String) : Makes policy c children (placeholder rules kind name)
  | image (isTag : c.tag = some .image) (whole : InFull policy .image) :
      Makes policy c children (imageNode c)
  | file {data : Json.Fields} (isTag : c.tag = some .file) (whole : InFull policy .file)
      (given : c.data = some data) :
      Makes policy c children (.ofAttachment ((Attachment.file data).withKey c.key))
  | noFile (isTag : c.tag = some .file) (whole : InFull policy .file) (given : c.data = none) :
      Makes policy c children (.ofAttachment { kind := .empty, key := c.key })
  | button {address : String} (isTag : c.tag = some .button) (whole : InFull policy .button)
      (acts : c.data.bind (Action.address? (Node.group children).plainText) = some address) :
      Makes policy c children ((Node.group children).withAttachment
        ((Attachment.button address (Node.group children).plainText).withKey c.key))
  | quote (isTag : c.tag = some .quote) (whole : InFull policy .quote) :
      Makes policy c children (quoteNode c children)
  | unframed (isTag : c.tag = some .quote) (reduced : ¬ InFull policy .quote) :
      Makes policy c children (.group [.group children, .lineBreak])

variable (policy : Option QuotePolicy) (c : Context) (children : List Node)

theorem makes_withProperty? {p : Option Style.Property}
    (given : ∀ q, p = some q → Gives policy c q) :
    Makes policy c children (withProperty? (.group children) p) := by
  cases p with
  | none => exact .plain
  | some q => exact .styled (given q rfl)

theorem fileNode_eq :
    fileNode c =
      if c.data.bind (·.text? "mime") = some machineType then .empty
      else .ofAttachment { c.data.elim { kind := .empty } Attachment.file with key := c.key } := by
  unfold fileNode
  cases c.data <;> rfl

/-- A file for machines is not shown in quotes either, whatever the policy says. -/
theorem quotedFile_eq (rules : QuotePolicy) :
    (quoted rules).file c children =
      if c.data.bind (·.text? "mime") = some machineType then .empty
      else
        match rules.files with
        | .keep => fileNode c
        | .placeholder =>
          placeholder rules "file"
            (shownName? { c.data.elim { kind := .empty } Attachment.file with key := c.key })
        | .drop => .empty := by
  have file := fileNode_eq c
  have same : full.file c children = fileNode c := rfl
  by_cases machine : c.data.bind (·.text? "mime") = some machineType
  · rw [if_pos machine] at file ⊢
    simp only [quoted, same, file]
    rfl
  · rw [if_neg machine] at file ⊢
    simp only [quoted, same, file]
    rfl

theorem makes_fileNode (isTag : c.tag = some .file) (whole : InFull policy .file) :
    Makes policy c children (fileNode c) := by
  unfold fileNode
  cases h : c.data with
  | none => exact .noFile isTag whole h
  | some data =>
      simp only
      split
      · exact .nothing
      · exact .file isTag whole h

theorem makes_buttonNode (isTag : c.tag = some .button) (whole : InFull policy .button) :
    Makes policy c children (buttonNode c children) := by
  unfold buttonNode
  cases h : c.data.bind (Action.address? (Node.group children).plainText) with
  | none => simpa only [h] using .plain
  | some address => simpa only [h] using .button isTag whole h

theorem makes_full (whole : ∀ t, c.tag = some t → InFull policy t) :
    Makes policy c children (full.node c children) := by
  obtain ⟨tag, data, key, enclosing⟩ := c
  cases tag with
  | none => exact .plain
  | some t =>
      have inFull := whole t rfl
      have simple : Makes policy ⟨some t, data, key, enclosing⟩ children
          (withProperty? (.group children) t.property?) :=
        makes_withProperty? _ _ _ fun _ has => .tag rfl has
      cases t with
      | lineBreak => exact .lineBreak rfl
      | strong | emphasis | strikethrough | highlight | code => exact simple
      | mention => exact makes_withProperty? _ _ _ fun _ has => .mention rfl inFull has
      | link => exact makes_withProperty? _ _ _ fun _ has => .link rfl inFull has
      | image => exact .image rfl inFull
      | file => exact makes_fileNode _ _ _ rfl inFull
      | button => exact makes_buttonNode _ _ _ rfl inFull
      | form => exact .lines rfl
      | quote => exact .quote rfl inFull
      | hashtag | row | other => exact .plain

theorem makes_quoted (rules : QuotePolicy) :
    Makes (some rules) c children ((quoted rules).node c children) := by
  obtain ⟨tag, data, key, enclosing⟩ := c
  cases tag with
  | none => exact .plain
  | some t =>
      have whole (keeps : rules.Keeps t) :
          Makes (some rules) ⟨some t, data, key, enclosing⟩ children
            (full.node ⟨some t, data, key, enclosing⟩ children) := by
        apply makes_full
        rintro t ⟨⟩
        exact inFull_some.mpr keeps
      cases t with
      | mention =>
          change Makes _ _ _ (if rules.mentionColor then _ else _)
          split
          case isTrue coloured => exact whole coloured
          case isFalse muted =>
            exact .styled (.mentioned rfl fun inFull => muted (inFull_some.mp inFull))
      | link =>
          change Makes _ _ _ (if rules.links then _ else _)
          split
          case isTrue linked => exact whole linked
          case isFalse => exact .plain
      | image =>
          change Makes _ _ _ (match rules.images with | .keep => _ | .placeholder => _ | .drop => _)
          cases rule : rules.images with
          | keep => exact whole rule
          | placeholder => exact .label rfl _ _
          | drop => exact .nothing
      | file =>
          change Makes _ _ _ ((quoted rules).file _ children)
          rw [quotedFile_eq]
          split
          · exact .nothing
          · cases rule : rules.files with
            | keep => exact whole rule
            | placeholder => exact .label rfl _ _
            | drop => exact .nothing
      | button =>
          change Makes _ _ _ (match rules.buttons with | .keep => _ | .placeholder => _ | .drop => _)
          cases rule : rules.buttons with
          | keep => exact whole rule
          | placeholder => exact .plain
          | drop => exact .nothing
      | quote =>
          change Makes _ _ _
            (match rules.nestedQuotes with | .keep => _ | .placeholder => _ | .drop => _)
          cases rule : rules.nestedQuotes with
          | keep => exact whole rule
          | placeholder =>
              refine .unframed rfl fun inFull => ?_
              cases rule.symm.trans (inFull_some.mp inFull)
          | drop => exact .nothing
      | lineBreak | strong | emphasis | strikethrough | highlight | code | hashtag | form | row
      | other => exact whole trivial

theorem makes_node : Makes policy c children ((under policy).node c children) := by
  cases policy with
  | none => exact makes_full none c children fun _ _ _ => nofun
  | some rules => exact makes_quoted c children rules

end Strategy

/-- The spans of a tree: the root, and the children of spans of the tree. -/
inductive Span.Within (root : Span) : Span → Prop
  | root : Within root root
  | child {span child : Span} (inside : Within root span) (below : child ∈ span.children) :
      Within root child

theorem Span.Within.trans {root span inner : Span} (first : root.Within span)
    (second : span.Within inner) : root.Within inner := by
  induction second with
  | root => exact first
  | child _ below ih => exact ih.child below

/-- Around the content of a span there is a quote around the span, or the span itself. -/
theorem Span.contains_quote_inside (span : Span) (enclosing : List Tag) :
    (enclosing ++ span.tag.toList).contains .quote =
      (enclosing.contains .quote || span.tag == some .quote) := by
  rw [Bool.eq_iff_iff]
  cases span.tag with
  | none => simp
  | some t =>
      simp only [Option.toList_some, List.contains_iff_mem, List.mem_append, List.mem_singleton,
        Bool.or_eq_true, beq_iff_eq, Option.some.injEq, eq_comm (a := Tag.quote)]

/-- Around the content of a span that is no quote are the quotes around the span. -/
theorem Span.contains_quote_of_ne {span : Span} (other : span.tag ≠ some .quote)
    (enclosing : List Tag) :
    (enclosing ++ span.tag.toList).contains .quote = enclosing.contains .quote := by
  rw [span.contains_quote_inside, beq_eq_false_iff_ne.mpr other, Bool.or_false]

/-- The nodes of what stands inside a span, with the tag of the span among the tags around it. -/
def Engine.content (e : Engine) (limit : Nat) (inner : List Tag) (span : Span) : List Node :=
  if span.children.isEmpty then span.text.toList.map fun s => (e.strategyFor inner).text s inner
  else span.children.map (e.render limit inner)

theorem Engine.render_text {span : Span} (plain : span.isText) (e : Engine) (limit : Nat)
    (enclosing : List Tag) :
    e.render (limit + 1) enclosing span =
      (e.strategyFor enclosing).text (span.text.getD "") enclosing := by
  rw [Engine.render, if_pos plain]

theorem Engine.render_node {span : Span} (other : ¬ span.isText) (e : Engine) (limit : Nat)
    (enclosing : List Tag) :
    e.render (limit + 1) enclosing span =
      (e.strategyFor enclosing).node ⟨span.tag, span.data, span.key, enclosing⟩
        (e.content limit (enclosing ++ span.tag.toList) span) := by
  rw [Engine.render, if_neg other]
  rfl

/-- A property of nodes among the tags around them holds of all that an engine renders of a span, if
something is known of the span and the levels that are left, and is known below it as well: texts have
the property, and every step hands it on from the nodes of the content, which have the tag of the span
around them too. -/
theorem Engine.render_induction_along {e : Engine} {P : List Tag → Node → Prop}
    {Q : Nat → Span → Prop}
    (down : ∀ limit span, Q (limit + 1) span → ∀ child ∈ span.children, Q limit child)
    (flat : ∀ enclosing span, Q 0 span → P enclosing (.ofText span.flatText))
    (text : ∀ enclosing s, P enclosing ((e.strategyFor enclosing).text s enclosing))
    (node : ∀ limit span enclosing children, Q (limit + 1) span →
      (∀ n ∈ children, P (enclosing ++ span.tag.toList) n) → P enclosing
        ((e.strategyFor enclosing).node ⟨span.tag, span.data, span.key, enclosing⟩ children))
    (limit : Nat) (enclosing : List Tag) {span : Span} (known : Q limit span) :
    P enclosing (e.render limit enclosing span) := by
  induction limit generalizing enclosing span with
  | zero => exact flat enclosing span known
  | succ limit ih =>
      rw [Engine.render]
      split
      · exact text enclosing _
      · apply node limit span enclosing _ known
        intro n member
        split at member
        · obtain ⟨s, -, rfl⟩ := List.mem_map.mp member
          exact text _ s
        · obtain ⟨child, below, rfl⟩ := List.mem_map.mp member
          exact ih _ (down limit span known child below)

/-- A property of nodes that texts have, and that every step at a span of the tree hands on from the
nodes of the content, holds of all that an engine renders of the tree. -/
theorem Engine.render_induction_within {e : Engine} {P : Node → Prop} {root : Span}
    (flat : ∀ s, P (.ofText s)) (text : ∀ enclosing s, P ((e.strategyFor enclosing).text s enclosing))
    (node : ∀ span enclosing children, root.Within span → (∀ n ∈ children, P n) →
      P ((e.strategyFor enclosing).node ⟨span.tag, span.data, span.key, enclosing⟩ children))
    (limit : Nat) (enclosing : List Tag) {span : Span} (inside : root.Within span) :
    P (e.render limit enclosing span) :=
  Engine.render_induction_along (P := fun _ => P) (Q := fun _ => root.Within)
    (fun _ _ known _ below => known.child below) (fun _ span _ => flat span.flatText) text
    (fun _ span enclosing children => node span enclosing children) limit enclosing inside

theorem Engine.render_induction {e : Engine} {P : Node → Prop} (flat : ∀ s, P (.ofText s))
    (text : ∀ enclosing s, P ((e.strategyFor enclosing).text s enclosing))
    (node : ∀ c children, (∀ n ∈ children, P n) → P ((e.strategyFor c.enclosing).node c children))
    (limit : Nat) (enclosing : List Tag) (span : Span) : P (e.render limit enclosing span) :=
  Engine.render_induction_within flat text
    (fun span enclosing children _ => node ⟨span.tag, span.data, span.key, enclosing⟩ children)
    limit enclosing .root

end RichText
