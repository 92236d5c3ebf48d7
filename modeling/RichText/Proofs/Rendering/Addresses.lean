import RichText.Proofs.Rendering.Shape
import RichText.Proofs.Url.Action

/-!
# Addresses in rendered documents

Where the links and the buttons of a rendered document lead. Main statement (`render_addresses`):
links lead to web pages, and buttons to web pages that the document names in the data of a button,
or to an answer.
-/
namespace RichText

/-- Where the buttons of a document may lead. -/
inductive Span.Leads (root : Span) (address : String) : Prop
  | answer (posts : "tinode:///post?title=".toList <+: address.toList)
  | page {span : Span} {data : Json.Fields} {label reference scheme : String}
      (inside : root.Within span) (isTag : span.tag = some .button) (given : span.data = some data)
      (acts : Action.address? label data = some address)
      (names : data.text? "ref" = some reference) (web : Url.IsWebScheme scheme)
      (starts : (scheme ++ ":").toList <+: reference.toList)
      (opens : (scheme ++ "://").toList <+: address.toList)

/-- A link on the node leads to a web page, and a button where it may lead. -/
structure Node.Safe (root : Span) (n : Node) : Prop where
  link : ∀ u, n.style.link = some u → Url.IsWebScheme u.scheme
  button : ∀ a, n.attachment = some a → a.kind = .button →
    ∃ address, a.reference = some address ∧ root.Leads address

def Node.AllSafe (root : Span) (n : Node) : Prop := ∀ m ∈ n.nodes, m.Safe root

namespace Node

variable {root : Span}

theorem safe_unlinked {n : Node} (unlinked : n.style.link = none)
    (button : ∀ a, n.attachment = some a → a.kind = .button →
      ∃ address, a.reference = some address ∧ root.Leads address) : n.Safe root := by
  refine ⟨?_, button⟩
  intro u has
  cases unlinked.symm.trans has

theorem safe_bare {n : Node} (bare : n.attachment = none) (unlinked : n.style.link = none) :
    n.Safe root := by
  apply safe_unlinked unlinked
  intro a has
  cases bare.symm.trans has

theorem allSafe_text (s : String) {own : Style} (plain : own.link = none) :
    (text s own none).AllSafe root :=
  forall_mem_nodes_text (safe_bare rfl plain)

end Node

open Node

/-! ## Steps -/

namespace Strategy

theorem linkTarget?_web {s : String} {u : Url} (found : linkTarget? s = some u) :
    Url.IsWebScheme u.scheme := by
  unfold linkTarget? at found
  obtain ⟨v, -, found⟩ := Option.bind_eq_some_iff.mp found
  split at found
  · rename_i web
    cases found
    exact web
  · cases found

theorem Gives.link_web {policy : Option QuotePolicy} {c : Context} {u : Url}
    (given : Gives policy c (.link u)) : Url.IsWebScheme u.scheme := by
  obtain ⟨v, found, same⟩ := Option.map_eq_some_iff.mp given.of_link.2
  cases same
  obtain ⟨s, -, found⟩ := Option.bind_eq_some_iff.mp found
  exact linkTarget?_web found

theorem safe_styled {root : Span} {policy : Option QuotePolicy} {c : Context}
    {children : List Node} {p : Style.Property} (given : Gives policy c p) :
    ((Node.group children).withProperty p).Safe root := by
  refine ⟨fun u has => ?_, fun _ has => by cases has⟩
  cases p with
  -- No other property puts a link on the node.
  | link v =>
      cases has
      exact given.link_web
  | _ => cases has

theorem leads_of_address? {root span : Span} (inside : root.Within span)
    (isTag : span.tag = some .button) {label address : String}
    (acts : span.data.bind (Action.address? label) = some address) : root.Leads address := by
  obtain ⟨data, given, acts⟩ := Option.bind_eq_some_iff.mp acts
  have made := acts
  unfold Action.address? at made
  split at made
  · obtain ⟨u, opens, rfl⟩ := Option.map_eq_some_iff.mp made
    obtain ⟨reference, scheme, names, web, starts, leads⟩ := Action.page?_leads opens
    exact .page inside isTag given acts names web starts leads
  · cases made
    refine .answer ?_
    rw [Action.answer_text]
    exact List.prefix_append _ _
  · cases made

theorem safe_attached {root span : Span} (inside : root.Within span) {enclosing : List Tag}
    {policy : Option QuotePolicy} {children ns : List Node} {a : Attachment}
    (attaches : Attaches policy ⟨span.tag, span.data, span.key, enclosing⟩ children ns a) :
    ((Node.group ns).withAttachment a).Safe root := by
  apply safe_unlinked rfl
  rintro b ⟨⟩ isButton
  obtain ⟨isTag, -, address, acts, rfl⟩ := attaches.of_button isButton
  exact ⟨address, rfl, leads_of_address? inside isTag acts⟩

theorem allSafe_of_makes {root span : Span} (inside : root.Within span) {enclosing : List Tag}
    {policy : Option QuotePolicy} (plain : ∀ rules ∈ policy, rules.textStyle.link = none)
    {children : List Node} {n : Node}
    (made : Makes policy ⟨span.tag, span.data, span.key, enclosing⟩ children n)
    (safe : ∀ m ∈ children, m.AllSafe root) : n.AllSafe root := by
  refine made.forall_nodes safe ?_ ?_ ?_ ?_
  · intro m bare unstyled _
    exact safe_bare bare (by rw [unstyled]; rfl)
  · exact fun p given => safe_styled given
  · intro rules kind name inForce
    refine safe_bare rfl ?_
    change (Style.empty.merge rules.textStyle).link = none
    rw [Style.empty_merge]
    exact plain rules inForce
  · exact fun ns a attaches => safe_attached inside attaches

theorem allSafe_underText {root : Span} {policy : Option QuotePolicy}
    (plain : ∀ rules ∈ policy, rules.textStyle.link = none) (s : String) (enclosing : List Tag) :
    ((under policy).text s enclosing).AllSafe root := by
  rw [underText_eq]
  apply allSafe_text
  cases policy with
  | none => rfl
  | some rules => exact plain rules rfl

end Strategy

/-! ## The statement -/

theorem Document.render_addresses (span : Span) (options : Options)
    (plain : ∀ rules ∈ options.quotePolicy, rules.textStyle.link = none) :
    ∀ n ∈ (Document.render span options).nodes, n.Safe span := by
  have inForce (quoted : Bool) :
      ∀ rules ∈ options.policyFor quoted, rules.textStyle.link = none := by
    cases quoted with
    | true => exact plain
    | false => rintro rules ⟨⟩
  rw [Document.render_eq]
  refine Engine.render_induction_within (P := Node.AllSafe span) ?_ ?_ ?_ _ _ .root
  · exact fun s => allSafe_text s rfl
  · intro enclosing s
    rw [Document.strategyFor_engine]
    exact Strategy.allSafe_underText (inForce _) s enclosing
  · intro inner enclosing children inside safe
    rw [Document.strategyFor_engine]
    exact Strategy.allSafe_of_makes inside (inForce _) (Strategy.makes_node _ _ children) safe

/-- A button that posts an answer, and one that opens a page, in a quote that is shown like any
other content. -/
theorem Document.render_addresses_quoted :
    let page : Json.Value := .object [("act", .string "url"), ("ref", .string "https:example.org")]
    let root : Span := .withChildren (.ofTag .quote)
      [.withData (.ofTag .button) (.object [("act", .string "pub")]),
        .withData (.ofTag .button) page]
    ∀ n ∈ (render root { quotePolicy := some .keepAll }).nodes, n.Safe root := by
  apply render_addresses
  rintro rules ⟨⟩
  rfl

end RichText
