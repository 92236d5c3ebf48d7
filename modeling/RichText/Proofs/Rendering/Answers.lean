import RichText.Proofs.Rendering.Addresses
import RichText.Proofs.Rendering.Sites
import RichText.Proofs.Url.Form

/-!
# Answers in rendered documents

Main statement (`render_answers`): an answer is posted at a fixed address, and what follows the
question mark decodes to the text of the button and to its name and value, so that an address tells
what was answered. In a rendered document the text is that of the node of the button.
-/
namespace RichText

open Url

namespace Action

/-! ## What an answer says -/

/-- The query of an answer: the text of the button, and the name and value of one with a name. -/
def query (label : String) (data : Json.Fields) : List Char :=
  "title=".toList ++ Form.encode label.toList ++
    match data.scalar? "name" with
    | some name =>
      "&name=".toList ++ Form.encode name.toList ++
        ("&val=".toList ++ Form.encode ((data.scalar? "val").getD "1").toList)
    | none => []

def sent (label : String) (data : Json.Fields) : List (List Char × List Char) :=
  ("title".toList, label.toList) ::
    match data.scalar? "name" with
    | some name =>
      [("name".toList, name.toList), ("val".toList, ((data.scalar? "val").getD "1").toList)]
    | none => []

variable {label label' : String} {data data' : Json.Fields}

theorem query_eq (label : String) (data : Json.Fields) :
    query label data =
      let titled := Form.append [] "title".toList label.toList
      match data.scalar? "name" with
      | some name =>
        Form.append (Form.append titled "name".toList name.toList) "val".toList
          ((data.scalar? "val").getD "1").toList
      | none => titled := by
  unfold query
  cases data.scalar? "name" with
  | none => exact List.append_nil _
  | some name => exact (List.append_assoc _ _ _).symm

theorem pairs_query (label : String) (data : Json.Fields) :
    Form.pairs (query label data) = sent label data := by
  rw [query_eq, sent]
  cases data.scalar? "name" with
  | none => exact Form.pairs_append [] _ _
  | some name =>
      simp only [Form.pairs_append]
      rfl

theorem sent_inj (same : sent label data = sent label' data') :
    label = label' ∧ pair? data = pair? data' := by
  unfold sent at same
  obtain ⟨title, rest⟩ := List.cons.inj same
  refine ⟨String.toList_inj.mp (Prod.mk.inj title).2, ?_⟩
  unfold pair?
  generalize data.scalar? "name" = name, data'.scalar? "name" = name' at rest ⊢
  cases name with
  | none =>
      cases name' with
      | none => rfl
      | some name' => cases rest
  | some name =>
      cases name' with
      | none => cases rest
      | some name' =>
          simp only [List.cons.injEq, Prod.mk.injEq, true_and, and_true, String.toList_inj] at rest
          rw [Option.map_some, Option.map_some, rest.1, defaultValue, rest.2]

theorem query_eq_answerTail (label : String) (data : Json.Fields) :
    query label data = "title=".toList ++ (Form.encode label.toList ++ answerTail data) := by
  unfold query answerTail pair?
  cases data.scalar? "name" with
  | none => simp only [Option.map_none, List.append_assoc]
  | some name => simp only [Option.map_some, List.append_assoc, defaultValue]

theorem address?_pub (acts : data.text? "act" = some "pub") (label : String) :
    ∃ address, address? label data = some address ∧
      address.toList = "tinode:///post?".toList ++ query label data := by
  refine ⟨(answer label data).text, by rw [address?, acts]; rfl, ?_⟩
  rw [answer_text, query_eq_answerTail]
  rfl

/-- Only an answer has an address that starts like that of an answer. -/
theorem pub_of_address? {address : String} (leads : address? label data = some address)
    (posts : "tinode:///post?".toList <+: address.toList) : data.text? "act" = some "pub" := by
  unfold address? at leads
  split at leads
  case h_1 =>
    obtain ⟨u, opens, rfl⟩ := Option.map_eq_some_iff.mp leads
    obtain ⟨-, scheme, -, web, -, starts⟩ := page?_leads opens
    obtain ⟨rest, same⟩ := posts
    obtain ⟨rest', same'⟩ := starts
    rw [← same] at same'
    rcases web with rfl | rfl <;> cases same'
  case h_2 acts => exact acts
  case h_3 => cases leads

end Action

/-! ## Buttons -/

structure Span.Asks (span : Span) (data : Json.Fields) : Prop where
  isTag : span.tag = some .button
  given : span.data = some data
  acts : data.text? "act" = some "pub"

/-- The attachment of a button that posts answers, on its node: the title that its address decodes
to is its name, and the text of the node. -/
structure Attachment.Posts (a : Attachment) (n : Node) (data : Json.Fields) : Prop where
  isButton : a.kind = .button
  name : a.name = some n.plainText
  reference : ∃ address query, a.reference = some address ∧
    address.toList = "tinode:///post?".toList ++ query ∧
    Form.pairs query = Action.sent n.plainText data

/-- Every button on the node whose address starts like that of an answer is one that posts it. -/
def Node.AnswersIn (root : Span) (n : Node) : Prop :=
  ∀ a, n.attachment = some a → a.kind = .button → ∀ address, a.reference = some address →
    "tinode:///post?".toList <+: address.toList →
      ∃ span data, root.Within span ∧ span.Asks data ∧ a.Posts n data

theorem Node.answersIn_bare {root : Span} {n : Node} (bare : n.attachment = none) :
    n.AnswersIn root := by
  intro a has
  cases bare.symm.trans has

open Node

namespace Strategy

theorem posts_button {data : Json.Fields} (acts : data.text? "act" = some "pub")
    {children : List Node} {address : String}
    (leads : Action.address? (Node.group children).plainText data = some address)
    (key : Option UInt64) :
    ((Attachment.button address (Node.group children).plainText).withKey key).Posts
      ((Node.group children).withAttachment
        ((Attachment.button address (Node.group children).plainText).withKey key)) data := by
  obtain ⟨address', leads', spelled⟩ := Action.address?_pub acts (Node.group children).plainText
  cases leads.symm.trans leads'
  exact ⟨rfl, rfl, address, _, rfl, spelled, Action.pairs_query _ _⟩

/-- A button has no other attachment than its own. -/
theorem Makes.posts {policy : Option QuotePolicy} {c : Context} {children : List Node} {n : Node}
    (made : Makes policy c children n) (isTag : c.tag = some .button) {data : Json.Fields}
    (given : c.data = some data) (acts : data.text? "act" = some "pub") {a : Attachment}
    (has : n.attachment = some a) : a.Posts n data := by
  cases made with
  | button _ _ leads =>
      cases has
      rw [given, Option.bind_some] at leads
      exact posts_button acts leads c.key
  | plain | styled | lines | nothing | label => cases has
  | lineBreak other | image other | file other | noFile other | quote other | unframed other =>
      cases isTag.symm.trans other

theorem answersIn_attached {root span : Span} (inside : root.Within span) {enclosing : List Tag}
    {policy : Option QuotePolicy} {children ns : List Node} {a : Attachment}
    (attaches : Attaches policy ⟨span.tag, span.data, span.key, enclosing⟩ children ns a) :
    ((Node.group ns).withAttachment a).AnswersIn root := by
  rintro b ⟨⟩ isButton address leads posts
  obtain ⟨isTag, rfl, address, opens, rfl⟩ := attaches.of_button isButton
  cases leads
  obtain ⟨data, given, opens⟩ := Option.bind_eq_some_iff.mp opens
  have acts := Action.pub_of_address? opens posts
  exact ⟨span, data, inside, ⟨isTag, given, acts⟩, posts_button acts opens span.key⟩

theorem answersIn_of_makes {root span : Span} (inside : root.Within span) {enclosing : List Tag}
    {policy : Option QuotePolicy} {children : List Node} {n : Node}
    (made : Makes policy ⟨span.tag, span.data, span.key, enclosing⟩ children n)
    (content : ∀ m ∈ children, ∀ l ∈ m.nodes, l.AnswersIn root) : ∀ m ∈ n.nodes, m.AnswersIn root :=
  made.forall_nodes content (fun _ bare _ _ => answersIn_bare bare)
    (fun _ _ => answersIn_bare rfl) (fun _ _ _ _ => answersIn_bare rfl)
    (fun _ _ attaches => answersIn_attached inside attaches)

end Strategy

/-! ## Runs -/

namespace Document

theorem answersIn_render (options : Options) (limit : Nat) (enclosing : List Tag) {root span : Span}
    (inside : root.Within span) :
    ∀ n ∈ ((engine options).render limit enclosing span).nodes, n.AnswersIn root := by
  have plain (s : String) (own : Style) :
      ∀ n ∈ (Node.text s own none).nodes, n.AnswersIn root :=
    forall_mem_nodes_text (answersIn_bare rfl)
  apply Engine.render_induction_within
    (P := fun n => ∀ m ∈ n.nodes, m.AnswersIn root) _ _ _ limit enclosing inside
  · exact fun s => plain s _
  · intro enclosing s
    rw [strategyFor_engine, Strategy.underText_eq]
    exact plain s _
  · intro inner enclosing children inside content
    rw [strategyFor_engine]
    exact Strategy.answersIn_of_makes inside (Strategy.makes_node _ _ children) content

theorem posts_of_asks (options : Options) (limit : Nat) (enclosing : List Tag) {span : Span}
    {data : Json.Fields} (asks : span.Asks data) {a : Attachment}
    (has : ((engine options).render limit enclosing span).attachment = some a) :
    a.Posts ((engine options).render limit enclosing span) data := by
  cases limit with
  | zero => cases has
  | succ limit =>
      have other : ¬ span.isText := by
        rw [Span.isText, asks.isTag]
        exact Bool.false_ne_true
      rw [Engine.render_node other, strategyFor_engine] at has ⊢
      exact (Strategy.makes_node _ _ _).posts asks.isTag asks.given asks.acts has

/-! ## The statement -/

theorem render_answers :
    (∀ data : Json.Fields, data.text? "act" = some "pub" → ∀ label, ∃ address,
      Action.address? label data = some address ∧
        address.toList = "tinode:///post?".toList ++ Action.query label data ∧
        Form.pairs (Action.query label data) = Action.sent label data) ∧
      (∀ data data' : Json.Fields, data.text? "act" = some "pub" → data'.text? "act" = some "pub" →
        ∀ label label', Action.address? label data = Action.address? label' data' →
          label = label' ∧ Action.pair? data = Action.pair? data') ∧
      ∀ (root : Span) (options : Options),
        (∀ n ∈ (render root options).nodes, ∀ a, n.attachment = some a → a.kind = .button →
          ∀ address, a.reference = some address → "tinode:///post?".toList <+: address.toList →
            ∃ span data, root.Within span ∧ span.Asks data ∧ a.Posts n data) ∧
        ∀ path site span data n a, root.follow? path = some span → span.Asks data →
          root.site? options [] path = some site → (render root options).follow? site = some n →
            n.attachment = some a → a.Posts n data := by
  refine ⟨?_, ?_, fun root options => ⟨?_, ?_⟩⟩
  · intro data acts label
    obtain ⟨address, leads, spelled⟩ := Action.address?_pub acts label
    exact ⟨address, leads, spelled, Action.pairs_query label data⟩
  · intro data data' acts acts' label label' same
    obtain ⟨address, leads, spelled⟩ := Action.address?_pub acts label
    obtain ⟨address', leads', spelled'⟩ := Action.address?_pub acts' label'
    obtain rfl : address = address' := Option.some.inj (leads.symm.trans (same.trans leads'))
    apply Action.sent_inj
    rw [← Action.pairs_query, ← Action.pairs_query,
      List.append_cancel_left (spelled.symm.trans spelled')]
  · rw [render_eq]
    exact answersIn_render options _ [] .root
  · intro path site span data n a leads asks stands found has
    rw [render_eq] at found
    rcases Nat.lt_or_ge options.maxDepth path.length with deep | short
    · cases (follow?_site_deep options stands deep).symm.trans found
    · obtain rfl := Option.some.inj (found.symm.trans (follow?_site options leads stands short))
      exact posts_of_asks options _ _ asks has

/-- The text of a button in the text of a button does not count. -/
theorem render_answers_nested :
    let inner : Span := .withData (.withChildren (.ofTag .button) [.ofText "inner"])
      (.object [("act", .string "pub")])
    let root : Span := .withData (.withChildren (.ofTag .button) [.ofText "Outer & co", inner])
      (.object [("act", .string "pub"), ("name", .string "a=b")])
    ∃ a, (render root).attachment = some a ∧ a.name = some "Outer & co" ∧
      ∃ address query, a.reference = some address ∧
        address.toList = "tinode:///post?".toList ++ query ∧
        Form.pairs query = [("title".toList, "Outer & co".toList), ("name".toList, "a=b".toList),
          ("val".toList, "1".toList)] := by
  intro inner root
  obtain ⟨a, has⟩ : ∃ a, (render root).attachment = some a :=
    Option.isSome_iff_exists.mp (by decide +kernel)
  have text : (render root).plainText = "Outer & co" := by decide +kernel
  obtain ⟨-, name, address, query, leads, spelled, decoded⟩ :=
    (render_answers.2.2 root { }).2 [] [] root _ _ a rfl ⟨rfl, rfl, rfl⟩ rfl rfl has
  refine ⟨a, has, name.trans (congrArg some text), address, query, leads, spelled, decoded.trans ?_⟩
  rw [text]
  rfl

end Document

end RichText
