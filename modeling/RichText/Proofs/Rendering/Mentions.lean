import RichText.Proofs.Node.Leaves
import RichText.Proofs.Rendering.Sites

/-!
# The colour of mentions

Main statement (`render_mention`): under a policy that colours mentions, a text in a mention has the
colour of the identifier if it is outside quotes, or if the policy sets no foreground for quoted text.
If it sets one, then the text in a quote has that foreground, since the style of quoted text is on the
text itself and the mention only around it; the mention is then neither coloured nor bold
(`render_mention_muted`).
-/
namespace RichText

/-- Whether spans with a tag show their content as it is, but for other properties than a foreground. -/
def Tag.keepsColour : Tag → Bool
  | strong | emphasis | strikethrough | highlight | code | hashtag | link | row | other _ => true
  | _ => false

/-- A text in a mention, with nothing between them that could colour it. -/
structure Span.Mentions (root mention : Span) (path below : List Nat) (id s : String) : Prop where
  leads : root.follow? path = some mention
  isTag : mention.tag = some .mention
  names : mention.data.bind (·.scalar? "val") = some id
  text : ∃ span, mention.follow? below = some span ∧ span.isText = true ∧ span.text = some s
  between : ∀ span ∈ (mention.ancestors below).tail, ∀ t ∈ span.tag, t.keepsColour = true

open Node

/-! ## Steps -/

namespace Strategy

variable {policy : Option QuotePolicy} {c : Context}

theorem uncoloured_withProperty? (children : List Node) {p : Option Style.Property}
    (other : ∀ q ∈ p, q.key ≠ .foreground) :
    ∃ own : Style, withProperty? (.group children) p = .container children own none ∧
      own.get? .foreground = none := by
  cases p with
  | none => exact ⟨.empty, rfl, rfl⟩
  | some q =>
      refine ⟨Style.empty.insert q, rfl, ?_⟩
      rw [Style.get?_insert, if_neg (other q rfl).symm, Style.get?_empty]

theorem uncoloured_full (children : List Node) (keeps : ∀ t ∈ c.tag, t.keepsColour = true) :
    ∃ own : Style, full.node c children = .container children own none ∧
      own.get? .foreground = none := by
  obtain ⟨tag, data, key, enclosing⟩ := c
  cases tag with
  | none => exact ⟨.empty, rfl, rfl⟩
  | some t =>
      have keeps := keeps t rfl
      have simple (other : ∀ q ∈ t.property?, q.key ≠ .foreground) :
          ∃ own : Style, withProperty? (.group children) t.property? =
            .container children own none ∧ own.get? .foreground = none :=
        uncoloured_withProperty? children other
      cases t with
      | lineBreak | mention | image | file | button | quote | form => cases keeps
      | strong | emphasis | strikethrough | highlight | code =>
          apply simple
          rintro q ⟨⟩
          exact nofun
      | link =>
          apply uncoloured_withProperty?
          intro q given
          obtain ⟨u, -, rfl⟩ := Option.map_eq_some_iff.mp given
          exact nofun
      | hashtag | row | other => exact ⟨.empty, rfl, rfl⟩

theorem uncoloured_node (policy : Option QuotePolicy) (children : List Node)
    (keeps : ∀ t ∈ c.tag, t.keepsColour = true) :
    ∃ own : Style, (under policy).node c children = .container children own none ∧
      own.get? .foreground = none := by
  have whole := uncoloured_full children keeps
  cases policy with
  | none => exact whole
  | some rules =>
      obtain ⟨tag, data, key, enclosing⟩ := c
      cases tag with
      | none => exact whole
      | some t =>
          have keeps := keeps t rfl
          cases t with
          | lineBreak | mention | image | file | button | quote | form => cases keeps
          | link =>
              change ∃ own : Style, (if rules.links then _ else _) = _ ∧ _
              split
              · exact whole
              · exact ⟨.empty, rfl, rfl⟩
          | strong | emphasis | strikethrough | highlight | code | hashtag | row | other =>
              exact whole

/-- A mention colours what is around its content, not the content itself. -/
theorem mention_node (children : List Node) (coloured : ∀ rules ∈ policy, rules.mentionColor = true)
    (isTag : c.tag = some .mention) {id : String}
    (names : c.data.bind (·.scalar? "val") = some id) :
    (under policy).node c children =
      .container children (.ofProperty (.foreground (Palette.mention id))) none := by
  have whole : full.node c children =
      .container children (.ofProperty (.foreground (Palette.mention id))) none := by
    rw [node, isTag]
    change withProperty? (.group children) (mentionProperty? c) = _
    rw [mentionProperty?, names]
    rfl
  cases policy with
  | none => exact whole
  | some rules =>
      rw [under, node, isTag]
      change (if rules.mentionColor then full.mention c children else _) = _
      rw [if_pos (coloured rules rfl), ← whole, node, isTag]

end Strategy

/-! ## Runs -/

theorem Tag.ne_quote_of_keepsColour {tag : Option Tag} (keeps : ∀ t ∈ tag, t.keepsColour = true) :
    tag ≠ some .quote := by
  rintro rfl
  cases keeps .quote rfl

namespace Document

/-- A container shows what its content shows, and adds its style last. -/
theorem seen_child (options : Options) {span child : Span} {i : Nat}
    (place : span.children[i]? = some child) {limit : Nat} {enclosing : List Tag} {own : Style}
    (made : (Strategy.under (options.policyFor (enclosing.contains .quote))).node
        ⟨span.tag, span.data, span.key, enclosing⟩
        ((engine options).content limit (enclosing ++ span.tag.toList) span) =
      .container ((engine options).content limit (enclosing ++ span.tag.toList) span) own none)
    {below : List Nat} {n : Node}
    (seen : ((engine options).render limit (enclosing ++ span.tag.toList) child).Seen below n)
    (k : Style.Key) :
    ((engine options).render (limit + 1) enclosing span).Seen (i :: below) n ∧
      nearest? k (((engine options).render (limit + 1) enclosing span).ancestors (i :: below) ++ [n]) =
        (nearest? k (((engine options).render limit (enclosing ++ span.tag.toList) child).ancestors
          below ++ [n])).or (own.get? k) := by
  have inner := Engine.getElem?_content (engine options) limit (enclosing ++ span.tag.toList) place
  rw [Engine.render_node (Span.not_isText_of_child place), strategyFor_engine, made]
  exact ⟨seen_cons.mpr ⟨rfl, _, inner, seen⟩, nearest?_ancestors_cons inner k below⟩

/-- The node of a text has the style of its policy, and none of the nodes around it adds a foreground. -/
theorem seen_text (options : Options) {span text : Span} {below : List Nat} {s : String}
    (leads : span.follow? below = some text) (isText : text.isText = true) (has : text.text = some s)
    (nonempty : s ≠ "") (between : ∀ m ∈ span.ancestors below, ∀ t ∈ m.tag, t.keepsColour = true)
    {limit : Nat} (short : below.length < limit) (enclosing : List Tag) :
    ∃ n, ((engine options).render limit enclosing span).Seen below n ∧
      n.shown? = some (.text s) ∧
      nearest? .foreground (((engine options).render limit enclosing span).ancestors below ++ [n]) =
        (options.policyFor (enclosing.contains .quote)).bind (·.textStyle.get? .foreground) := by
  induction below generalizing span limit enclosing with
  | nil =>
      cases leads
      obtain ⟨limit, rfl⟩ := Nat.exists_eq_add_of_lt short
      rw [Engine.render_text isText, strategyFor_engine, has, Option.getD_some,
        Strategy.underText_eq]
      refine ⟨_, seen_nil.mpr rfl, shown?_eq_text.mpr ⟨rfl, rfl, nonempty⟩, ?_⟩
      rw [ancestors, List.nil_append, nearest?_singleton]
      cases options.policyFor (enclosing.contains .quote) <;> rfl
  | cons i below ih =>
      obtain ⟨child, place, leads⟩ := Span.follow?_cons_eq_some.mp leads
      rw [Span.ancestors_cons place, List.forall_mem_cons] at between
      obtain ⟨keeps, between⟩ := between
      cases limit with
      | zero => exact absurd short (Nat.not_lt_zero _)
      | succ limit =>
          obtain ⟨n, seen, shows, foreground⟩ := ih leads between (Nat.lt_of_succ_lt_succ short)
            (enclosing ++ span.tag.toList)
          rw [Span.contains_quote_of_ne (Tag.ne_quote_of_keepsColour keeps)] at foreground
          obtain ⟨own, made, uncoloured⟩ := Strategy.uncoloured_node
            (c := ⟨span.tag, span.data, span.key, enclosing⟩)
            (options.policyFor (enclosing.contains .quote))
            ((engine options).content limit (enclosing ++ span.tag.toList) span) keeps
          obtain ⟨seen, nearest⟩ := seen_child options place made seen .foreground
          refine ⟨n, seen, shows, ?_⟩
          rw [nearest, foreground, uncoloured, Option.or_none]

/-- A text below a mention has the foreground of its policy, or else the colour of the mention. -/
theorem seen_mention (options : Options) {root mention : Span} {path below : List Nat}
    {id s : String} (mentions : root.Mentions mention path below id s) (nonempty : s ≠ "")
    {limit : Nat} (short : below.length < limit) (enclosing : List Tag)
    (coloured : ∀ rules ∈ options.policyFor (enclosing.contains .quote), rules.mentionColor = true) :
    ∃ n, ((engine options).render limit enclosing mention).Seen below n ∧
      n.shown? = some (.text s) ∧
      nearest? .foreground (((engine options).render limit enclosing mention).ancestors below ++ [n]) =
        ((options.policyFor (enclosing.contains .quote)).bind (·.textStyle.get? .foreground)).or
          (some (.foreground (Palette.mention id))) := by
  obtain ⟨text, leads, isText, has⟩ := mentions.text
  cases below with
  | nil =>
      cases leads
      rw [Span.isText, mentions.isTag] at isText
      cases isText
  | cons i below =>
      obtain ⟨child, place, leads⟩ := Span.follow?_cons_eq_some.mp leads
      have between := mentions.between
      rw [Span.ancestors_cons place, List.tail_cons] at between
      cases limit with
      | zero => exact absurd short (Nat.not_lt_zero _)
      | succ limit =>
          obtain ⟨n, seen, shows, foreground⟩ := seen_text options leads isText has nonempty between
            (Nat.lt_of_succ_lt_succ short) (enclosing ++ mention.tag.toList)
          rw [Span.contains_quote_of_ne (by rw [mentions.isTag]; decide)] at foreground
          have made := Strategy.mention_node
            (c := ⟨mention.tag, mention.data, mention.key, enclosing⟩)
            ((engine options).content limit (enclosing ++ mention.tag.toList) mention) coloured
            mentions.isTag mentions.names
          obtain ⟨seen, nearest⟩ := seen_child options place made seen .foreground
          refine ⟨n, seen, shows, ?_⟩
          rw [nearest, foreground]
          rfl

/-! ## The statement -/

theorem render_mention {rules : QuotePolicy} {root mention : Span} {path below site : List Nat}
    {id s : String} {maxDepth : Nat} (coloured : rules.mentionColor = true)
    (mentions : root.Mentions mention path below id s) (nonempty : s ≠ "")
    (short : (path ++ below).length < maxDepth)
    (stands : root.site? ⟨some rules, maxDepth⟩ [] path = some site)
    (shown : ∀ n ∈ (render root ⟨some rules, maxDepth⟩).ancestors site,
      hides n.attachment = false) :
    ∃ n, ∃ leaf ∈ (render root ⟨some rules, maxDepth⟩).leaves,
      (render root ⟨some rules, maxDepth⟩).Draws (site ++ below) n leaf ∧ leaf.content = .text s ∧
        leaf.style.get? .foreground =
          if Tag.quote ∈ root.tagsAbove path then
            (rules.textStyle.get? .foreground).or (some (.foreground (Palette.mention id)))
          else some (.foreground (Palette.mention id)) := by
  rw [render_eq] at shown ⊢
  rw [List.length_append] at short
  have above : path.length ≤ maxDepth := by omega
  have deep : below.length < maxDepth - path.length := by omega
  have leads := follow?_site ⟨some rules, maxDepth⟩ mentions.leads stands above
  rw [List.nil_append] at leads
  obtain ⟨n, seen, shows, foreground⟩ :=
    seen_mention ⟨some rules, maxDepth⟩ mentions nonempty deep (root.tagsAbove path) <| by
      rintro other inForce
      cases Options.mem_quotePolicy inForce
      exact coloured
  obtain ⟨leaf, member, drawn⟩ := exists_leaf (Seen.append ⟨leads, shown⟩ seen) (by rw [shows]; rfl)
  refine ⟨n, leaf, member, drawn, ?_, ?_⟩
  · exact Option.some.inj (drawn.content.symm.trans shows)
  · rw [drawn.style, ancestors_append leads, List.append_assoc, nearest?_append, foreground,
      Options.policyFor]
    by_cases inside : Tag.quote ∈ root.tagsAbove path
    · rw [if_pos inside, if_pos (List.contains_iff_mem.mpr inside), Option.or_assoc]
      rfl
    · rw [if_neg inside, if_neg fun contains => inside (List.contains_iff_mem.mp contains)]
      rfl

/-- A mention in strong type in a quote with italic text. -/
theorem render_mention_strong :
    let mention : Span := .withData
      (.withChildren (.ofTag .mention) [.withChildren (.ofTag .strong) [.ofText "Alice"]])
      (.object [("val", .string "usrAlice")])
    let root : Span := .withChildren (.ofTag .quote) [mention]
    let rules : QuotePolicy := { mentionColor := true, textStyle := .ofProperty .italic }
    let tree := render root ⟨some rules, 4⟩
    root.Mentions mention [0] [0, 0] "usrAlice" "Alice" ∧
      root.site? ⟨some rules, 4⟩ [] [0] = some [0, 0] ∧
      ∃ n, ∃ leaf ∈ tree.leaves, tree.Draws [0, 0, 0, 0] n leaf ∧ leaf.content = .text "Alice" ∧
        leaf.style.get? .foreground = some (.foreground (Palette.mention "usrAlice")) := by
  intro mention root rules tree
  have mentions : root.Mentions mention [0] [0, 0] "usrAlice" "Alice" := by
    refine ⟨rfl, rfl, by decide, ⟨_, rfl, rfl, rfl⟩, ?_⟩
    intro span member t isTag
    obtain rfl := List.mem_singleton.mp member
    cases isTag
    rfl
  refine ⟨mentions, rfl, ?_⟩
  exact render_mention rfl mentions (by decide) (by decide) rfl (by decide +kernel)

/-- Under the default style of quoted text a mention has not the colour of the identifier. -/
theorem render_mention_muted :
    let root : Span := .withChildren (.ofTag .quote)
      [.withData (.withChildren (.ofTag .mention) [.ofText "Alice"])
        (.object [("val", .string "usrAlice")])]
    let rules : QuotePolicy := { mentionColor := true }
    (∃ mention, root.Mentions mention [0] [0] "usrAlice" "Alice") ∧
      ∃ leaf ∈ (render root { quotePolicy := some rules }).leaves, leaf.content = .text "Alice" ∧
        leaf.style.get? .foreground ≠ some (.foreground (Palette.mention "usrAlice")) := by
  intro root rules
  refine ⟨⟨_, rfl, rfl, by decide, ⟨_, rfl, rfl, rfl⟩, nofun⟩, ?_⟩
  decide +kernel

end Document

end RichText
