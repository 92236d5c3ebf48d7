import RichText.Proofs.Rendering.Inside

/-!
# What is left inside quotes

Main statement (`render_reduced`): below a quote there are only attachments of the kinds that the
policy keeps, and links only if the policy allows them or puts them there itself. So leaves inside
two quotes need a policy that keeps nested quotes, and under the default policy all leaves inside a
quote are texts.
-/
namespace RichText

/-- Whether a policy lets an attachment be inside a quote. -/
def QuotePolicy.Admits (rules : QuotePolicy) : Attachment.Kind → Prop
  | .image => rules.images = .keep
  | .data => rules.files = .keep
  | .empty => rules.files = .keep
  | .button => rules.buttons = .keep
  | .quote => rules.nestedQuotes = .keep

namespace Node

structure Reduced (rules : QuotePolicy) (n : Node) : Prop where
  attachment : ∀ a, n.attachment = some a → rules.Admits a.kind
  link : n.style.contains .link = true →
    rules.links = true ∨ rules.textStyle.contains .link = true

def AllReduced (rules : QuotePolicy) (n : Node) : Prop := ∀ m ∈ n.nodes, m.Reduced rules

def QuotesReduced (rules : QuotePolicy) (n : Node) : Prop :=
  ∀ quote ∈ n.nodes, quote.IsQuote → ∀ m ∈ quote.innerNodes, m.Reduced rules

variable {rules : QuotePolicy}

theorem reduced_bare {n : Node} (bare : n.attachment = none)
    (link : n.style.contains .link = true →
      rules.links = true ∨ rules.textStyle.contains .link = true) : n.Reduced rules := by
  refine ⟨?_, link⟩
  intro a has
  cases bare.symm.trans has

theorem reduced_plain {n : Node} (bare : n.attachment = none) (unstyled : n.style = .empty) :
    n.Reduced rules := by
  apply reduced_bare bare
  rw [unstyled]
  exact nofun

/-- A text in the style for quoted text has no link but the one of that style. -/
theorem reduced_muted {n : Node} (bare : n.attachment = none)
    (muted : n.style.contains .link = (Style.empty.merge rules.textStyle).contains .link) :
    n.Reduced rules := by
  apply reduced_bare bare
  rw [muted, Style.empty_merge]
  exact .inr

end Node

open Node

/-! ## Steps -/

namespace Strategy

variable {rules : QuotePolicy} {c : Context} {children : List Node} {n : Node}

theorem reduced_styled {p : Style.Property} (given : Gives (some rules) c p) :
    ((Node.group children).withProperty p).Reduced rules := by
  apply reduced_bare rfl
  intro linked
  cases p with
  | link u => exact .inl (inFull_some.mp given.of_link.1)
  | _ => cases linked

/-- A span keeps its attachment if the policy keeps it in full. -/
theorem Attaches.admitted {ns : List Node} {a : Attachment}
    (attaches : Attaches (some rules) c children ns a) : rules.Admits a.kind := by
  cases attaches with
  | image whole kind =>
      rw [kind]
      exact inFull_some.mp whole
  | file whole kind =>
      rcases kind with kind | kind
      · rw [kind]
        exact inFull_some.mp whole
      · rw [kind]
        exact inFull_some.mp whole
  | button isTag whole acts => exact inFull_some.mp whole
  | quote isTag whole kind =>
      rw [kind]
      exact inFull_some.mp whole

theorem allReduced_of_makes (made : Makes (some rules) c children n)
    (reduced : ∀ m ∈ children, m.AllReduced rules) : n.AllReduced rules := by
  refine made.forall_nodes reduced ?_ ?_ ?_ ?_
  · exact fun m bare unstyled _ => reduced_plain bare unstyled
  · exact fun p given => reduced_styled given
  · rintro _ kind name ⟨⟩
    exact reduced_muted rfl rfl
  · intro ns a attaches
    refine ⟨?_, nofun⟩
    rintro b ⟨⟩
    exact attaches.admitted

theorem allReduced_quotedText (rules : QuotePolicy) (s : String) (enclosing : List Tag) :
    ((quoted rules).text s enclosing).AllReduced rules :=
  forall_mem_nodes_text (reduced_muted rfl rfl)

theorem allReduced_quoted (rules : QuotePolicy) (c : Context)
    (reduced : ∀ m ∈ children, m.AllReduced rules) :
    ((quoted rules).node c children).AllReduced rules :=
  allReduced_of_makes (makes_quoted c children rules) reduced

end Strategy

/-! ## Runs -/

theorem Engine.allReduced_render (base : Strategy) (rules : QuotePolicy) (maxDepth : Nat)
    {enclosing : List Tag} (inside : Tag.quote ∈ enclosing) (limit : Nat) (span : Span) :
    (({ strategy := base, quoteStrategy := some (.quoted rules), maxDepth } : Engine).render limit
      enclosing span).AllReduced rules := by
  rw [render_quoted base (.quoted rules) maxDepth inside]
  apply Engine.render_induction
  · exact fun s => forall_mem_nodes_text (reduced_plain rfl rfl)
  · exact fun enclosing s => Strategy.allReduced_quotedText rules s enclosing
  · exact fun c children reduced => Strategy.allReduced_quoted rules c reduced

theorem Document.quotesReduced_render (rules : QuotePolicy) (maxDepth limit : Nat)
    (enclosing : List Tag) (span : Span) :
    ((engine ⟨some rules, maxDepth⟩).render limit enclosing span).QuotesReduced rules := by
  refine inQuotes_render (Q := fun _ _ => True) ?_ ?_ ?_ ?_ maxDepth limit enclosing trivial
  · exact fun _ _ _ _ _ => trivial
  · exact fun span _ => reduced_plain rfl rfl
  · exact fun s enclosing => reduced_muted rfl rfl
  · exact fun c children reduced => Strategy.allReduced_quoted rules c reduced

/-! ## Leaves inside quotes -/

namespace Node

theorem attachment_of_leaf {n : Node} {leaf : Leaf} (member : leaf ∈ n.leaves) {a : Attachment}
    (has : leaf.content = .attachment a) : ∃ m ∈ n.nodes, m.attachment = some a := by
  obtain ⟨path, m, drawn⟩ := exists_draws member
  refine ⟨m, mem_nodes_of_leads drawn.seen.leads m (by simp), ?_⟩
  rw [← shown?_eq_attachment, drawn.content, has]

/-- In a quote the policy has let every attachment be that is seen. -/
theorem QuotesReduced.admits {rules : QuotePolicy} {n : Node} (reduced : n.QuotesReduced rules)
    {leaf : Leaf} (member : leaf ∈ n.leaves) (deep : 0 < leaf.quoteDepth) {a : Attachment}
    (has : leaf.content = .attachment a) : rules.Admits a.kind := by
  obtain ⟨path, m, drawn⟩ := exists_draws member
  have admitted := (InQuotes.of_draws reduced drawn deep).attachment a
  rw [← shown?_eq_attachment, drawn.content, has] at admitted
  exact admitted rfl

theorem QuotesReduced.nested {rules : QuotePolicy} {n : Node} (reduced : n.QuotesReduced rules)
    {leaf : Leaf} (member : leaf ∈ n.leaves) (deep : 1 < leaf.quoteDepth) :
    rules.nestedQuotes = .keep := by
  obtain ⟨path, m, drawn⟩ := exists_draws member
  obtain ⟨quote, ⟨a, attached, kind⟩, admitted⟩ := InQuotes.of_nested reduced drawn deep
  have keeps := admitted.attachment a attached
  rw [kind] at keeps
  exact keeps

end Node

theorem QuotePolicy.not_admits_default (kind : Attachment.Kind) : ¬ QuotePolicy.Admits { } kind := by
  cases kind <;> exact nofun

/-! ## The statement -/

theorem Document.render_reduced (rules : QuotePolicy) (span : Span) (maxDepth : Nat) :
    (∀ quote ∈ (render span ⟨some rules, maxDepth⟩).nodes, quote.IsQuote →
      ∀ n ∈ quote.innerNodes, n.Reduced rules) ∧
    (∀ base enclosing, Tag.quote ∈ enclosing →
      ∀ n ∈ (({ strategy := base, quoteStrategy := some (.quoted rules), maxDepth } :
        Engine).renderIn span enclosing).nodes, n.Reduced rules) ∧
    (∀ leaf ∈ (render span ⟨some rules, maxDepth⟩).leaves, 1 < leaf.quoteDepth →
      rules.nestedQuotes = .keep) ∧
    ∀ leaf ∈ (render span { maxDepth }).leaves, 1 ≤ leaf.quoteDepth →
      ∃ s, leaf.content = .text s := by
  have reduced (rules : QuotePolicy) :
      (render span ⟨some rules, maxDepth⟩).QuotesReduced rules := by
    rw [render_eq]
    exact quotesReduced_render rules maxDepth maxDepth [] span
  refine ⟨reduced rules, ?_, ?_, ?_⟩
  · intro base enclosing inside
    rw [Engine.renderIn_eq]
    exact Engine.allReduced_render base rules maxDepth inside maxDepth span
  · exact fun leaf member deep => (reduced rules).nested member deep
  · intro leaf member deep
    cases content : leaf.content with
    | text s => exact ⟨s, rfl⟩
    | attachment a =>
        have admitted := (reduced { }).admits member deep content
        exact absurd admitted (QuotePolicy.not_admits_default a.kind)

end RichText
