import RichText.Proofs.Rendering.Shape
import RichText.Proofs.Rendering.Takeover

/-!
# Inside quotes

All that is inside a quote of a rendered document was made by the quote strategy. Main statement
(`inQuotes_render`): a property that this strategy gives to every node holds of all that is inside
quotes. So it holds of the nodes whose leaves have a quote around them (`InQuotes.of_draws`).
-/
namespace RichText

namespace Node

/-- All that is inside a quote of a tree has a property. -/
def InQuotes (P : Node → Prop) (n : Node) : Prop :=
  ∀ quote ∈ n.nodes, quote.IsQuote → ∀ m ∈ quote.innerNodes, P m

theorem inQuotes_of_forall {P : Node → Prop} {n : Node} (all : ∀ m ∈ n.nodes, P m) :
    n.InQuotes P :=
  fun _ inside _ m under => all m (mem_nodes_of_inner inside under)

theorem inQuotes_text {P : Node → Prop} (s : String) (own : Style) : (text s own none).InQuotes P :=
  forall_mem_nodes_text fun isQuote => absurd isQuote (not_isQuote_bare rfl)

/-- The same of a node with tags around it: if one of them is a quote, all of the node is inside.
The content of a quote is rendered so, and all of it has the property when the quote is built. -/
structure InQuotesAmong (P : Node → Prop) (enclosing : List Tag) (n : Node) : Prop where
  below : n.InQuotes P
  whole : Tag.quote ∈ enclosing → ∀ m ∈ n.nodes, P m

theorem inQuotesAmong_of_forall {P : Node → Prop} {enclosing : List Tag} {n : Node}
    (all : ∀ m ∈ n.nodes, P m) : n.InQuotesAmong P enclosing :=
  ⟨inQuotes_of_forall all, fun _ => all⟩

theorem InQuotes.among {P : Node → Prop} {enclosing : List Tag} {n : Node} (below : n.InQuotes P)
    (outside : Tag.quote ∉ enclosing) : n.InQuotesAmong P enclosing :=
  ⟨below, fun inside => absurd inside outside⟩

/-! ## Leaves inside quotes -/

section
variable {root n : Node} {path : List Nat} {P : Node → Prop} {leaf : Leaf}

theorem InQuotes.of_draws (all : root.InQuotes P) (drawn : root.Draws path n leaf)
    (deep : 0 < leaf.quoteDepth) : P n := by
  rw [drawn.quoteDepth, List.countP_pos_iff] at deep
  obtain ⟨quote, above, isQuote⟩ := deep
  have leads := drawn.seen.leads
  have inside := mem_nodes_of_leads leads quote (List.mem_append_left _ above)
  have under := (List.pairwise_append.mp (pairwise_innerNodes leads)).2.2 quote above n
    (List.mem_singleton.mpr rfl)
  exact all quote inside (of_decide_eq_true isQuote) n under

theorem InQuotes.of_nested (all : root.InQuotes P) (drawn : root.Draws path n leaf)
    (deep : 1 < leaf.quoteDepth) : ∃ m, m.IsQuote ∧ P m := by
  rw [drawn.quoteDepth, List.countP_eq_length_filter] at deep
  have leads := drawn.seen.leads
  have chain := (List.pairwise_append.mp (pairwise_innerNodes leads)).1.filter (·.IsQuote)
  have above {m : Node} (member : m ∈ (root.ancestors path).filter (·.IsQuote)) :
      m ∈ root.nodes ∧ m.IsQuote := by
    obtain ⟨member, isQuote⟩ := List.mem_filter.mp member
    exact ⟨mem_nodes_of_leads leads m (List.mem_append_left _ member), of_decide_eq_true isQuote⟩
  cases quotes : (root.ancestors path).filter (·.IsQuote) with
  | nil =>
      rw [quotes] at deep
      exact absurd deep (Nat.not_lt_zero 1)
  | cons outer rest =>
      rw [quotes] at deep chain above
      cases rest with
      | nil => exact absurd deep (Nat.lt_irrefl 1)
      | cons inner others =>
          obtain ⟨inside, isQuote⟩ := above List.mem_cons_self
          have second : inner ∈ outer :: inner :: others := by simp
          have under := List.rel_of_pairwise_cons chain List.mem_cons_self
          exact ⟨inner, (above second).2, all outer inside isQuote inner under⟩

end

end Node

open Node

/-! ## Steps -/

variable {P : Node → Prop}

/-- A quote comes about only around the content of a span with that tag. -/
theorem Strategy.inQuotes_of_makes {policy : Option QuotePolicy} {c : Context}
    {children : List Node} {n : Node} (made : Makes policy c children n)
    (content : ∀ m ∈ children, m.InQuotes P)
    (inside : c.tag = some .quote → ∀ m ∈ children, ∀ l ∈ m.nodes, P l) : n.InQuotes P := by
  refine made.forall_nodes content ?_ ?_ ?_ ?_
  · exact fun m bare _ _ isQuote => absurd isQuote (not_isQuote_bare bare)
  · exact fun p _ isQuote => absurd isQuote (not_isQuote_bare rfl)
  · exact fun rules kind name _ isQuote => absurd isQuote (not_isQuote_bare rfl)
  · rintro ns a attaches ⟨b, ⟨⟩, isQuote⟩ m under
    obtain ⟨child, member, below⟩ := mem_nodesOfAll.mp under
    cases attaches with
    | image | file => exact absurd member List.not_mem_nil
    | button => cases isQuote
    | quote isTag => exact inside isTag child member m below

/-! ## Runs -/

theorem Document.inQuotes_render {rules : QuotePolicy} {Q : Nat → Span → Prop}
    (down : ∀ limit span, Q (limit + 1) span → ∀ child ∈ span.children, Q limit child)
    (flat : ∀ span, Q 0 span → P (.ofText span.flatText))
    (text : ∀ s enclosing, P ((Strategy.quoted rules).text s enclosing))
    (node : ∀ c children, (∀ m ∈ children, ∀ l ∈ m.nodes, P l) →
      ∀ l ∈ ((Strategy.quoted rules).node c children).nodes, P l)
    (maxDepth limit : Nat) (enclosing : List Tag) {span : Span} (known : Q limit span) :
    ((engine ⟨some rules, maxDepth⟩).render limit enclosing span).InQuotes P := by
  have strategyInside {enclosing : List Tag} (inside : Tag.quote ∈ enclosing) :
      (engine ⟨some rules, maxDepth⟩).strategyFor enclosing = .quoted rules :=
    Engine.strategyFor_inside .full (.quoted rules) maxDepth inside
  have strategyOutside {enclosing : List Tag} (outside : Tag.quote ∉ enclosing) :
      (engine ⟨some rules, maxDepth⟩).strategyFor enclosing = .full :=
    Engine.strategyFor_outside .full (.quoted rules) maxDepth outside
  have run : ((engine ⟨some rules, maxDepth⟩).render limit enclosing span).InQuotesAmong P
      enclosing := by
    refine Engine.render_induction_along (P := fun enclosing n => n.InQuotesAmong P enclosing)
      down ?_ ?_ ?_ limit enclosing known
    · intro enclosing span known
      exact inQuotesAmong_of_forall (forall_mem_nodes_text (flat span known))
    · intro enclosing s
      by_cases inside : Tag.quote ∈ enclosing
      · rw [strategyInside inside]
        exact inQuotesAmong_of_forall (forall_mem_nodes_text (text s enclosing))
      · rw [strategyOutside inside]
        exact (inQuotes_text s .empty).among inside
    · intro limit span enclosing children _ content
      by_cases inside : Tag.quote ∈ enclosing
      · rw [strategyInside inside]
        refine inQuotesAmong_of_forall (node _ children fun m member => ?_)
        exact (content m member).whole (List.mem_append_left _ inside)
      · rw [strategyOutside inside]
        refine InQuotes.among ?_ inside
        refine Strategy.inQuotes_of_makes (P := P) (Strategy.makes_node none _ children) ?_ ?_
        · exact fun m member => (content m member).below
        · intro isTag m member
          refine (content m member).whole (List.mem_append_right _ ?_)
          exact Option.mem_toList.mpr isTag
  exact run.below

end RichText
