import RichText.Node.Basic

/-!
# Nodes of a tree

All nodes of a tree, and those below its root, hidden ones included.
-/
namespace RichText.Node

mutual

/-- The nodes of a tree, each before those below it, hidden ones included. -/
def nodes : Node → List Node
  | text s own a => [text s own a]
  | container ns own a => container ns own a :: nodesOfAll ns

def nodesOfAll : List Node → List Node
  | [] => []
  | n :: rest => n.nodes ++ nodesOfAll rest

end

theorem mem_nodesOfAll {m : Node} {ns : List Node} :
    m ∈ nodesOfAll ns ↔ ∃ n ∈ ns, m ∈ n.nodes := by
  induction ns with
  | nil => simp [nodesOfAll]
  | cons n rest ih => simp [nodesOfAll, ih]

theorem mem_nodes_container {m : Node} {ns : List Node} {own : Style} {a : Option Attachment} :
    m ∈ (container ns own a).nodes ↔ m = container ns own a ∨ ∃ n ∈ ns, m ∈ n.nodes := by
  rw [nodes, List.mem_cons, mem_nodesOfAll]

theorem mem_nodes_text {m : Node} {s : String} {own : Style} {a : Option Attachment} :
    m ∈ (text s own a).nodes ↔ m = text s own a := by
  rw [nodes, List.mem_singleton]

theorem mem_nodes {m n : Node} : m ∈ n.nodes ↔ m = n ∨ ∃ child ∈ n.children, m ∈ child.nodes := by
  cases n with
  | text s own a => simp [mem_nodes_text, children]
  | container ns own a => exact mem_nodes_container

theorem self_mem_nodes (n : Node) : n ∈ n.nodes := mem_nodes.mpr (.inl rfl)

theorem mem_nodes_of_child {m child n : Node} (below : child ∈ n.children)
    (inside : m ∈ child.nodes) : m ∈ n.nodes := mem_nodes.mpr (.inr ⟨child, below, inside⟩)

theorem forall_mem_nodes_container {P : Node → Prop} {ns : List Node} {own : Style}
    {a : Option Attachment} (self : P (container ns own a))
    (below : ∀ n ∈ ns, ∀ m ∈ n.nodes, P m) : ∀ m ∈ (container ns own a).nodes, P m := by
  intro m member
  rcases mem_nodes_container.mp member with rfl | ⟨n, inside, member⟩
  · exact self
  · exact below n inside m member

theorem forall_mem_nodes_text {P : Node → Prop} {s : String} {own : Style} {a : Option Attachment}
    (self : P (text s own a)) : ∀ m ∈ (text s own a).nodes, P m := by
  intro m member
  rw [mem_nodes_text] at member
  subst member
  exact self

def innerNodes (n : Node) : List Node := nodesOfAll n.children

theorem mem_innerNodes {n child m : Node} (below : child ∈ n.children) (inside : m ∈ child.nodes) :
    m ∈ n.innerNodes :=
  mem_nodesOfAll.mpr ⟨child, below, inside⟩

theorem mem_nodes_of_inner {n inner m : Node} (inside : inner ∈ n.nodes)
    (under : m ∈ inner.innerNodes) : m ∈ n.nodes := by
  induction n using Node.induction with
  | step n ih =>
      rw [mem_nodes] at inside ⊢
      right
      rcases inside with rfl | ⟨child, below, inside⟩
      · exact mem_nodesOfAll.mp under
      · exact ⟨child, below, ih child below inside⟩

def IsQuote (n : Node) : Prop := ∃ a, n.attachment = some a ∧ a.kind = .quote

instance : DecidablePred IsQuote := fun n =>
  decidable_of_iff (n.attachment.any (·.kind == .quote)) (by simp [IsQuote, Option.any_eq_true])

theorem not_isQuote_bare {n : Node} (bare : n.attachment = none) : ¬ n.IsQuote := by
  rintro ⟨a, has, -⟩
  rw [bare] at has
  cases has

end RichText.Node
