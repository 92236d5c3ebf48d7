import RichText.Node.Leaves
import RichText.Proofs.Node.Nodes

/-!
# Paths in a tree of nodes

A path leads down from the root of a tree, by the place of a child at every level. The node at its
end is seen if no attachment on the way hides what is below it.
-/
namespace RichText.Node

def follow? (n : Node) : List Nat → Option Node
  | [] => some n
  | i :: path => n.children[i]?.bind fun child => child.follow? path

/-- The nodes that a path goes through, the outermost first, without the one at its end. -/
def ancestors (n : Node) : List Nat → List Node
  | [] => []
  | i :: path => n :: n.children[i]?.elim [] fun child => child.ancestors path

/-- A path leads to a node, and nothing above hides it. -/
structure Seen (root : Node) (path : List Nat) (n : Node) : Prop where
  leads : root.follow? path = some n
  shown : ∀ m ∈ root.ancestors path, hides m.attachment = false

theorem follow?_cons_eq_some {root n : Node} {i : Nat} {path : List Nat} :
    root.follow? (i :: path) = some n ↔
      ∃ child, root.children[i]? = some child ∧ child.follow? path = some n := by
  rw [follow?, Option.bind_eq_some_iff]

theorem ancestors_cons {root child : Node} {i : Nat} (place : root.children[i]? = some child)
    (path : List Nat) : root.ancestors (i :: path) = root :: child.ancestors path := by
  rw [ancestors, place, Option.elim_some]

theorem seen_nil {root n : Node} : root.Seen [] n ↔ n = root := by
  constructor
  · rintro ⟨⟨⟩, -⟩
    rfl
  · rintro rfl
    exact ⟨rfl, nofun⟩

theorem seen_cons {root n : Node} {i : Nat} {path : List Nat} :
    root.Seen (i :: path) n ↔
      hides root.attachment = false ∧ ∃ child, root.children[i]? = some child ∧ child.Seen path n := by
  constructor
  · rintro ⟨leads, shown⟩
    obtain ⟨child, place, leads⟩ := follow?_cons_eq_some.mp leads
    rw [ancestors_cons place, List.forall_mem_cons] at shown
    exact ⟨shown.1, child, place, leads, shown.2⟩
  · rintro ⟨shown, child, place, leads, below⟩
    refine ⟨follow?_cons_eq_some.mpr ⟨child, place, leads⟩, ?_⟩
    rw [ancestors_cons place, List.forall_mem_cons]
    exact ⟨shown, below⟩

/-- Below a node that hides its content nothing is seen. -/
theorem forall_seen {P : Node → Prop} {root : Node} :
    (∀ path n, root.Seen path n → P n) ↔
      P root ∧ (hides root.attachment = false →
        ∀ child ∈ root.children, ∀ path n, child.Seen path n → P n) := by
  constructor
  · intro all
    refine ⟨all [] root (seen_nil.mpr rfl), fun shown child below path n seen => ?_⟩
    obtain ⟨i, place⟩ := List.getElem?_of_mem below
    exact all (i :: path) n (seen_cons.mpr ⟨shown, child, place, seen⟩)
  · rintro ⟨own, inner⟩ path n seen
    cases path with
    | nil =>
        rw [seen_nil.mp seen]
        exact own
    | cons i path =>
        obtain ⟨shown, child, place, seen⟩ := seen_cons.mp seen
        exact inner shown child (List.mem_of_getElem? place) path n seen

variable {root n : Node} {path : List Nat}

theorem follow?_append (leads : root.follow? path = some n) (rest : List Nat) :
    root.follow? (path ++ rest) = n.follow? rest := by
  induction path generalizing root with
  | nil =>
      cases leads
      rfl
  | cons i path ih =>
      obtain ⟨child, place, leads⟩ := follow?_cons_eq_some.mp leads
      rw [List.cons_append, follow?, place, Option.bind_some]
      exact ih leads

theorem ancestors_append (leads : root.follow? path = some n) (rest : List Nat) :
    root.ancestors (path ++ rest) = root.ancestors path ++ n.ancestors rest := by
  induction path generalizing root with
  | nil =>
      cases leads
      rfl
  | cons i path ih =>
      obtain ⟨child, place, leads⟩ := follow?_cons_eq_some.mp leads
      rw [List.cons_append, ancestors_cons place, ancestors_cons place, ih leads, List.cons_append]

theorem Seen.append {m : Node} {rest : List Nat} (above : root.Seen path n) (below : n.Seen rest m) :
    root.Seen (path ++ rest) m := by
  refine ⟨(follow?_append above.leads rest).trans below.leads, ?_⟩
  rw [ancestors_append above.leads, List.forall_mem_append]
  exact ⟨above.shown, below.shown⟩

/-! ## The nodes on a path -/

theorem mem_nodes_of_leads (leads : root.follow? path = some n) :
    ∀ m ∈ root.ancestors path ++ [n], m ∈ root.nodes := by
  induction path generalizing root with
  | nil =>
      cases leads
      rw [ancestors, List.nil_append, List.forall_mem_singleton]
      exact n.self_mem_nodes
  | cons i path ih =>
      obtain ⟨child, place, leads⟩ := follow?_cons_eq_some.mp leads
      rw [ancestors_cons place, List.cons_append, List.forall_mem_cons]
      refine ⟨root.self_mem_nodes, fun m member => ?_⟩
      exact mem_nodes_of_child (List.mem_of_getElem? place) (ih leads m member)

/-- Of two nodes on a path the later one is inside the other. -/
theorem pairwise_innerNodes (leads : root.follow? path = some n) :
    (root.ancestors path ++ [n]).Pairwise fun outer inner => inner ∈ outer.innerNodes := by
  induction path generalizing root with
  | nil => exact List.pairwise_singleton _ _
  | cons i path ih =>
      obtain ⟨child, place, leads⟩ := follow?_cons_eq_some.mp leads
      rw [ancestors_cons place, List.cons_append, List.pairwise_cons]
      refine ⟨fun m member => ?_, ih leads⟩
      exact mem_innerNodes (List.mem_of_getElem? place) (mem_nodes_of_leads leads m member)

end RichText.Node
