import Mathlib.Data.List.Forall2
import RichText.Proofs.Node.Paths

/-!
# Where leaves come from

The leaves of a tree, which are gathered on a walk that carries the style and the quotes so far, read
off the paths of the tree. Main statement (`leaves_leafPaths`): the nodes that are seen and have
something to show give one leaf each, in the order of their paths. Its style has of every kind the
property of the nearest node that sets one, and its depth counts the quotes around the node.
-/
namespace RichText.Node

/-- What a node shows itself: its attachment, or else its text, unless that is empty. -/
def shown? (n : Node) : Option Leaf.Content :=
  match n.attachment with
  | some a => some (.attachment a)
  | none => (n.content?.filter fun s => !s.isEmpty).map .text

theorem isSome_shown? {n : Node} :
    n.shown?.isSome ↔
      n.attachment.isSome ∨ n.attachment = none ∧ ∃ s, n.content? = some s ∧ s ≠ "" := by
  unfold shown?
  cases n.attachment with
  | some a => simp
  | none => simp [Option.isSome_filter, Option.any_eq_true]

theorem shown?_eq_attachment {n : Node} {a : Attachment} :
    n.shown? = some (.attachment a) ↔ n.attachment = some a := by
  unfold shown?
  cases n.attachment with
  | some b => simp
  | none => simp

theorem shown?_eq_text {n : Node} {s : String} :
    n.shown? = some (.text s) ↔ n.attachment = none ∧ n.content? = some s ∧ s ≠ "" := by
  unfold shown?
  cases n.attachment with
  | some a => simp
  | none => simp [Option.filter_eq_some_iff]

/-- The property of a kind that the last of the nodes sets, of those that set one. -/
def nearest? (k : Style.Key) (ns : List Node) : Option Style.Property :=
  ns.reverse.findSome? (·.style.get? k)

theorem nearest?_append (k : Style.Key) (ns ms : List Node) :
    nearest? k (ns ++ ms) = (nearest? k ms).or (nearest? k ns) := by
  rw [nearest?, List.reverse_append, List.findSome?_append, nearest?, nearest?]

theorem nearest?_singleton (k : Style.Key) (n : Node) : nearest? k [n] = n.style.get? k := by
  rw [nearest?, List.reverse_singleton, List.findSome?_singleton]

theorem nearest?_cons (k : Style.Key) (n : Node) (ns : List Node) :
    nearest? k (n :: ns) = (nearest? k ns).or (n.style.get? k) := by
  rw [← List.singleton_append, nearest?_append, nearest?_singleton]

theorem nearest?_ancestors_cons {root child n : Node} {i : Nat}
    (place : root.children[i]? = some child) (k : Style.Key) (path : List Nat) :
    nearest? k (root.ancestors (i :: path) ++ [n]) =
      (nearest? k (child.ancestors path ++ [n])).or (root.style.get? k) := by
  rw [ancestors_cons place, List.cons_append, nearest?_cons]

structure Draws (root : Node) (path : List Nat) (n : Node) (leaf : Leaf) : Prop where
  seen : root.Seen path n
  content : n.shown? = some leaf.content
  style : ∀ k, leaf.style.get? k = nearest? k (root.ancestors path ++ [n])
  quoteDepth : leaf.quoteDepth = (root.ancestors path).countP (·.IsQuote)

mutual

/-- The paths to the nodes that give leaves, in the order of the leaves. -/
def leafPaths : Node → List (List Nat)
  | text s own a => (text s own a).shown?.toList.map fun _ => []
  | container ns own a =>
    ((container ns own a).shown?.toList.map fun _ => []) ++
      if hides a then [] else leafPathsFrom 0 ns

def leafPathsFrom (place : Nat) : List Node → List (List Nat)
  | [] => []
  | n :: rest => n.leafPaths.map (place :: ·) ++ leafPathsFrom (place + 1) rest

end

/-! ## The walk, one node at a time -/

theorem leafPaths_eq (n : Node) :
    n.leafPaths = (n.shown?.toList.map fun _ => []) ++
      if hides n.attachment then [] else leafPathsFrom 0 n.children := by
  cases n with
  | text s own a =>
      rw [leafPaths, children, leafPathsFrom, ite_self, List.append_nil]
  | container ns own a =>
      rw [leafPaths]
      rfl

theorem leavesIn_eq (n : Node) (style : Style) (depth : Nat) :
    n.leavesIn style depth =
      (n.shown?.toList.map fun content => ⟨content, style.merge n.style, depth⟩) ++
        if hides n.attachment then []
        else n.children.flatMap
          (leavesIn (style.merge n.style) (depth + if n.IsQuote then 1 else 0)) := by
  cases n with
  | text s own a =>
      rw [children, List.flatMap_nil, ite_self, List.append_nil]
      cases a with
      | none =>
          simp only [leavesIn, shown?, attachment, content?, Option.filter_some]
          cases s.isEmpty <;> rfl
      | some a => rw [leavesIn]; rfl
  | container ns own a =>
      cases a with
      | none =>
          have plain : ¬ (container ns own none).IsQuote := not_isQuote_bare rfl
          rw [leavesIn, leavesOfAll_eq_flatMap, if_neg plain]
          rfl
      | some a =>
          rw [leavesIn, leavesOfAll_eq_flatMap]
          by_cases isQuote : a.kind = .quote
          · have quote : (container ns own (some a)).IsQuote := ⟨a, rfl, isQuote⟩
            simp [shown?, attachment, hides, isQuote, quote, children, Node.style]
          · simp [shown?, attachment, hides, isQuote, Node.style]

/-! ## The paths -/

theorem mem_leafPathsFrom {ns : List Node} {place : Nat} {path : List Nat} :
    path ∈ leafPathsFrom place ns ↔
      ∃ i child rest, ns[i]? = some child ∧ rest ∈ child.leafPaths ∧ path = (place + i) :: rest := by
  induction ns generalizing place with
  | nil => simp [leafPathsFrom]
  | cons n ns ih =>
      rw [leafPathsFrom, List.mem_append, List.mem_map, ih]
      constructor
      · rintro (⟨rest, inside, rfl⟩ | ⟨i, child, rest, at_i, inside, rfl⟩)
        · exact ⟨0, n, rest, rfl, inside, rfl⟩
        · exact ⟨i + 1, child, rest, at_i, inside, by rw [Nat.add_assoc, Nat.add_comm 1]⟩
      · rintro ⟨i, child, rest, at_i, inside, rfl⟩
        cases i with
        | zero =>
            cases at_i
            exact .inl ⟨rest, inside, rfl⟩
        | succ i => exact .inr ⟨i, child, rest, at_i, inside, by rw [Nat.add_assoc, Nat.add_comm 1]⟩

theorem nil_mem_leafPaths {n : Node} : [] ∈ n.leafPaths ↔ n.shown?.isSome := by
  have deeper : [] ∉ if hides n.attachment then [] else leafPathsFrom 0 n.children := by
    split
    · exact List.not_mem_nil
    · intro member
      obtain ⟨i, child, rest, -, -, contra⟩ := mem_leafPathsFrom.mp member
      cases contra
  rw [leafPaths_eq, List.mem_append, or_iff_left deeper]
  cases n.shown? <;> simp

theorem cons_mem_leafPaths {n : Node} {i : Nat} {path : List Nat} :
    i :: path ∈ n.leafPaths ↔
      hides n.attachment = false ∧ ∃ child, n.children[i]? = some child ∧ path ∈ child.leafPaths := by
  have here : i :: path ∉ n.shown?.toList.map fun _ => [] := by cases n.shown? <;> simp
  rw [leafPaths_eq, List.mem_append, or_iff_right here]
  cases hides n.attachment with
  | true => simp
  | false =>
      rw [if_neg Bool.false_ne_true, mem_leafPathsFrom]
      simp only [Nat.zero_add, List.cons.injEq, true_and]
      constructor
      · rintro ⟨_, child, _, place, inside, rfl, rfl⟩
        exact ⟨child, place, inside⟩
      · rintro ⟨child, place, inside⟩
        exact ⟨i, child, path, place, inside, rfl, rfl⟩

theorem mem_leafPaths {root : Node} {path : List Nat} :
    path ∈ root.leafPaths ↔ ∃ n, root.Seen path n ∧ n.shown?.isSome := by
  induction path generalizing root with
  | nil =>
      simp only [nil_mem_leafPaths, seen_nil, exists_eq_left]
  | cons i path ih =>
      rw [cons_mem_leafPaths]
      simp only [ih, seen_cons]
      constructor
      · rintro ⟨shown, child, place, n, seen, shows⟩
        exact ⟨n, ⟨shown, child, place, seen⟩, shows⟩
      · rintro ⟨n, ⟨shown, child, place, seen⟩, shows⟩
        exact ⟨shown, child, place, n, seen, shows⟩

theorem pairwise_leafPathsFrom {ns : List Node} (place : Nat)
    (each : ∀ n ∈ ns, n.leafPaths.Pairwise (· < ·)) :
    (leafPathsFrom place ns).Pairwise (· < ·) := by
  induction ns generalizing place with
  | nil => exact .nil
  | cons n ns ih =>
      obtain ⟨first, others⟩ := List.forall_mem_cons.mp each
      rw [leafPathsFrom, List.pairwise_append]
      refine ⟨?_, ih (place + 1) others, ?_⟩
      · refine List.pairwise_map.mpr (first.imp fun less => ?_)
        exact List.cons_lt_cons_iff.mpr (.inr ⟨rfl, less⟩)
      · intro path before path' after
        obtain ⟨rest, -, rfl⟩ := List.mem_map.mp before
        obtain ⟨i, child, rest', -, -, rfl⟩ := mem_leafPathsFrom.mp after
        exact List.cons_lt_cons_iff.mpr (.inl (by omega))

theorem pairwise_leafPaths (n : Node) : n.leafPaths.Pairwise (· < ·) := by
  induction n using Node.induction with
  | step n ih =>
      rw [leafPaths_eq, List.pairwise_append]
      refine ⟨by cases n.shown? <;> simp, ?_, ?_⟩
      · split
        · exact .nil
        · exact pairwise_leafPathsFrom 0 ih
      · intro path here path' deeper
        obtain ⟨_, -, rfl⟩ := List.mem_map.mp here
        split at deeper
        · cases deeper
        · obtain ⟨i, child, rest, -, -, rfl⟩ := mem_leafPathsFrom.mp deeper
          exact List.nil_lt_cons _ _

/-! ## The leaves -/

/-- The leaf of the node at the end of a path, for a walk that comes with a style and quotes. -/
structure DrawsIn (inherited : Style) (depth : Nat) (root : Node) (path : List Nat) (n : Node)
    (leaf : Leaf) : Prop where
  seen : root.Seen path n
  content : n.shown? = some leaf.content
  style : ∀ k, leaf.style.get? k =
    (nearest? k (root.ancestors path ++ [n])).or (inherited.get? k)
  quoteDepth : leaf.quoteDepth = depth + (root.ancestors path).countP (·.IsQuote)

theorem DrawsIn.draws {root n : Node} {path : List Nat} {leaf : Leaf}
    (drawn : root.DrawsIn .empty 0 path n leaf) : root.Draws path n leaf where
  seen := drawn.seen
  content := drawn.content
  style k := by rw [drawn.style, Style.get?_empty, Option.or_none]
  quoteDepth := by rw [drawn.quoteDepth, Nat.zero_add]

theorem drawsIn_nil {n : Node} {content : Leaf.Content} (shows : n.shown? = some content)
    (inherited : Style) (depth : Nat) :
    n.DrawsIn inherited depth [] n ⟨content, inherited.merge n.style, depth⟩ where
  seen := seen_nil.mpr rfl
  content := shows
  style k := by
    rw [ancestors, List.nil_append, nearest?_singleton, Style.get?_merge, Option.orElse_eq_orElse,
      Option.orElse_eq_or]
  quoteDepth := rfl

/-- The walk goes on below a node with the style of the node laid over what it came with. -/
theorem drawsIn_cons {root child n : Node} {i : Nat} {path : List Nat} {leaf : Leaf}
    {inherited : Style} {depth : Nat} (shown : hides root.attachment = false)
    (place : root.children[i]? = some child)
    (drawn : child.DrawsIn (inherited.merge root.style) (depth + if root.IsQuote then 1 else 0)
      path n leaf) : root.DrawsIn inherited depth (i :: path) n leaf where
  seen := seen_cons.mpr ⟨shown, child, place, drawn.seen⟩
  content := drawn.content
  style k := by
    rw [drawn.style, Style.get?_merge, Option.orElse_eq_orElse, Option.orElse_eq_or,
      nearest?_ancestors_cons place, Option.or_assoc]
  quoteDepth := by
    rw [drawn.quoteDepth, ancestors_cons place, List.countP_cons]
    simp only [decide_eq_true_eq]
    omega

theorem forall₂_leafPathsFrom {R : List Nat → Leaf → Prop} {f : Node → List Leaf} {ns : List Node}
    {place : Nat} (each : ∀ i child, ns[i]? = some child →
      List.Forall₂ (fun path leaf => R ((place + i) :: path) leaf) child.leafPaths (f child)) :
    List.Forall₂ R (leafPathsFrom place ns) (ns.flatMap f) := by
  induction ns generalizing place with
  | nil => exact .nil
  | cons n ns ih =>
      rw [leafPathsFrom, List.flatMap_cons]
      refine List.rel_append (List.forall₂_map_left_iff.mpr (each 0 n rfl)) (ih fun i child at_i => ?_)
      have next := each (i + 1) child at_i
      rwa [← Nat.add_assoc, Nat.add_right_comm] at next

theorem forall₂_leavesIn (n : Node) (inherited : Style) (depth : Nat) :
    List.Forall₂ (fun path leaf => ∃ m, n.DrawsIn inherited depth path m leaf) n.leafPaths
      (n.leavesIn inherited depth) := by
  induction n using Node.induction generalizing inherited depth with
  | step n ih =>
      rw [leafPaths_eq, leavesIn_eq]
      apply List.rel_append
      · cases shows : n.shown? with
        | none => exact .nil
        | some content => exact .cons ⟨n, drawsIn_nil shows inherited depth⟩ .nil
      · cases shown : hides n.attachment with
        | true => exact .nil
        | false =>
            apply forall₂_leafPathsFrom
            intro i child place
            refine (ih child (List.mem_of_getElem? place) _ _).imp fun path leaf ⟨m, drawn⟩ => ?_
            rw [Nat.zero_add]
            exact ⟨m, drawsIn_cons shown place drawn⟩

theorem forall₂_leaves (root : Node) :
    List.Forall₂ (fun path leaf => ∃ n, root.Draws path n leaf) root.leafPaths root.leaves :=
  (forall₂_leavesIn root .empty 0).imp fun _ _ ⟨n, drawn⟩ => ⟨n, drawn.draws⟩

theorem exists_related {α β : Type} {R : α → β → Prop} {xs : List α} {ys : List β}
    (each : List.Forall₂ R xs ys) :
    (∀ x ∈ xs, ∃ y ∈ ys, R x y) ∧ ∀ y ∈ ys, ∃ x ∈ xs, R x y := by
  induction each with
  | nil => exact ⟨nofun, nofun⟩
  | cons first _ ih =>
      simp only [List.forall_mem_cons, List.exists_mem_cons_iff]
      exact ⟨⟨.inl first, fun x inside => .inr (ih.1 x inside)⟩,
        .inl first, fun y inside => .inr (ih.2 y inside)⟩

/-- A node that is seen gives a leaf if it has something to show. -/
theorem exists_leaf {root n : Node} {path : List Nat} (seen : root.Seen path n)
    (shows : n.shown?.isSome) : ∃ leaf ∈ root.leaves, root.Draws path n leaf := by
  have inside : path ∈ root.leafPaths := mem_leafPaths.mpr ⟨n, seen, shows⟩
  obtain ⟨leaf, member, m, drawn⟩ := (exists_related (forall₂_leaves root)).1 path inside
  obtain rfl : m = n := Option.some.inj (drawn.seen.leads.symm.trans seen.leads)
  exact ⟨leaf, member, drawn⟩

theorem exists_draws {root : Node} {leaf : Leaf} (member : leaf ∈ root.leaves) :
    ∃ path n, root.Draws path n leaf := by
  obtain ⟨path, -, n, drawn⟩ := (exists_related (forall₂_leaves root)).2 leaf member
  exact ⟨path, n, drawn⟩

/-! ## The statement -/

theorem leaves_leafPaths (root : Node) :
    root.leafPaths.Pairwise (· < ·) ∧
      (∀ path, path ∈ root.leafPaths ↔ ∃ n, root.Seen path n ∧
        (n.attachment.isSome ∨ n.attachment = none ∧ ∃ s, n.content? = some s ∧ s ≠ "")) ∧
      List.Forall₂ (fun path leaf => ∃ n, root.Draws path n leaf) root.leafPaths root.leaves := by
  refine ⟨pairwise_leafPaths root, fun path => ?_, forall₂_leaves root⟩
  simp only [mem_leafPaths, isSome_shown?]

end RichText.Node
