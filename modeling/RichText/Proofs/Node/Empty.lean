import RichText.Proofs.Node.PlainText

/-!
# Empty nodes

A node is empty when nothing in its tree has an attachment or a text (`isEmpty_iff_forall_nodes`).
Main statement (`isEmpty_iff_leaves`): these are the nodes without leaves, and they have no text.
-/
namespace RichText.Node

theorem shown?_eq_none {n : Node} : n.shown? = none ↔ n.attachment = none ∧ n.ownText = "" := by
  unfold shown? ownText
  cases n.attachment with
  | some a => simp
  | none => cases n.content? <;> simp [Option.filter_some]

theorem isEmpty_iff {n : Node} :
    n.isEmpty ↔ n.shown? = none ∧ ∀ child ∈ n.children, child.isEmpty := by
  rw [isEmpty_eq, shown?_eq_none, ownText, Bool.and_eq_true, Bool.and_eq_true, List.all_eq_true,
    Option.isNone_iff_eq_none]
  refine and_congr_left fun _ => and_congr_right fun _ => ?_
  cases n.content? <;> simp

theorem isEmpty_iff_forall_nodes {n : Node} : n.isEmpty ↔ ∀ m ∈ n.nodes, m.shown? = none := by
  induction n using Node.induction with
  | step n ih =>
      rw [isEmpty_iff]
      constructor
      · rintro ⟨nothing, below⟩ m inside
        rcases mem_nodes.mp inside with rfl | ⟨child, member, inside⟩
        · exact nothing
        · exact (ih child member).mp (below child member) m inside
      · intro all
        refine ⟨all n n.self_mem_nodes, fun child member => (ih child member).mpr ?_⟩
        exact fun m inside => all m (mem_nodes_of_child member inside)

/-- Whatever a walk comes with, it finds no leaf in an empty node and one in any other. -/
theorem leavesIn_eq_nil {n : Node} {style : Style} {depth : Nat} :
    n.leavesIn style depth = [] ↔ n.isEmpty := by
  induction n using Node.induction generalizing style depth with
  | step n ih =>
      rw [isEmpty_iff, leavesIn_eq, List.append_eq_nil_iff, List.map_eq_nil_iff,
        Option.toList_eq_nil_iff]
      refine and_congr_right fun nothing => ?_
      -- An attachment would be shown, so the content is not hidden.
      have shown : hides n.attachment = false := by
        rw [(shown?_eq_none.mp nothing).1]
        rfl
      rw [shown, if_neg Bool.false_ne_true, List.flatMap_eq_nil_iff]
      exact forall₂_congr fun child below => ih child below

theorem innerText_of_isEmpty {n : Node} (empty : n.isEmpty) : n.innerText = "" := by
  -- No text of an empty node carries the bar of a quote, so its text is that of its leaves.
  have plain : ∀ path m, n.Seen path m → ¬ m.QuotedText := by
    intro path m seen quoted
    have inside := mem_nodes_of_leads seen.leads m (List.mem_append_right _ List.mem_cons_self)
    have nothing := isEmpty_iff_forall_nodes.mp empty m inside
    exact not_isQuote_bare (shown?_eq_none.mp nothing).1 quoted.1
  have same := (textOf_leavesIn_sublist n .empty 0).2.mpr plain
  rw [leavesIn_eq_nil.mpr empty] at same
  exact (String.toList_inj.mp same).symm

theorem isEmpty_iff_leaves (n : Node) :
    (n.isEmpty ↔ n.leaves = []) ∧ (n.isEmpty → n.plainText = "") := by
  refine ⟨leavesIn_eq_nil.symm, fun empty => ?_⟩
  have bare : n.attachment = none := (shown?_eq_none.mp (isEmpty_iff.mp empty).1).1
  rw [plainText_eq_innerText bare]
  exact innerText_of_isEmpty empty

/-- Styles alone show nothing. -/
theorem isEmpty_iff_leaves_styled :
    let n : Node := .group [(ofText "").withProperty .bold, (group [.empty]).withProperty .italic]
    n.isEmpty = true ∧ n.leaves = [] ∧ n.plainText = "" := by
  intro n
  have empty : n.isEmpty = true := by decide
  exact ⟨empty, (isEmpty_iff_leaves n).1.mp empty, (isEmpty_iff_leaves n).2 empty⟩

end RichText.Node
