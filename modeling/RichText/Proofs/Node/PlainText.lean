import RichText.Proofs.Node.Leaves

/-!
# Plain text and leaves

The text of a node inside another, taken straight from the tree and from the leaves. Main statement
(`plainText_group_singleton`): they agree unless a text that is seen carries the bar of a quote
itself. Leaves show of such a text only the bar, and plain text has it as well; in no case does a
leaf have text that plain text lacks.
-/
namespace RichText

def Leaf.textOf (leaves : List Leaf) : String := String.join (leaves.filterMap Leaf.text?)

theorem Leaf.textOf_append (xs ys : List Leaf) :
    Leaf.textOf (xs ++ ys) = Leaf.textOf xs ++ Leaf.textOf ys := by
  rw [textOf, List.filterMap_append, String.join_append, textOf, textOf]

theorem Leaf.textOf_text (s : String) (style : Style) (quoteDepth : Nat) :
    Leaf.textOf [⟨.text s, style, quoteDepth⟩] = s := by
  simp [textOf, text?]

namespace Node

/-- A text that is no container but carries the bar of a quote. -/
def QuotedText (n : Node) : Prop := n.IsQuote ∧ ∃ s, n.content? = some s ∧ s ≠ ""

def ownText (n : Node) : String := n.content?.getD ""

def leafText (n : Node) : String := if n.attachment.isNone then n.ownText else ""

theorem innerText_eq (n : Node) :
    n.innerText =
      if hides n.attachment then "" else n.ownText ++ String.join (n.children.map innerText) := by
  cases n with
  | text s own a => rw [innerText, children, List.map_nil, String.join_nil, String.append_empty]; rfl
  | container ns own a =>
      rw [innerText, innerTexts_eq_join, ownText, content?, Option.getD_none, String.empty_append]
      rfl

theorem plainText_eq_innerText {n : Node} (bare : n.attachment = none) :
    n.plainText = n.innerText := by
  cases n with
  | text s own a =>
      cases bare
      rfl
  | container ns own a =>
      cases bare
      rfl

theorem textOf_flatMap (f : Node → List Leaf) (ns : List Node) :
    Leaf.textOf (ns.flatMap f) = String.join (ns.map fun n => Leaf.textOf (f n)) := by
  induction ns with
  | nil => rfl
  | cons n rest ih =>
      rw [List.flatMap_cons, Leaf.textOf_append, ih, List.map_cons, String.join_cons]

theorem textOf_shown? (n : Node) (style : Style) (depth : Nat) :
    Leaf.textOf (n.shown?.toList.map fun content => ⟨content, style, depth⟩) = n.leafText := by
  unfold shown? leafText ownText
  cases n.attachment with
  | some a => rfl
  | none =>
      cases n.content? with
      | none => rfl
      | some s =>
          rw [Option.filter_some]
          by_cases isEmpty : s.isEmpty
          · rw [String.isEmpty_iff.mp isEmpty]
            rfl
          · rw [if_pos (by simpa using isEmpty)]
            exact Leaf.textOf_text s style depth

theorem textOf_leavesIn_eq (n : Node) (style : Style) (depth : Nat) :
    Leaf.textOf (n.leavesIn style depth) =
      n.leafText ++ if hides n.attachment then ""
        else String.join (n.children.map fun child => Leaf.textOf (child.leavesIn
          (style.merge n.style) (depth + if n.IsQuote then 1 else 0))) := by
  rw [leavesIn_eq, Leaf.textOf_append, textOf_shown?]
  split
  · rfl
  · rw [textOf_flatMap]

/-! ## What plain text adds -/

theorem append_eq_append_of_sublist {α : Type} {xs ys xs' ys' : List α} (first : xs.Sublist ys)
    (second : xs'.Sublist ys') : xs ++ xs' = ys ++ ys' ↔ xs = ys ∧ xs' = ys' := by
  constructor
  · intro same
    have lengths := congrArg List.length same
    rw [List.length_append, List.length_append] at lengths
    have shorter := first.length_le
    have shorter' := second.length_le
    exact ⟨first.eq_of_length (by omega), second.eq_of_length (by omega)⟩
  · rintro ⟨rfl, rfl⟩
    rfl

theorem flatMap_eq_flatMap_of_sublist {α β : Type} {f g : α → List β} {xs : List α}
    (part : ∀ x ∈ xs, (f x).Sublist (g x)) :
    (xs.flatMap f).Sublist (xs.flatMap g) ∧
      (xs.flatMap f = xs.flatMap g ↔ ∀ x ∈ xs, f x = g x) := by
  induction xs with
  | nil => exact ⟨.slnil, iff_of_true rfl nofun⟩
  | cons x xs ih =>
      obtain ⟨first, others⟩ := List.forall_mem_cons.mp part
      obtain ⟨inner, same⟩ := ih others
      rw [List.flatMap_cons, List.flatMap_cons, List.forall_mem_cons,
        append_eq_append_of_sublist first inner, same]
      exact ⟨first.append inner, .rfl⟩

theorem hides_eq_false {n : Node} :
    hides n.attachment = false ↔ n.attachment = none ∨ n.IsQuote := by
  unfold IsQuote
  cases n.attachment with
  | none => simp [hides]
  | some a => simp [hides]

theorem quotedText_iff {n : Node} : n.QuotedText ↔ n.IsQuote ∧ n.ownText ≠ "" := by
  unfold QuotedText ownText
  cases n.content? <;> simp

/-- The leaf of a node that shows its content has its text, unless that carries the bar of a quote. -/
theorem leafText_sublist {n : Node} (shown : hides n.attachment = false) :
    n.leafText.toList.Sublist n.ownText.toList ∧
      (n.leafText.toList = n.ownText.toList ↔ ¬ n.QuotedText) := by
  rw [String.toList_inj, quotedText_iff, leafText]
  rcases hides_eq_false.mp shown with bare | isQuote
  · rw [bare, if_pos Option.isNone_none]
    exact ⟨.refl _, iff_of_true rfl fun quoted => not_isQuote_bare bare quoted.1⟩
  · obtain ⟨a, has, -⟩ := id isQuote
    rw [has, and_iff_right isQuote, not_ne_iff]
    exact ⟨List.nil_sublist _, eq_comm⟩

/-- The text of the leaves is that of the node less the texts that carry the bar of a quote. -/
theorem textOf_leavesIn_sublist (n : Node) (style : Style) (depth : Nat) :
    (Leaf.textOf (n.leavesIn style depth)).toList.Sublist n.innerText.toList ∧
      ((Leaf.textOf (n.leavesIn style depth)).toList = n.innerText.toList ↔
        ∀ path m, n.Seen path m → ¬ m.QuotedText) := by
  induction n using Node.induction generalizing style depth with
  | step n ih =>
      rw [forall_seen, textOf_leavesIn_eq, innerText_eq]
      cases shown : hides n.attachment with
      | true =>
          have plain : ¬ n.IsQuote := fun isQuote => by
            cases shown.symm.trans (hides_eq_false.mpr (.inr isQuote))
          have attached : ¬ n.attachment.isNone := fun bare => by
            cases shown.symm.trans (hides_eq_false.mpr (.inl (Option.isNone_iff_eq_none.mp bare)))
          rw [leafText, if_neg attached]
          exact ⟨.refl _, iff_of_true rfl ⟨fun quoted => plain quoted.1, nofun⟩⟩
      | false =>
          obtain ⟨own, sameOwn⟩ := leafText_sublist shown
          obtain ⟨inner, sameInner⟩ := flatMap_eq_flatMap_of_sublist
            fun child below => (ih child below (style.merge n.style)
              (depth + if n.IsQuote then 1 else 0)).1
          simp only [Bool.false_eq_true, if_false, String.toList_append, String.toList_join,
            List.flatMap_map, true_imp_iff]
          refine ⟨own.append inner, ?_⟩
          rw [append_eq_append_of_sublist own inner, sameOwn, sameInner]
          refine and_congr_right fun _ => forall₂_congr fun child below => ?_
          exact (ih child below _ _).2

end Node

/-! ## The statement -/

theorem Node.plainText_group_singleton (n : Node) :
    (Leaf.textOf (group [n]).leaves).toList.Sublist (group [n]).plainText.toList ∧
      ((group [n]).plainText = Leaf.textOf (group [n]).leaves ↔
        ∀ path m, n.Seen path m → ¬ m.QuotedText) := by
  have text : (group [n]).plainText = n.innerText := String.append_empty
  have leaves : (group [n]).leaves = n.leavesIn .empty 0 := List.append_nil _
  obtain ⟨part, same⟩ := textOf_leavesIn_sublist n .empty 0
  rw [text, leaves, ← same, String.toList_inj]
  exact ⟨part, eq_comm⟩

/-- The leaves of a text with the bar of a quote lack the text. -/
theorem Node.plainText_quotedText :
    let n : Node := (ofText "a").withAttachment { kind := .quote }
    (group [n]).plainText ≠ Leaf.textOf (group [n]).leaves := by
  decide

end RichText
