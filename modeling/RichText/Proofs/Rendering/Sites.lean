import RichText.Proofs.Node.Paths
import RichText.Proofs.Rendering.Steps
import RichText.Proofs.Span.Paths

/-!
# Where spans are in the rendered tree

Most nodes have the nodes of the content for children. A form puts line breaks between them, a quote
stands beside a line break of its own, and images, files, line breaks and what a policy drops have no
content in the tree. Main statement (`follow?_site`): at the site of a span, which is read off the
tags around it, is the node that the span is rendered as inside these tags.
-/
namespace RichText

namespace Strategy

/-- The path from the node of a span to the node of its content at a place. -/
def slot? (policy : Option QuotePolicy) (tag : Option Tag) (i : Nat) : Option (List Nat) :=
  match tag with
  | some .lineBreak => none
  | some .image => none
  | some .file => none
  | some .button => if policy.any (·.buttons = .drop) then none else some [i]
  | some .quote => if policy.any (·.nestedQuotes = .drop) then none else some [0, i]
  | some .form => some [2 * i]
  | _ => some [i]

end Strategy

/-- The path in the rendered tree to the node of the span that a path leads to. -/
def Span.site? (options : Options) (enclosing : List Tag) (span : Span) :
    List Nat → Option (List Nat)
  | [] => some []
  | i :: path => do
    let slot ← Strategy.slot? (options.policyFor (enclosing.contains .quote)) span.tag i
    let child ← span.children[i]?
    let rest ← child.site? options (enclosing ++ span.tag.toList) path
    return slot ++ rest

open Node

/-! ## Steps -/

namespace Strategy

variable {children : List Node} {i : Nat} {slot : List Nat}

/-- A node with the nodes of the content for children has them at their places. -/
theorem follow?_singleton {n : Node} (content : n.children = children) (i : Nat) :
    n.follow? [i] = children[i]? := by
  rw [follow?, content]
  exact Option.bind_fun_some _

theorem children_withProperty? (ns : List Node) (p : Option Style.Property) :
    (withProperty? (.group ns) p).children = ns := by
  cases p <;> rfl

theorem children_buttonNode (c : Context) (ns : List Node) : (buttonNode c ns).children = ns := by
  unfold buttonNode
  simp only
  split <;> rfl

theorem follow?_full (c : Context) (leads : slot? none c.tag i = some slot) :
    (full.node c children).follow? slot = children[i]? := by
  obtain ⟨tag, data, key, enclosing⟩ := c
  cases tag with
  | none =>
      cases leads
      exact follow?_singleton rfl i
  | some t =>
      cases t with
      | lineBreak | image | file => cases leads
      | strong | emphasis | strikethrough | highlight | code | hashtag | row | other =>
          cases leads
          exact follow?_singleton rfl i
      | mention | link =>
          cases leads
          exact follow?_singleton (children_withProperty? children _) i
      | button =>
          cases leads
          exact follow?_singleton (children_buttonNode _ children) i
      | form =>
          cases leads
          refine (follow?_singleton rfl (2 * i)).trans ?_
          exact List.getElem?_intersperse_two_mul
      | quote =>
          cases leads
          exact follow?_singleton rfl i

theorem follow?_reduction (r : Reduction) {whole substitute : Node} {found : Option Node}
    (kept : whole.follow? slot = found) (replaced : substitute.follow? slot = found) :
    r ≠ .drop →
      (match r with | .keep => whole | .placeholder => substitute | .drop => Node.empty).follow? slot =
        found := by
  intro shown
  cases r with
  | keep => exact kept
  | placeholder => exact replaced
  | drop => exact absurd rfl shown

/-- What a policy does not drop keeps its content in the place that it has in full. -/
theorem follow?_quoted (rules : QuotePolicy) (c : Context)
    (leads : slot? (some rules) c.tag i = some slot) :
    ((quoted rules).node c children).follow? slot = children[i]? := by
  have plain : (Node.group children).follow? [i] = children[i]? := follow?_singleton rfl i
  obtain ⟨tag, data, key, enclosing⟩ := c
  cases tag with
  | none =>
      cases leads
      exact plain
  | some t =>
      have whole (leads : slot? none (some t) i = some slot) :
          (full.node ⟨some t, data, key, enclosing⟩ children).follow? slot = children[i]? :=
        follow?_full _ leads
      cases t with
      | mention =>
          change Node.follow? (if rules.mentionColor then _ else _) _ = _
          split
          · exact whole leads
          · cases leads
            exact plain
      | link =>
          change Node.follow? (if rules.links then _ else _) _ = _
          split
          · exact whole leads
          · cases leads
            exact plain
      | button =>
          obtain ⟨shown, rfl⟩ : rules.buttons ≠ .drop ∧ [i] = slot := by simpa [slot?] using leads
          exact follow?_reduction rules.buttons (whole rfl) plain shown
      | quote =>
          obtain ⟨shown, rfl⟩ : rules.nestedQuotes ≠ .drop ∧ [0, i] = slot := by
            simpa [slot?] using leads
          have unframed : (Node.group [.group children, .lineBreak]).follow? [0, i] = children[i]? :=
            plain
          exact follow?_reduction rules.nestedQuotes (whole rfl) unframed shown
      | image | file => cases leads
      | lineBreak | strong | emphasis | strikethrough | highlight | code | hashtag | form | row
      | other => exact whole leads

theorem slot?_ne_nil {policy : Option QuotePolicy} {tag : Option Tag}
    (leads : slot? policy tag i = some slot) : slot ≠ [] := by
  rintro rfl
  unfold slot? at leads
  split at leads <;> (try split at leads) <;> cases leads

theorem follow?_slot (policy : Option QuotePolicy) (c : Context)
    (leads : slot? policy c.tag i = some slot) :
    ((under policy).node c children).follow? slot = children[i]? := by
  cases policy with
  | none => exact follow?_full c leads
  | some rules => exact follow?_quoted rules c leads

end Strategy

/-! ## Runs -/

theorem Span.isEmpty_children {span child : Span} {i : Nat}
    (place : span.children[i]? = some child) : span.children.isEmpty = false :=
  List.isEmpty_eq_false_iff_exists_mem.mpr ⟨child, List.mem_of_getElem? place⟩

theorem Span.not_isText_of_child {span child : Span} {i : Nat}
    (place : span.children[i]? = some child) : ¬ span.isText := by
  rw [isText, isEmpty_children place, Bool.and_false]
  exact Bool.false_ne_true

theorem Engine.getElem?_content (e : Engine) (limit : Nat) (inner : List Tag) {span child : Span}
    {i : Nat} (place : span.children[i]? = some child) :
    (e.content limit inner span)[i]? = some (e.render limit inner child) := by
  rw [content, Span.isEmpty_children place, if_neg Bool.false_ne_true, List.getElem?_map, place,
    Option.map_some]

theorem Span.site?_cons_eq_some {options : Options} {enclosing : List Tag} {span : Span} {i : Nat}
    {path site : List Nat} (stands : span.site? options enclosing (i :: path) = some site) :
    ∃ child slot rest, span.children[i]? = some child ∧
      Strategy.slot? (options.policyFor (enclosing.contains .quote)) span.tag i = some slot ∧
      child.site? options (enclosing ++ span.tag.toList) path = some rest ∧ site = slot ++ rest := by
  obtain ⟨slot, below, stands⟩ := Option.bind_eq_some_iff.mp stands
  obtain ⟨child, place, stands⟩ := Option.bind_eq_some_iff.mp stands
  obtain ⟨rest, stands, same⟩ := Option.bind_eq_some_iff.mp stands
  exact ⟨child, slot, rest, place, below, stands, (Option.some.inj same).symm⟩

theorem Document.follow?_child (options : Options) {span child : Span} {i : Nat}
    (place : span.children[i]? = some child) {enclosing : List Tag} {slot : List Nat}
    (below : Strategy.slot? (options.policyFor (enclosing.contains .quote)) span.tag i = some slot)
    (limit : Nat) (rest : List Nat) :
    ((engine options).render (limit + 1) enclosing span).follow? (slot ++ rest) =
      ((engine options).render limit (enclosing ++ span.tag.toList) child).follow? rest := by
  rw [Engine.render_node (Span.not_isText_of_child place), strategyFor_engine]
  apply Node.follow?_append
  rw [Strategy.follow?_slot _ _ below, Engine.getElem?_content _ limit _ place]

theorem Document.follow?_site (options : Options) {root span : Span} {path site : List Nat}
    {enclosing : List Tag} (leads : root.follow? path = some span)
    (stands : root.site? options enclosing path = some site) {limit : Nat}
    (short : path.length ≤ limit) :
    ((engine options).render limit enclosing root).follow? site =
      some ((engine options).render (limit - path.length) (enclosing ++ root.tagsAbove path) span) := by
  induction path generalizing root enclosing limit site with
  | nil =>
      cases leads
      cases stands
      rw [Span.tagsAbove, Span.ancestors, List.filterMap_nil, List.append_nil]
      rfl
  | cons i path ih =>
      obtain ⟨child, slot, rest, place, below, inner, rfl⟩ := Span.site?_cons_eq_some stands
      rw [Span.follow?, place, Option.bind_some] at leads
      cases limit with
      | zero => exact absurd short (Nat.not_succ_le_zero _)
      | succ limit =>
          rw [follow?_child options place below limit rest,
            ih leads inner (Nat.le_of_succ_le_succ short), List.length_cons,
            Nat.add_sub_add_right, Span.tagsAbove_cons place, List.append_assoc]

/-- Below the levels that are rendered there are no nodes. -/
theorem Document.follow?_site_deep (options : Options) {root : Span} {path site : List Nat}
    {enclosing : List Tag} (stands : root.site? options enclosing path = some site) {limit : Nat}
    (deep : limit < path.length) :
    ((engine options).render limit enclosing root).follow? site = none := by
  induction path generalizing root enclosing limit site with
  | nil => exact absurd deep (Nat.not_lt_zero _)
  | cons i path ih =>
      obtain ⟨child, slot, rest, place, below, inner, rfl⟩ := Span.site?_cons_eq_some stands
      cases limit with
      | zero =>
          obtain ⟨j, slot, rfl⟩ := List.exists_cons_of_ne_nil (Strategy.slot?_ne_nil below)
          rfl
      | succ limit =>
          rw [follow?_child options place below limit rest]
          exact ih inner (Nat.lt_of_succ_lt_succ deep)

end RichText
