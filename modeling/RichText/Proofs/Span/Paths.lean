import RichText.Span.Basic

/-!
# Paths in a document

A path leads down from the root of a document, by the place of a child at every level. Around the
span at its end are the spans that it goes through.
-/
namespace RichText.Span

def follow? (span : Span) : List Nat → Option Span
  | [] => some span
  | i :: path => span.children[i]?.bind fun child => child.follow? path

/-- The spans that a path goes through, the outermost first, without the one at its end. -/
def ancestors (span : Span) : List Nat → List Span
  | [] => []
  | i :: path => span :: span.children[i]?.elim [] fun child => child.ancestors path

/-- The tags around the end of a path, the outermost first. -/
def tagsAbove (span : Span) (path : List Nat) : List Tag := (span.ancestors path).filterMap (·.tag)

theorem follow?_cons_eq_some {span inner : Span} {i : Nat} {path : List Nat} :
    span.follow? (i :: path) = some inner ↔
      ∃ child, span.children[i]? = some child ∧ child.follow? path = some inner := by
  rw [follow?, Option.bind_eq_some_iff]

theorem follow?_of_mem {span child inner : Span} (below : child ∈ span.children) {path : List Nat}
    (leads : child.follow? path = some inner) : ∃ i, span.follow? (i :: path) = some inner := by
  obtain ⟨i, place⟩ := List.getElem?_of_mem below
  exact ⟨i, follow?_cons_eq_some.mpr ⟨child, place, leads⟩⟩

theorem ancestors_cons {root child : Span} {i : Nat} (place : root.children[i]? = some child)
    (path : List Nat) : root.ancestors (i :: path) = root :: child.ancestors path := by
  rw [ancestors, place, Option.elim_some]

variable {root span : Span} {path : List Nat}

theorem follow?_append (leads : root.follow? path = some span) (rest : List Nat) :
    root.follow? (path ++ rest) = span.follow? rest := by
  induction path generalizing root with
  | nil =>
      cases leads
      rfl
  | cons i path ih =>
      obtain ⟨child, place, leads⟩ := follow?_cons_eq_some.mp leads
      rw [List.cons_append, follow?, place, Option.bind_some]
      exact ih leads

theorem ancestors_append (leads : root.follow? path = some span) (rest : List Nat) :
    root.ancestors (path ++ rest) = root.ancestors path ++ span.ancestors rest := by
  induction path generalizing root with
  | nil =>
      cases leads
      rfl
  | cons i path ih =>
      obtain ⟨child, place, leads⟩ := follow?_cons_eq_some.mp leads
      rw [List.cons_append, ancestors_cons place, ancestors_cons place, ih leads, List.cons_append]

theorem tagsAbove_cons {child : Span} {i : Nat} (place : root.children[i]? = some child)
    (path : List Nat) :
    root.tagsAbove (i :: path) = root.tag.toList ++ child.tagsAbove path := by
  rw [tagsAbove, ancestors_cons place, tagsAbove]
  cases h : root.tag <;> simp [h]

theorem follow?_child {child : Span} {i : Nat} (leads : root.follow? path = some span)
    (place : span.children[i]? = some child) : root.follow? (path ++ [i]) = some child := by
  rw [follow?_append leads, follow?_cons_eq_some]
  exact ⟨child, place, rfl⟩

theorem tagsAbove_child (leads : root.follow? path = some span) (i : Nat) :
    root.tagsAbove (path ++ [i]) = root.tagsAbove path ++ span.tag.toList := by
  have last : span.ancestors [i] = [span] := by
    unfold ancestors
    cases span.children[i]? <;> rfl
  rw [tagsAbove, ancestors_append leads, last, List.filterMap_append, tagsAbove]
  cases h : span.tag <;> simp [h]

end RichText.Span
