import RichText.Span.Basic

/-!
# Flat text

The text below a span in reading order. It is gathered from a stack of pending spans, so the depth
of the tree does not matter.
-/
namespace RichText.Span

mutual

def size : Span → Nat
  | ⟨_, _, _, _, children⟩ => 1 + sizeAll children

def sizeAll : List Span → Nat
  | [] => 0
  | span :: rest => span.size + sizeAll rest

end

theorem sizeAll_append (xs ys : List Span) : sizeAll (xs ++ ys) = sizeAll xs + sizeAll ys := by
  induction xs with
  | nil => simp [sizeAll]
  | cons x xs ih => simp [sizeAll, ih, Nat.add_assoc]

theorem size_eq (span : Span) : span.size = 1 + sizeAll span.children := by
  cases span
  rw [size]

def ownText (span : Span) : String :=
  if span.tag = some .lineBreak then "\n"
  else if span.children.isEmpty then span.text.getD ""
  else ""

def textChildren (span : Span) : List Span :=
  if span.tag = some .lineBreak then [] else span.children

def pushAll (stack spans : List Span) : List Span :=
  spans.foldl (fun stack span => span :: stack) stack

theorem pushAll_eq (stack spans : List Span) : pushAll stack spans = spans.reverse ++ stack := by
  rw [pushAll, List.foldl_flip_cons_eq_append']

/-- Visits the span on top of a stack. Its own text is appended, and its children are put on the
stack from the last to the first, so that the first one is next. -/
def visit (out : String) (span : Span) (rest : List Span) : String × List Span :=
  (out ++ span.ownText, pushAll rest span.textChildren.reverse)

@[simp] theorem visit_fst (out : String) (span : Span) (rest : List Span) :
    (visit out span rest).1 = out ++ span.ownText := rfl

@[simp] theorem visit_snd (out : String) (span : Span) (rest : List Span) :
    (visit out span rest).2 = span.textChildren ++ rest := by
  rw [visit, pushAll_eq, List.reverse_reverse]

theorem sizeAll_visit_lt (out : String) (span : Span) (rest : List Span) :
    sizeAll (visit out span rest).2 < sizeAll (span :: rest) := by
  rw [visit_snd, sizeAll_append, sizeAll, size_eq, textChildren]
  split
  · rw [sizeAll]
    omega
  · omega

def gather (out : String) : List Span → String
  | [] => out
  | span :: rest =>
    let next := visit out span rest
    gather next.1 next.2
termination_by pending => sizeAll pending
decreasing_by exact sizeAll_visit_lt out span rest

def flatText (span : Span) : String := gather "" [span]

end RichText.Span
