import Mathlib.Logic.Basic
import RichText.Span.Basic

/-!
# All spans of a document

A property of a span that follows from that of its children holds of every span (`induction`), and a
test is made of a span and of all spans below it (`every`).
-/
namespace RichText.Span

theorem induction {P : Span → Prop} (step : ∀ span, (∀ child ∈ span.children, P child) → P span)
    (span : Span) : P span :=
  @Span.rec P (fun spans => ∀ span ∈ spans, P span)
    (fun tag data key text children => step ⟨tag, data, key, text, children⟩) nofun
    (fun _ _ first rest => List.forall_mem_cons.mpr ⟨first, rest⟩) span

mutual

/-- Whether a test holds of a span and of all spans below it. -/
def every (p : Span → Bool) : Span → Bool
  | ⟨tag, data, key, text, children⟩ => p ⟨tag, data, key, text, children⟩ && everyOf p children

def everyOf (p : Span → Bool) : List Span → Bool
  | [] => true
  | span :: rest => span.every p && everyOf p rest

end

theorem every_eq (p : Span → Bool) (span : Span) :
    span.every p = (p span && everyOf p span.children) := by
  cases span
  rw [every]

theorem everyOf_eq (p : Span → Bool) (spans : List Span) :
    everyOf p spans = spans.all (·.every p) := by
  induction spans with
  | nil => rfl
  | cons span rest ih => rw [everyOf, List.all_cons, ih]

theorem every_iff {p : Span → Bool} {span : Span} :
    span.every p ↔ p span ∧ ∀ child ∈ span.children, child.every p := by
  rw [every_eq, everyOf_eq, Bool.and_eq_true, List.all_eq_true]

theorem every_of_forall {p : Span → Bool} (all : ∀ span, p span) (span : Span) : span.every p := by
  induction span using Span.induction with
  | step span ih => exact every_iff.mpr ⟨all span, ih⟩

end RichText.Span
