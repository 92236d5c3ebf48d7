import RichText.Proofs.Span.Every
import RichText.Span.FlatText

/-!
# Flat text by recursion

The text below a span, which a loop gathers from a stack of pending spans, as a recursion over the
tree. Main statement (`flatText_inOrder`): the loop ends, with the texts of the pending spans appended
from the top of the stack down, and the text of a span is a newline for a line break, and else that of
its children one after another or its own. It does not depend on data and keys
(`flatText_mapPayload`).
-/
namespace RichText.Span

/-! ## The text by recursion -/

mutual

/-- The text below a span: a newline for a line break, and else the texts below its children or its
own text. -/
def textBelow : Span → String
  | ⟨tag, _, _, text, children⟩ =>
    if tag = some .lineBreak then "\n"
    else if children.isEmpty then text.getD ""
    else textBelowAll children

def textBelowAll : List Span → String
  | [] => ""
  | span :: rest => span.textBelow ++ textBelowAll rest

end

theorem textBelowAll_eq (spans : List Span) :
    textBelowAll spans = String.join (spans.map textBelow) := by
  induction spans with
  | nil => rfl
  | cons span rest ih => rw [textBelowAll, ih, List.map_cons, String.join_cons]

theorem textBelowAll_append (xs ys : List Span) :
    textBelowAll (xs ++ ys) = textBelowAll xs ++ textBelowAll ys := by
  rw [textBelowAll_eq, List.map_append, String.join_append, textBelowAll_eq, textBelowAll_eq]

theorem textBelow_eq (span : Span) :
    span.textBelow = span.ownText ++ textBelowAll span.textChildren := by
  obtain ⟨tag, data, key, text, children⟩ := span
  rw [textBelow, ownText, textChildren]
  by_cases isBreak : tag = some .lineBreak
  · rw [if_pos isBreak, if_pos isBreak, if_pos isBreak]
    rfl
  · rw [if_neg isBreak, if_neg isBreak, if_neg isBreak]
    cases children with
    | nil => exact String.append_empty.symm
    | cons child rest => exact String.empty_append.symm

/-! ## The loop -/

/-- One turn of the loop, which has a text so far and a stack. -/
def turn? : String × List Span → Option (String × List Span)
  | (_, []) => none
  | (out, span :: rest) => some (visit out span rest)

def after? : Nat → String × List Span → Option (String × List Span)
  | 0, state => some state
  | turns + 1, state => (turn? state).bind (after? turns)

theorem gather_turn? {state next : String × List Span} (turns : turn? state = some next) :
    gather state.1 state.2 = gather next.1 next.2 := by
  obtain ⟨out, pending⟩ := state
  cases pending with
  | nil => cases turns
  | cons span rest =>
      cases turns
      rw [gather]

theorem gather_after? {turns : Nat} {state last : String × List Span}
    (ends : after? turns state = some last) : gather state.1 state.2 = gather last.1 last.2 := by
  induction turns generalizing state with
  | zero =>
      cases ends
      rfl
  | succ turns ih =>
      obtain ⟨next, first, others⟩ := Option.bind_eq_some_iff.mp ends
      exact (gather_turn? first).trans (ih others)

/-- What a visit takes from the stack it adds to the text. -/
theorem visit_textBelow (out : String) (span : Span) (rest : List Span) :
    (visit out span rest).1 ++ textBelowAll (visit out span rest).2 =
      out ++ textBelowAll (span :: rest) := by
  rw [visit_fst, visit_snd, textBelowAll_append, textBelowAll, textBelow_eq, String.append_assoc,
    String.append_assoc]

/-- The stack runs out, after no more turns than there are spans in the trees on it. -/
theorem exists_turns (out : String) (pending : List Span) :
    ∃ turns ≤ sizeAll pending,
      after? turns (out, pending) = some (out ++ textBelowAll pending, []) := by
  fun_induction gather out pending with
  | case1 out =>
      refine ⟨0, Nat.zero_le _, ?_⟩
      rw [after?, textBelowAll, String.append_empty]
  | case2 out span rest next ih =>
      obtain ⟨turns, within, ends⟩ := ih
      refine ⟨turns + 1, Nat.lt_of_le_of_lt within (sizeAll_visit_lt out span rest), ?_⟩
      rw [after?, turn?, Option.bind_some, ← visit_textBelow]
      exact ends

theorem gather_eq (out : String) (pending : List Span) :
    gather out pending = out ++ textBelowAll pending := by
  obtain ⟨turns, -, ends⟩ := exists_turns out pending
  rw [gather_after? ends, gather]

theorem flatText_eq_textBelow (span : Span) : span.flatText = span.textBelow := by
  rw [flatText, gather_eq, textBelowAll, textBelowAll, String.append_empty, String.empty_append]

theorem textBelowAll_eq_join (spans : List Span) :
    textBelowAll spans = String.join (spans.map flatText) := by
  rw [textBelowAll_eq, funext flatText_eq_textBelow]

theorem flatText_rec (span : Span) :
    span.flatText =
      if span.tag = some .lineBreak then "\n"
      else if span.children.isEmpty then span.text.getD ""
      else String.join (span.children.map flatText) := by
  obtain ⟨tag, data, key, text, children⟩ := span
  rw [flatText_eq_textBelow, textBelow, textBelowAll_eq_join]

theorem flatText_inOrder :
    (∀ span : Span, span.flatText =
      if span.tag = some .lineBreak then "\n"
      else if span.children.isEmpty then span.text.getD ""
      else String.join (span.children.map flatText)) ∧
    ∀ (out : String) (pending : List Span),
      gather out pending = out ++ String.join (pending.map flatText) ∧
      ∃ turns ≤ sizeAll pending,
        after? turns (out, pending) = some (out ++ String.join (pending.map flatText), []) := by
  refine ⟨flatText_rec, fun out pending => ?_⟩
  rw [← textBelowAll_eq_join]
  exact ⟨gather_eq out pending, exists_turns out pending⟩

/-! ## The texts of a span -/

def texts (span : Span) : List String :=
  if span.children.isEmpty then span.text.toList else span.children.map flatText

theorem flatText_eq (span : Span) :
    span.flatText = if span.tag = some .lineBreak then "\n" else String.join span.texts := by
  rw [flatText_rec, texts]
  by_cases childless : span.children.isEmpty
  · rw [if_pos childless, if_pos childless]
    cases span.text <;> simp
  · rw [if_neg childless, if_neg childless]

theorem flatText_of_isText {span : Span} (plain : span.isText) :
    span.flatText = span.text.getD "" := by
  obtain ⟨untagged, childless⟩ := Bool.and_eq_true_iff.mp plain
  rw [flatText_eq, if_neg (by rw [Option.isNone_iff_eq_none.mp untagged]; exact nofun), texts,
    if_pos childless]
  cases span.text <;> simp

/-! ## Other data and keys -/

mutual

def mapPayload (data : Option Json.Fields → Option Json.Fields)
    (key : Option UInt64 → Option UInt64) : Span → Span
  | ⟨tag, d, k, text, children⟩ => ⟨tag, data d, key k, text, mapPayloads data key children⟩

def mapPayloads (data : Option Json.Fields → Option Json.Fields)
    (key : Option UInt64 → Option UInt64) : List Span → List Span
  | [] => []
  | span :: rest => span.mapPayload data key :: mapPayloads data key rest

end

def bare (span : Span) : Span := span.mapPayload (fun _ => none) (fun _ => none)

variable (data : Option Json.Fields → Option Json.Fields) (key : Option UInt64 → Option UInt64)

theorem mapPayloads_eq (spans : List Span) :
    mapPayloads data key spans = spans.map (mapPayload data key) := by
  induction spans with
  | nil => rfl
  | cons span rest ih => rw [mapPayloads, ih, List.map_cons]

theorem mapPayload_eq (span : Span) :
    span.mapPayload data key = ⟨span.tag, data span.data, key span.key, span.text,
      span.children.map (mapPayload data key)⟩ := by
  obtain ⟨tag, d, k, text, children⟩ := span
  rw [mapPayload, mapPayloads_eq]

theorem flatText_mapPayload (span : Span) : (span.mapPayload data key).flatText = span.flatText := by
  induction span using Span.induction with
  | step span ih =>
      have same : (span.children.map (mapPayload data key)).map flatText =
          span.children.map flatText := by
        rw [List.map_map]
        exact List.map_congr_left ih
      rw [flatText_eq, flatText_eq, texts, texts, mapPayload_eq]
      simp only [List.isEmpty_map, same]

theorem every_mapPayload {p : Span → Bool}
    (blind : ∀ span : Span, p (span.mapPayload data key) = p span) (span : Span) :
    (span.mapPayload data key).every p ↔ span.every p := by
  induction span using Span.induction with
  | step span ih =>
      rw [every_iff, every_iff, blind, mapPayload_eq]
      simp only [List.forall_mem_map]
      exact and_congr_right fun _ => forall₂_congr ih

theorem flatText_bare (span : Span) : span.bare.flatText = span.flatText :=
  flatText_mapPayload _ _ span

theorem every_tag_bare {p : Option Tag → Bool} {span : Span} :
    span.bare.every (p ·.tag) ↔ span.every (p ·.tag) :=
  every_mapPayload _ _ (fun span => by rw [mapPayload_eq]) span

end RichText.Span
