import Mathlib.Data.List.Dedup
import RichText.Node.Basic

/-!
# Writes to a style

A style remembers the last write of each kind. Whatever is done to styles, the outcome is the style
made of the list of all properties written (`after_eq_ofList`); what that list determines, and the
laws of laying one style over another, is the main statement (`after_lastWrites`).
-/
namespace RichText

namespace Style

/-! ## Histories -/

/-- Something that is done to a style. -/
inductive Step where
  | replace (p : Property)
  | insert (p : Property)
  | merge (other : Style)
  | ofProperty (p : Property)
  | ofList (ps : List Property)

namespace Step

def apply (s : Style) : Step → Style
  | replace p => (s.replace p).2
  | insert p => s.insert p
  | merge other => s.merge other
  | ofProperty p => .ofProperty p
  | ofList ps => .ofList ps

/-- What has been written after a step. To merge is to write all of the other style, and a style that
is made anew forgets the writes before it. -/
def record (written : List Property) : Step → List Property
  | replace p | insert p => written ++ [p]
  | merge other => written ++ other.toList
  | ofProperty p => [p]
  | ofList ps => ps

end Step

def after (steps : List Step) : Style := steps.foldl Step.apply empty

/-- The properties written by some steps, the last one last. -/
def written (steps : List Step) : List Property := steps.foldl Step.record []

def last? (k : Key) (ps : List Property) : Option Property := (ps.filter (·.key = k)).getLast?

/-! ## The last write of a kind -/

theorem last?_append (k : Key) (ps qs : List Property) :
    last? k (ps ++ qs) = (last? k qs).or (last? k ps) := by
  rw [last?, List.filter_append, List.getLast?_append, last?, last?]

theorem last?_singleton (k : Key) (p : Property) :
    last? k [p] = if k = p.key then some p else none := by
  by_cases same : k = p.key
  · simp [last?, same]
  · simp [last?, same, Ne.symm same]

theorem last?_eq_none {k : Key} {ps : List Property} :
    last? k ps = none ↔ k ∉ ps.map Property.key := by
  simp [last?]

theorem of_last? {k : Key} {ps : List Property} {p : Property} (found : last? k ps = some p) :
    p ∈ ps ∧ p.key = k := by
  simpa using List.mem_of_getLast? found

theorem last?_toList (s : Style) (k : Key) : last? k s.toList = s.get? k := by
  cases found : last? k s.toList with
  | none =>
      symm
      rw [Option.eq_none_iff_forall_ne_some]
      intro p held
      have key := key_of_get? held
      refine last?_eq_none.mp found (List.mem_map.mpr ⟨p, ?_, key⟩)
      rw [mem_toList, key, held]
  | some p =>
      obtain ⟨member, rfl⟩ := of_last? found
      exact (mem_toList.mp member).symm

theorem get?_foldl_insert (s : Style) (ps : List Property) (k : Key) :
    (ps.foldl insert s).get? k = (last? k ps).or (s.get? k) := by
  induction ps generalizing s with
  | nil => rfl
  | cons p ps ih =>
      rw [List.foldl_cons, ih, get?_insert, ← List.singleton_append, last?_append, last?_singleton,
        Option.or_assoc]
      split <;> rfl

theorem get?_ofList (ps : List Property) (k : Key) : (ofList ps).get? k = last? k ps := by
  rw [ofList, get?_foldl_insert, get?_empty, Option.or_none]

/-! ## Steps and runs -/

theorem ofList_append_singleton (ps : List Property) (p : Property) :
    ofList (ps ++ [p]) = (ofList ps).insert p := by
  rw [ofList, List.foldl_append]
  rfl

theorem ofList_append_toList (ps : List Property) (s : Style) :
    ofList (ps ++ s.toList) = (ofList ps).merge s := by
  apply ext_get?
  intro k
  rw [get?_merge, get?_ofList, get?_ofList, last?_append, last?_toList]
  cases s.get? k <;> rfl

theorem apply_ofList (ps : List Property) (step : Step) :
    step.apply (ofList ps) = ofList (step.record ps) := by
  cases step with
  | replace p | insert p => exact (ofList_append_singleton ps p).symm
  | merge other => exact (ofList_append_toList ps other).symm
  | ofProperty p | ofList qs => rfl

theorem foldl_apply_ofList (ps : List Property) (steps : List Step) :
    steps.foldl Step.apply (ofList ps) = ofList (steps.foldl Step.record ps) := by
  induction steps generalizing ps with
  | nil => rfl
  | cons step steps ih => rw [List.foldl_cons, List.foldl_cons, apply_ofList, ih]

theorem after_eq_ofList (steps : List Step) : after steps = ofList (written steps) :=
  foldl_apply_ofList [] steps

/-! ## What the last writes determine -/

/-- A style holds the last write of each kind, and nothing else. -/
structure LastWrites (s : Style) (ps : List Property) : Prop where
  get? : ∀ k, s.get? k = last? k ps
  key : ∀ k p, s.get? k = some p → p.key = k
  replaced : ∀ p, (s.replace p).1 = last? p.key ps
  size : s.size = (ps.map Property.key).dedup.length
  mem_toList : ∀ p, p ∈ s.toList ↔ last? p.key ps = some p
  ordered : s.toList.Pairwise fun p q => p.key.ctorIdx < q.key.ctorIdx
  text : s.text = ",".intercalate (s.toList.map Property.text)

theorem mem_keys_toList (s : Style) (k : Key) : k ∈ s.toList.map Property.key ↔ s.get? k ≠ none := by
  rw [← last?_toList, Ne, last?_eq_none, not_not]

theorem size_ofList (ps : List Property) :
    (ofList ps).size = (ps.map Property.key).dedup.length := by
  have distinct : ((ofList ps).toList.map Property.key).Nodup := by
    rw [List.nodup_iff_pairwise_ne, List.pairwise_map]
    refine (pairwise_toList _).imp fun less same => ?_
    rw [same] at less
    exact Nat.lt_irrefl _ less
  have same : ((ofList ps).toList.map Property.key).Perm (ps.map Property.key).dedup := by
    rw [List.perm_ext_iff_of_nodup distinct (List.nodup_dedup _)]
    intro k
    rw [mem_keys_toList, get?_ofList, Ne, last?_eq_none, not_not, List.mem_dedup]
  rw [size, ← same.length_eq, List.length_map]

theorem lastWrites_ofList (ps : List Property) : LastWrites (ofList ps) ps where
  get? := get?_ofList ps
  key _ _ held := key_of_get? held
  replaced p := get?_ofList ps p.key
  size := size_ofList ps
  mem_toList p := by rw [Style.mem_toList, get?_ofList]
  ordered := pairwise_toList _
  text := rfl

/-! ## Merging -/

theorem merge_assoc (s t u : Style) : (s.merge t).merge u = s.merge (t.merge u) := by
  apply ext_get?
  intro k
  simp only [get?_merge]
  cases u.get? k <;> rfl

theorem merge_self (s : Style) : s.merge s = s := by
  apply ext_get?
  intro k
  rw [get?_merge]
  cases s.get? k <;> rfl

theorem merge_comm_iff (s t : Style) :
    s.merge t = t.merge s ↔ ∀ k p q, s.get? k = some p → t.get? k = some q → p = q := by
  constructor
  · intro same k p q held held'
    have both := congrArg (fun u => Style.get? u k) same
    simp only [get?_merge, held, held'] at both
    exact (Option.some.inj both).symm
  · intro agree
    apply ext_get?
    intro k
    rw [get?_merge, get?_merge]
    cases held : s.get? k with
    | none => cases t.get? k <;> rfl
    | some p =>
        cases held' : t.get? k with
        | none => rfl
        | some q => rw [agree k p q held held']

end Style

theorem Node.withStyle_withStyle (n : Node) (s t : Style) :
    (n.withStyle s).withStyle t = n.withStyle (s.merge t) := by
  cases n <;> simp only [Node.withStyle, Style.merge_assoc]

namespace Style

theorem after_lastWrites :
    (∀ steps, LastWrites (after steps) (written steps)) ∧
      (∀ steps steps', after steps = after steps' ↔
        ∀ k, last? k (written steps) = last? k (written steps')) ∧
      (∀ s t u : Style, (s.merge t).merge u = s.merge (t.merge u)) ∧
      (∀ s : Style, s.merge s = s ∧ s.merge empty = s ∧ empty.merge s = s) ∧
      (∀ s t : Style, s.merge t = t.merge s ↔
        ∀ k p q, s.get? k = some p → t.get? k = some q → p = q) ∧
      ∀ (n : Node) (s t : Style), (n.withStyle s).withStyle t = n.withStyle (s.merge t) := by
  refine ⟨fun steps => ?_, fun steps steps' => ?_, merge_assoc, fun s => ?_, merge_comm_iff,
    Node.withStyle_withStyle⟩
  · rw [after_eq_ofList]
    exact lastWrites_ofList _
  · rw [after_eq_ofList, after_eq_ofList]
    constructor
    · intro same k
      rw [← get?_ofList, same, get?_ofList]
    · intro same
      apply ext_get?
      intro k
      rw [get?_ofList, same, get?_ofList]
  · exact ⟨merge_self s, merge_empty s, empty_merge s⟩

end Style

end RichText
