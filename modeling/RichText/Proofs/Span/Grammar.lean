import RichText.Document
import RichText.Proofs.Json.Progress

/-!
# The grammar of spans

Which JSON values describe a span, and which span. Main statement (`ofValue_grammar`): the reader
accepts the well-formed values and no others, the span is the one that the value describes, and any
value in place of some data or key changes the data or the key of that span and nothing else.
-/
namespace RichText
open Json

namespace Span

/-! ## Well-formed values -/

/-- The names of the values that a list holds for a span. -/
def places : List String := ["tp", "data", "key", "text", "children"]

/-- What a value gives for each name: an object its members, a list its items by their places. -/
def entries? : Value → Option (String → Option Value)
  | .object members => some fun name => members.lookup name
  | .array items =>
    if items.length ≤ 5 then some fun name => (places.zip items).lookup name else none
  | _ => none

def MayBeText (entry : Option Value) : Prop :=
  entry = none ∨ entry = some .null ∨ ∃ s, entry = some (.string s)

def ListOf (entry : Option Value) (items : List Value) : Prop :=
  (entry = none ∧ items = []) ∨ entry = some (.array items)

/-- The conditions on a span itself; data and key are free. -/
structure Fit (entries : String → Option Value) : Prop where
  tag : MayBeText (entries "tp")
  older : MayBeText (entries "type")
  once : entries "tp" = none ∨ entries "type" = none
  text : MayBeText (entries "text")

inductive WellFormed : Value → Prop
  | intro {v : Value} {entries : String → Option Value} {items : List Value}
      (has : entries? v = some entries) (fit : Fit entries)
      (children : ListOf (entries "children") items)
      (below : ∀ item ∈ items, WellFormed item) : WellFormed v

/-- What a span has beside children. -/
structure Holds (entries : String → Option Value) (span : Span) : Prop where
  tag : ∀ t, span.tag = some t ↔ ∃ s, t = Tag.ofSpelling s ∧
    (entries "tp" = some (.string s) ∨ entries "type" = some (.string s))
  data : ∀ fields, span.data = some fields ↔ ∃ members, fields = .ofMembers members ∧
    entries "data" = some (.object members)
  key : ∀ k, span.key = some k ↔ ∃ w : Whole, entries "key" = some (.number (.whole w)) ∧
    w.val = k.toNat
  text : ∀ s, span.text = some s ↔ entries "text" = some (.string s)

mutual

inductive Describes : Value → Span → Prop
  | intro {v : Value} {entries : String → Option Value} {items : List Value} {span : Span}
      (has : entries? v = some entries) (holds : Holds entries span)
      (children : ListOf (entries "children") items)
      (below : DescribeAll items span.children) : Describes v span

inductive DescribeAll : List Value → List Span → Prop
  | nil : DescribeAll [] []
  | cons {v : Value} {vs : List Value} {span : Span} {spans : List Span}
      (first : Describes v span) (rest : DescribeAll vs spans) :
      DescribeAll (v :: vs) (span :: spans)

end

/-! ## Reading by names -/

def childrenAt : Option Value → Except Cause (List Span)
  | none => .ok []
  | some v => childrenOf v

def ofEntries? (entries : String → Option Value) : Option Span := do
  let children ← (childrenAt (entries "children")).toOption
  let text ← (textOf (entries "text")).toOption
  let tag ← (tagOf (entries "tp") (entries "type")).toOption
  some {
    tag := tag.map Tag.ofSpelling
    data := dataOf (entries "data")
    key := keyOf (entries "key")
    text
    children }

theorem toOption_eq_some {ε α : Type} {x : Except ε α} {a : α} :
    x.toOption = some a ↔ x = .ok a := by
  cases x <;> simp [Except.toOption]

theorem toOption_bind {ε α β : Type} (x : Except ε α) (next : α → Except ε β) :
    (x >>= next).toOption = x.toOption.bind fun a => (next a).toOption := by
  cases x <;> rfl

theorem childrenOfMembers_eq (members : Members) :
    childrenOfMembers members = childrenAt (members.lookup "children") := by
  induction members with
  | nil => rw [childrenOfMembers]; rfl
  | cons member rest ih =>
      obtain ⟨name, v⟩ := member
      rw [childrenOfMembers, Members.lookup_cons, ih]
      by_cases same : name = "children"
      · rw [if_pos same, if_pos same.symm]; rfl
      · rw [if_neg same, if_neg (Ne.symm same)]

theorem tagOf_none (tp : Option Value) : tagOf tp none = textOf tp := by
  unfold tagOf
  cases h : textOf tp with
  | error cause => rfl
  | ok tag => cases tag <;> simp [textOf, bind, Except.bind]

theorem lookup_places (items : List Value) :
    (places.zip items).lookup "tp" = items[0]? ∧
    (places.zip items).lookup "type" = none ∧
    (places.zip items).lookup "data" = items[1]? ∧
    (places.zip items).lookup "key" = items[2]? ∧
    (places.zip items).lookup "text" = items[3]? ∧
    (places.zip items).lookup "children" = items[4]? := by
  match items with
  | [] | [_] | [_, _] | [_, _, _] | [_, _, _, _] => exact ⟨rfl, rfl, rfl, rfl, rfl, rfl⟩
  | _ :: _ :: _ :: _ :: _ :: _ => exact ⟨rfl, rfl, rfl, rfl, rfl, rfl⟩

theorem childrenOfList_eq (items : List Value) :
    childrenOfList items = childrenAt items[4]? := by
  match items with
  | [] | [_] | [_, _] | [_, _, _] | [_, _, _, _] =>
      rw [childrenOfList]
      · rfl
      · exact nofun
  | _ :: _ :: _ :: _ :: _ :: _ => rw [childrenOfList]; rfl

theorem toOption_ofValue (v : Value) : (ofValue v).toOption = (entries? v).bind ofEntries? := by
  cases v with
  | object members =>
      rw [ofValue, childrenOfMembers_eq]
      simp only [toOption_bind]
      rfl
  | array items =>
      obtain ⟨tag, older, data, key, text, children⟩ := lookup_places items
      rw [ofValue, childrenOfList_eq, entries?]
      by_cases short : items.length ≤ 5
      · have fits : ¬ 5 < items.length := Nat.not_lt.mpr short
        simp only [toOption_bind, if_pos short, if_neg fits, Option.bind_some, ofEntries?, tag,
          older, data, key, text, children, tagOf_none]
        cases textOf items[0]? <;> cases textOf items[3]? <;> cases childrenAt items[4]? <;> rfl
      · have long : 5 < items.length := Nat.not_le.mp short
        simp only [toOption_bind, if_neg short, if_pos long]
        cases textOf items[0]? <;> cases textOf items[3]? <;> cases childrenAt items[4]? <;> rfl
  | null | bool | number | string =>
      rw [ofValue]
      · rfl
      all_goals rintro _ ⟨⟩

/-! ## Single entries -/

theorem MayBeText.read {entry : Option Value} (may : MayBeText entry) :
    ∃ t, textOf entry = .ok t := by
  rcases may with rfl | rfl | ⟨s, rfl⟩
  · exact ⟨none, rfl⟩
  · exact ⟨none, rfl⟩
  · exact ⟨some s, rfl⟩

theorem textOf_ok {entry : Option Value} {t : Option String} (done : textOf entry = .ok t) :
    MayBeText entry ∧ ∀ s, t = some s ↔ entry = some (.string s) := by
  unfold textOf at done
  split at done
  · cases done
    exact ⟨.inl rfl, fun s => ⟨nofun, nofun⟩⟩
  · cases done
    exact ⟨.inr (.inl rfl), fun s => ⟨nofun, nofun⟩⟩
  · cases done
    refine ⟨.inr (.inr ⟨_, rfl⟩), fun s => ?_⟩
    rw [Option.some_inj, Option.some_inj, Value.string.injEq]
  · cases done

theorem none_tagOf (type : Option Value) : tagOf none type = textOf type := by
  change (textOf type >>= fun older => .ok (none <|> older)) = _
  cases textOf type <;> rfl

theorem tagOf_both (a b : Value) (t : Option String) : tagOf (some a) (some b) ≠ .ok t := by
  unfold tagOf
  cases textOf (some a) <;> exact nofun

theorem tagOf_ok {tp type : Option Value} {t : Option String} (done : tagOf tp type = .ok t) :
    (tp = none ∨ type = none) ∧ MayBeText tp ∧ MayBeText type ∧
      ∀ s, t = some s ↔ tp = some (.string s) ∨ type = some (.string s) := by
  cases tp with
  | none =>
      rw [none_tagOf] at done
      obtain ⟨may, same⟩ := textOf_ok done
      refine ⟨.inl rfl, .inl rfl, may, fun s => ?_⟩
      rw [same, or_iff_right nofun]
  | some a =>
      cases type with
      | none =>
          rw [tagOf_none] at done
          obtain ⟨may, same⟩ := textOf_ok done
          refine ⟨.inr rfl, may, .inl rfl, fun s => ?_⟩
          rw [same, or_iff_left nofun]
      | some b => exact absurd done (tagOf_both a b t)

theorem Fit.tag_read {entries : String → Option Value} (fit : Fit entries) :
    ∃ t, tagOf (entries "tp") (entries "type") = .ok t := by
  rcases fit.once with absent | absent
  · rw [absent, none_tagOf]
    exact fit.older.read
  · rw [absent, tagOf_none]
    exact fit.tag.read

theorem Fit.ofEntries? {entries : String → Option Value} (fit : Fit entries) {spans : List Span}
    (list : childrenAt (entries "children") = .ok spans) :
    ∃ span, ofEntries? entries = some span := by
  obtain ⟨tag, code⟩ := fit.tag_read
  obtain ⟨text, words⟩ := fit.text.read
  rw [Span.ofEntries?, list, words, code]
  exact ⟨_, rfl⟩

theorem dataOf_eq_some {entry : Option Value} {fields : Fields} :
    dataOf entry = some fields ↔
      ∃ members, fields = .ofMembers members ∧ entry = some (.object members) := by
  unfold dataOf
  rw [Option.bind_eq_some_iff]
  constructor
  · rintro ⟨v, rfl, isObject⟩
    cases v with
    | object members =>
        cases isObject
        exact ⟨members, rfl, rfl⟩
    | _ => cases isObject
  · rintro ⟨members, rfl, rfl⟩
    exact ⟨.object members, rfl, rfl⟩

theorem keyOf_eq_some {entry : Option Value} {k : UInt64} :
    keyOf entry = some k ↔
      ∃ w : Whole, entry = some (.number (.whole w)) ∧ w.val = k.toNat := by
  unfold keyOf
  split
  · rename_i w
    rw [Whole.toUInt64?_eq_some]
    constructor
    · exact fun same => ⟨w, rfl, same⟩
    · rintro ⟨w', ⟨⟩, same⟩
      exact same
  · rename_i other
    constructor
    · exact nofun
    · rintro ⟨w, same, -⟩
      exact absurd same (other w)

theorem childrenAt_ok {entry : Option Value} {spans : List Span} :
    childrenAt entry = .ok spans ↔ ∃ items, ListOf entry items ∧ ofValues items = .ok spans := by
  cases entry with
  | none =>
      constructor
      · intro done
        cases done
        exact ⟨[], .inl ⟨rfl, rfl⟩, by rw [ofValues]⟩
      · rintro ⟨items, ⟨-, rfl⟩ | absent, done⟩
        · rw [ofValues] at done
          exact done
        · cases absent
  | some v =>
      constructor
      · intro done
        change childrenOf v = _ at done
        cases v with
        | array items =>
            rw [childrenOf] at done
            exact ⟨items, .inr rfl, done⟩
        | _ => simp [childrenOf] at done
      · rintro ⟨items, ⟨absent, -⟩ | same, done⟩
        · cases absent
        · cases same
          change childrenOf _ = _
          rw [childrenOf, done]

theorem ofEntries?_parts {entries : String → Option Value} {span : Span}
    (done : ofEntries? entries = some span) :
    ∃ children text tag, (childrenAt (entries "children")).toOption = some children ∧
      (textOf (entries "text")).toOption = some text ∧
      (tagOf (entries "tp") (entries "type")).toOption = some tag ∧
      span = {
        tag := tag.map Tag.ofSpelling
        data := dataOf (entries "data")
        key := keyOf (entries "key")
        text
        children } := by
  obtain ⟨children, list, done⟩ := Option.bind_eq_some_iff.mp done
  obtain ⟨text, words, done⟩ := Option.bind_eq_some_iff.mp done
  obtain ⟨tag, code, done⟩ := Option.bind_eq_some_iff.mp done
  exact ⟨children, text, tag, list, words, code, (Option.some.inj done).symm⟩

theorem ofEntries?_eq_some {entries : String → Option Value} {span : Span}
    (done : ofEntries? entries = some span) :
    Fit entries ∧ Holds entries span ∧
      ∃ items, ListOf (entries "children") items ∧ ofValues items = .ok span.children := by
  obtain ⟨children, text, tag, list, words, code, rfl⟩ := ofEntries?_parts done
  obtain ⟨once, mayTag, mayOlder, tags⟩ := tagOf_ok (toOption_eq_some.mp code)
  obtain ⟨mayText, texts⟩ := textOf_ok (toOption_eq_some.mp words)
  refine ⟨⟨mayTag, mayOlder, once, mayText⟩, ⟨?_, ?_, ?_, texts⟩, ?_⟩
  · intro t
    constructor
    · intro same
      obtain ⟨s, present, rfl⟩ := Option.map_eq_some_iff.mp same
      exact ⟨s, rfl, (tags s).mp present⟩
    · rintro ⟨s, rfl, present⟩
      exact Option.map_eq_some_iff.mpr ⟨s, (tags s).mpr present, rfl⟩
  · exact fun fields => dataOf_eq_some
  · exact fun k => keyOf_eq_some
  · exact childrenAt_ok.mp (toOption_eq_some.mp list)

/-! ## Acceptance -/

theorem ofValues_ok {items : List Value}
    (accepted : ∀ item ∈ items, ∃ span, ofValue item = .ok span) :
    ∃ spans, ofValues items = .ok spans := by
  induction items with
  | nil => exact ⟨[], by rw [ofValues]⟩
  | cons item rest ih =>
      obtain ⟨span, first⟩ := accepted item List.mem_cons_self
      obtain ⟨spans, others⟩ := ih fun item member => accepted item (List.mem_cons_of_mem _ member)
      refine ⟨span :: spans, ?_⟩
      rw [ofValues, first, others]
      rfl

theorem WellFormed.accepted {v : Value} (wellFormed : WellFormed v) :
    ∃ span, ofValue v = .ok span := by
  induction wellFormed with
  | @intro v entries items has fit children below ih =>
      obtain ⟨spans, others⟩ := ofValues_ok ih
      obtain ⟨span, read⟩ := fit.ofEntries? (childrenAt_ok.mpr ⟨items, children, others⟩)
      refine ⟨span, toOption_eq_some.mp ?_⟩
      rw [toOption_ofValue, has, Option.bind_some, read]

mutual

theorem ofValue_describes (span : Span) {v : Value} (done : ofValue v = .ok span) :
    WellFormed v ∧ Describes v span := by
  match span with
  | ⟨tag, data, key, text, children⟩ =>
      have read := toOption_ofValue v
      rw [done] at read
      obtain ⟨entries, has, read⟩ := Option.bind_eq_some_iff.mp read.symm
      obtain ⟨fit, holds, items, list, others⟩ := ofEntries?_eq_some read
      obtain ⟨wellFormed, described⟩ := ofValues_describes children others
      exact ⟨.intro has fit list wellFormed, .intro has holds list described⟩

theorem ofValues_describes (spans : List Span) {vs : List Value} (done : ofValues vs = .ok spans) :
    (∀ v ∈ vs, WellFormed v) ∧ DescribeAll vs spans := by
  match spans, vs with
  | [], [] => exact ⟨nofun, .nil⟩
  | [], v :: vs =>
      rw [ofValues] at done
      obtain ⟨_, -, done⟩ := bind_eq_ok done
      obtain ⟨_, -, done⟩ := bind_eq_ok done
      cases done
  | span :: spans, [] => rw [ofValues] at done; cases done
  | span :: spans, v :: vs =>
      rw [ofValues] at done
      obtain ⟨_, first, done⟩ := bind_eq_ok done
      obtain ⟨_, others, done⟩ := bind_eq_ok done
      cases done
      obtain ⟨wellFormed, described⟩ := ofValue_describes span first
      obtain ⟨allWellFormed, allDescribed⟩ := ofValues_describes spans others
      refine ⟨?_, .cons described allDescribed⟩
      intro w member
      rcases List.mem_cons.mp member with rfl | member
      · exact wellFormed
      · exact allWellFormed w member

end

/-! ## Replacement -/

/-- Gives an entry another value; a list has only the entries that are there. -/
def setEntry (name : String) (w : Value) : Value → Value
  | .object members => .object (Members.insert name w members)
  | .array items => .array (items.set (places.idxOf name) w)
  | v => v

def childItems (v : Value) : List Value :=
  match (entries? v).bind (· "children") with
  | some (.array items) => items
  | _ => []

/-- The value that a path of children leads to. -/
def at? : List Nat → Value → Option Value
  | [], v => some v
  | i :: path, v => (childItems v)[i]?.bind (at? path)

/-- What the value at the end of a path gives for a name. -/
def entryAt? (path : List Nat) (name : String) (v : Value) : Option Value :=
  (at? path v).bind fun u => (entries? u).bind (· name)

def changeAt (change : Value → Value) : List Nat → Value → Value
  | [], v => change v
  | i :: path, v =>
    setEntry "children" (.array ((childItems v).modify i (changeAt change path))) v

def modifyAt (change : Span → Span) : List Nat → Span → Span
  | [], span => change span
  | i :: path, span =>
    { span with children := span.children.modify i (modifyAt change path) }

theorem lookup_zip_set {names : List String} {name : String} {items : List Value}
    (present : ((names.zip items).lookup name).isSome) (w : Value) (other : String) :
    (names.zip (items.set (names.idxOf name) w)).lookup other =
      if other = name then some w else (names.zip items).lookup other := by
  induction names generalizing items with
  | nil => cases present
  | cons first names ih =>
      cases items with
      | nil => cases present
      | cons item items =>
          rw [List.zip_cons_cons, Members.lookup_cons] at present
          rw [List.idxOf_cons, List.zip_cons_cons, Members.lookup_cons]
          by_cases same : first = name
          · subst same
            rw [beq_self_eq_true, cond_true, List.set_cons_zero, List.zip_cons_cons,
              Members.lookup_cons]
            split <;> rfl
          · rw [if_neg (Ne.symm same)] at present
            rw [beq_false_of_ne same, cond_false, List.set_cons_succ, List.zip_cons_cons,
              Members.lookup_cons, ih present]
            by_cases here : other = first
            · rw [if_pos here, if_neg (here ▸ same), if_pos here]
            · rw [if_neg here, if_neg here]

theorem entries?_setEntry {v : Value} {entries : String → Option Value} {name : String}
    (has : entries? v = some entries) (present : (entries name).isSome) (w : Value) :
    entries? (setEntry name w v) =
      some fun other => if other = name then some w else entries other := by
  cases v with
  | object members =>
      cases has
      exact congrArg some (funext fun other => Members.lookup_insert name w members other)
  | array items =>
      rw [entries?] at has
      split at has
      · rename_i short
        cases has
        rw [setEntry, entries?, List.length_set, if_pos short]
        exact congrArg some (funext fun other => lookup_zip_set present w other)
      · cases has
  | null | bool | number | string => cases has

theorem ofEntries?_data (entries : String → Option Value) (w : Value) :
    (ofEntries? fun name => if name = "data" then some w else entries name) =
      (ofEntries? entries).map fun span => { span with data := dataOf (some w) } := by
  simp only [ofEntries?, String.reduceEq, if_true, if_false]
  cases (childrenAt (entries "children")).toOption <;> cases (textOf (entries "text")).toOption <;>
    cases (tagOf (entries "tp") (entries "type")).toOption <;> rfl

theorem ofEntries?_key (entries : String → Option Value) (w : Value) :
    (ofEntries? fun name => if name = "key" then some w else entries name) =
      (ofEntries? entries).map fun span => { span with key := keyOf (some w) } := by
  simp only [ofEntries?, String.reduceEq, if_true, if_false]
  cases (childrenAt (entries "children")).toOption <;> cases (textOf (entries "text")).toOption <;>
    cases (tagOf (entries "tp") (entries "type")).toOption <;> rfl

theorem ofEntries?_children {entries : String → Option Value} {span : Span}
    (done : ofEntries? entries = some span) {w : Value} {spans : List Span}
    (list : childrenOf w = .ok spans) :
    (ofEntries? fun name => if name = "children" then some w else entries name) =
      some { span with children := spans } := by
  obtain ⟨children, text, tag, -, words, code, rfl⟩ := ofEntries?_parts done
  simp only [ofEntries?, String.reduceEq, if_true, if_false, childrenAt, list, words, code]
  rfl

theorem ofValue_eq_ok {v : Value} {entries : String → Option Value}
    (has : entries? v = some entries) {span : Span} :
    ofValue v = .ok span ↔ ofEntries? entries = some span := by
  rw [← toOption_eq_some, toOption_ofValue, has, Option.bind_some]

theorem ofValues_modify {items : List Value} {spans : List Span} (done : ofValues items = .ok spans)
    {i : Nat} {item : Value} (found : items[i]? = some item) {change : Value → Value}
    {effect : Span → Span}
    (changed : ∀ span, ofValue item = .ok span → ofValue (change item) = .ok (effect span)) :
    ofValues (items.modify i change) = .ok (spans.modify i effect) := by
  induction items generalizing i spans with
  | nil => cases found
  | cons first items ih =>
      rw [ofValues] at done
      obtain ⟨span, head, done⟩ := bind_eq_ok done
      obtain ⟨others, tail, done⟩ := bind_eq_ok done
      cases done
      cases i with
      | zero =>
          cases found
          rw [List.modify_zero_cons, List.modify_zero_cons, ofValues, changed span head, tail]
          rfl
      | succ i =>
          rw [List.modify_succ_cons, List.modify_succ_cons, ofValues, head, ih tail found]
          rfl

/-- A change of a value far down has its effect on the span that comes of it, and on no other. -/
theorem ofValue_changeAt (path : List Nat) {v u : Value} {span : Span} (found : at? path v = some u)
    {change : Value → Value} {effect : Span → Span}
    (changed : ∀ span, ofValue u = .ok span → ofValue (change u) = .ok (effect span))
    (done : ofValue v = .ok span) :
    ofValue (changeAt change path v) = .ok (span.modifyAt effect path) := by
  induction path generalizing v span with
  | nil =>
      cases found
      exact changed span done
  | cons i path ih =>
      obtain ⟨child, here, below⟩ := Option.bind_eq_some_iff.mp found
      have read := toOption_ofValue v
      rw [done] at read
      obtain ⟨entries, has, read⟩ := Option.bind_eq_some_iff.mp read.symm
      obtain ⟨-, -, items, list, others⟩ := ofEntries?_eq_some read
      rcases list with ⟨absent, -⟩ | present
      · rw [childItems, has, Option.bind_some, absent] at here
        cases here
      · have same : childItems v = items := by rw [childItems, has, Option.bind_some, present]
        rw [same] at here
        have rest := ofValues_modify others here (fun span done => ih below done)
        have after := entries?_setEntry has (present ▸ rfl : (entries "children").isSome)
          (.array (items.modify i (changeAt change path)))
        rw [changeAt, same, ofValue_eq_ok after]
        exact ofEntries?_children read (by rw [childrenOf]; exact rest)

/-- An entry that has its effect on one part of a span only may be changed anywhere. -/
theorem ofValue_setEntry (path : List Nat) {name : String} {v w : Value} {span : Span}
    {effect : Span → Span} (present : (entryAt? path name v).isSome)
    (changed : ∀ entries,
      (ofEntries? fun other => if other = name then some w else entries other) =
        (ofEntries? entries).map effect)
    (done : ofValue v = .ok span) :
    ofValue (changeAt (setEntry name w) path v) = .ok (span.modifyAt effect path) := by
  obtain ⟨old, entry⟩ := Option.isSome_iff_exists.mp present
  obtain ⟨u, found, entry⟩ := Option.bind_eq_some_iff.mp entry
  obtain ⟨entries, has, entry⟩ := Option.bind_eq_some_iff.mp entry
  refine ofValue_changeAt path found ?_ done
  intro s read
  have after := entries?_setEntry has (entry ▸ rfl : (entries name).isSome) w
  rw [ofValue_eq_ok has] at read
  rw [ofValue_eq_ok after, changed, read]
  rfl

end Span

theorem Document.ofValue_of_ne {v : Value} (present : v ≠ .null) :
    ofValue v =
      match Span.ofValue v with
      | .ok root => .ok root
      | .error cause => .error (.faulty cause none) := by
  cases v with
  | null => exact absurd rfl present
  | _ => rfl

theorem Document.ofValue_eq_missing {v : Value} : ofValue v = .error .missing ↔ v = .null := by
  constructor
  · intro failed
    apply Classical.byContradiction
    intro present
    rw [ofValue_of_ne present] at failed
    split at failed <;> cases failed
  · rintro rfl
    rfl

theorem Document.ofValue_eq_ok {v : Value} {span : Span} :
    ofValue v = .ok span ↔ Span.ofValue v = .ok span := by
  by_cases absent : v = .null
  · subst absent
    rw [Span.ofValue]
    · exact ⟨nofun, nofun⟩
    all_goals rintro _ ⟨⟩
  · rw [ofValue_of_ne absent]
    cases Span.ofValue v with
    | error cause => exact ⟨nofun, nofun⟩
    | ok root => rw [Except.ok.injEq, Except.ok.injEq]

/-! ## The statement -/

theorem Document.ofValue_grammar (v : Value) :
    (ofValue v = .error .missing ↔ v = .null) ∧
    ((∃ span, ofValue v = .ok span) ↔ Span.WellFormed v) ∧
    ∀ span, ofValue v = .ok span →
      Span.Describes v span ∧
      ∀ path w,
        ((Span.entryAt? path "data" v).isSome →
          ofValue (Span.changeAt (Span.setEntry "data" w) path v) =
            .ok (span.modifyAt (fun s => { s with data := Span.dataOf (some w) }) path)) ∧
        ((Span.entryAt? path "key" v).isSome →
          ofValue (Span.changeAt (Span.setEntry "key" w) path v) =
            .ok (span.modifyAt (fun s => { s with key := Span.keyOf (some w) }) path)) := by
  simp only [Document.ofValue_eq_ok]
  refine ⟨ofValue_eq_missing, ⟨?_, Span.WellFormed.accepted⟩, ?_⟩
  · rintro ⟨span, done⟩
    exact (Span.ofValue_describes span done).1
  · intro span done
    refine ⟨(Span.ofValue_describes span done).2, fun path w => ⟨?_, ?_⟩⟩
    · exact fun present => Span.ofValue_setEntry path present (Span.ofEntries?_data · w) done
    · exact fun present => Span.ofValue_setEntry path present (Span.ofEntries?_key · w) done

end RichText
