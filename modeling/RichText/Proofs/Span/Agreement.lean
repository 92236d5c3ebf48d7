import RichText.Document
import RichText.Proofs.Json.Spelling
import RichText.Proofs.Json.Words
import RichText.Proofs.Span.Grammar

/-!
# Documents from text and from values

A document may be read from its text or from the JSON value of the text. Main statement
(`parse_agrees`): both ways give the same span, both find that there is none, or both fail, if no
span has one of its fields twice.
-/
namespace RichText
open Json

namespace Span

/-! ## Spans in a spelled value -/

/-- The places of spans in a spelled value: the value itself, and all items of lists of children. -/
inductive Inside : Spelling → Spelling → Prop
  | root (x : Spelling) : Inside x x
  | member {members : List (String × Spelling)} {items : List Spelling} {item x : Spelling}
      (named : ("children", .array items) ∈ members) (listed : item ∈ items)
      (inside : Inside item x) : Inside (.object members) x
  | place {values items : List Spelling} {item x : Spelling}
      (fifth : values[4]? = some (.array items)) (listed : item ∈ items)
      (inside : Inside item x) : Inside (.array values) x

def fieldNames (members : List (String × Spelling)) : List String :=
  (members.map (·.1)).filter fun name => (Field.ofName? name).isSome

/-- No object at the place of a span spells the name of a field twice. -/
def FieldsOnce (x : Spelling) : Prop :=
  ∀ members, Inside x (.object members) → (fieldNames members).Nodup

theorem FieldsOnce.members {members : List (String × Spelling)}
    (once : FieldsOnce (.object members)) : (fieldNames members).Nodup :=
  once members (.root _)

theorem FieldsOnce.child {members : List (String × Spelling)} {items : List Spelling}
    (once : FieldsOnce (.object members)) (named : ("children", .array items) ∈ members) :
    ∀ item ∈ items, FieldsOnce item :=
  fun _ listed _ inside => once _ (.member named listed inside)

theorem FieldsOnce.place {values items : List Spelling} (once : FieldsOnce (.array values))
    (fifth : values[4]? = some (.array items)) : ∀ item ∈ items, FieldsOnce item :=
  fun _ listed _ inside => once _ (.place fifth listed inside)

/-! ## Fields one by one -/

def fill (field : Field) (v : Value) (span : Span) : Option Span :=
  match field with
  | .tag => (textOf (some v)).toOption.map fun tag => { span with tag := tag.map Tag.ofSpelling }
  | .data => some { span with data := dataOf (some v) }
  | .key => some { span with key := keyOf (some v) }
  | .text => (textOf (some v)).toOption.map fun text => { span with text }
  | .children => (childrenOf v).toOption.map fun children => { span with children }

def ofMembers? (fields : Members) : Option Span := ofEntries? fun name => fields.lookup name

theorem ofName?_eq_some {name : String} {field : Field} (named : Field.ofName? name = some field) :
    (field = .tag ∧ (name = "tp" ∨ name = "type")) ∨ (field = .data ∧ name = "data") ∨
      (field = .key ∧ name = "key") ∨ (field = .text ∧ name = "text") ∨
        (field = .children ∧ name = "children") := by
  unfold Field.ofName? at named
  split at named <;> cases named <;> simp

theorem ofEntries?_congr {entries others : String → Option Value}
    (same : ∀ name, (Field.ofName? name).isSome → entries name = others name) :
    ofEntries? entries = ofEntries? others := by
  unfold ofEntries?
  rw [same "tp" rfl, same "type" rfl, same "data" rfl, same "key" rfl, same "text" rfl,
    same "children" rfl]

theorem ofMembers?_insert_other {name : String} (other : Field.ofName? name = none) (v : Value)
    (fields : Members) : ofMembers? (fields.insert name v) = ofMembers? fields := by
  apply ofEntries?_congr
  intro known isKnown
  rw [Members.lookup_insert, if_neg]
  rintro rfl
  rw [other] at isKnown
  cases isKnown

theorem ofMembers?_insert {name : String} {field : Field} (named : Field.ofName? name = some field)
    {fields : Members} {span : Span} (before : ofMembers? fields = some span)
    (absent : ∀ name, Field.ofName? name = some field → fields.lookup name = none) (v : Value) :
    ofMembers? (fields.insert name v) = fill field v span := by
  obtain ⟨children, text, tag, list, words, code, rfl⟩ := ofEntries?_parts before
  unfold ofMembers? ofEntries?
  rcases ofName?_eq_some named with ⟨rfl, rfl | rfl⟩ | ⟨rfl, rfl⟩ | ⟨rfl, rfl⟩ | ⟨rfl, rfl⟩ |
    ⟨rfl, rfl⟩
  all_goals simp only [Members.lookup_insert, String.reduceEq, if_true, if_false]
  · rw [list, words, absent "type" rfl, tagOf_none, fill]
    cases textOf (some v) <;> rfl
  · rw [list, words, absent "tp" rfl, none_tagOf, fill]
    cases textOf (some v) <;> rfl
  · rw [list, words, code]
    rfl
  · rw [list, words, code]
    rfl
  · rw [list, code, fill]
    cases textOf (some v) <;> rfl
  · rw [words, code, fill]
    change ((childrenOf v).toOption >>= _) = _
    cases childrenOf v <;> rfl

/-- A field that is given under both of its names is out of place. -/
theorem ofMembers?_insert_twice {name other : String} {field : Field}
    (named : Field.ofName? name = some field) (otherNamed : Field.ofName? other = some field)
    (different : other ≠ name) {fields : Members} (present : fields.lookup other ≠ none)
    (v : Value) : ofMembers? (fields.insert name v) = none := by
  apply Option.eq_none_iff_forall_ne_some.mpr
  intro span done
  obtain ⟨⟨_, _, once, _⟩, -, -⟩ := ofEntries?_eq_some done
  simp only [Members.lookup_insert] at once
  rcases ofName?_eq_some named with ⟨rfl, rfl | rfl⟩ | ⟨rfl, rfl⟩ | ⟨rfl, rfl⟩ | ⟨rfl, rfl⟩ |
    ⟨rfl, rfl⟩ <;>
  rcases ofName?_eq_some otherNamed with ⟨same, rfl | rfl⟩ | ⟨same, rfl⟩ | ⟨same, rfl⟩ |
    ⟨same, rfl⟩ | ⟨same, rfl⟩ <;>
  simp_all

/-! ## Fields to come -/

theorem lookup_settle {members : List (String × Spelling)} {name : String}
    (absent : name ∉ members.map (·.1)) (fields : Members) :
    (Spelling.settle fields members).lookup name = fields.lookup name := by
  induction members generalizing fields with
  | nil => rfl
  | cons member rest ih =>
      obtain ⟨first, x⟩ := member
      rw [List.map_cons, List.mem_cons, not_or] at absent
      rw [Spelling.settle, ih absent.2, Members.lookup_insert, if_neg absent.1]

/-- What is wrong with some fields stays wrong when others follow. -/
theorem ofMembers?_settle {fields : Members} {members : List (String × Spelling)}
    (fresh : ∀ name ∈ fieldNames members, fields.lookup name = none)
    (wrong : ofMembers? fields = none) : ofMembers? (Spelling.settle fields members) = none := by
  apply Option.eq_none_iff_forall_ne_some.mpr
  intro span done
  obtain ⟨⟨tag, older, once, text⟩, -, items, list, children⟩ := ofEntries?_eq_some done
  -- A name that is taken already is not given again.
  have keeps : ∀ name, (Field.ofName? name).isSome → fields.lookup name = none ∨
      (Spelling.settle fields members).lookup name = fields.lookup name := by
    intro name isKnown
    by_cases later : name ∈ members.map (·.1)
    · exact .inl (fresh name (List.mem_filter.mpr ⟨later, isKnown⟩))
    · exact .inr (lookup_settle later fields)
  have mayBeText : ∀ name, (Field.ofName? name).isSome →
      MayBeText ((Spelling.settle fields members).lookup name) →
      MayBeText (fields.lookup name) := by
    intro name isKnown may
    rcases keeps name isKnown with absent | same
    · exact .inl absent
    · rwa [same] at may
  have fit : Fit fun name => fields.lookup name := by
    refine ⟨mayBeText "tp" rfl tag, mayBeText "type" rfl older, ?_, mayBeText "text" rfl text⟩
    rcases keeps "tp" rfl with absent | same
    · exact .inl absent
    · rcases keeps "type" rfl with absent | same'
      · exact .inr absent
      · rwa [same, same'] at once
  have accepted : ∃ spans, childrenAt (fields.lookup "children") = .ok spans := by
    rcases keeps "children" rfl with absent | same
    · exact ⟨[], by rw [absent]; rfl⟩
    · rw [same] at list
      exact ⟨_, childrenAt_ok.mpr ⟨items, list, children⟩⟩
  obtain ⟨spans, accepted⟩ := accepted
  obtain ⟨earlier, read⟩ := fit.ofEntries? accepted
  change ofMembers? fields = _ at read
  rw [wrong] at read
  cases read

/-- The values of a list, put with fields by names that are new. -/
theorem lookup_settle_zip {names : List String} (different : names.Nodup) (items : List Spelling)
    (fields : Members) (name : String) :
    (Spelling.settle fields (names.zip items)).lookup name =
      ((names.zip (Spelling.values items)).lookup name).or (fields.lookup name) := by
  induction names generalizing items fields with
  | nil => rfl
  | cons first names ih =>
      cases items with
      | nil => rfl
      | cons x items =>
          obtain ⟨new, different⟩ := List.nodup_cons.mp different
          rw [List.zip_cons_cons, Spelling.settle, ih different, Members.lookup_insert,
            Spelling.values, List.zip_cons_cons, Members.lookup_cons]
          by_cases same : name = first
          · subst same
            have absent : (names.zip (Spelling.values items)).lookup name = none := by
              rw [List.lookup_eq_none_iff]
              rintro ⟨known, v⟩ member
              rw [bne_iff_ne]
              rintro rfl
              exact new (List.of_mem_zip member).1
            rw [absent, if_pos rfl, if_pos rfl]
            rfl
          · rw [if_neg same, if_neg same]

/-! ## Reading a field -/

theorem readText_spells {s rest : List Char} {x : Spelling} (spells : Spells s x rest) :
    (readText s).toOption = (textOf (some x.value)).toOption.map (·, rest) := by
  unfold readText
  cases spells with
  | null start word =>
      rw [start]
      change (keyword _ _ >>= _).toOption = _
      rw [word]
      rfl
  | string start word =>
      rw [start]
      change (Json.string _ >>= _).toOption = _
      rw [word]
      rfl
  | number start digit =>
      rw [start]
      split
      · rename_i head
        cases head
        cases digit
      · rename_i head
        cases head
        cases digit
      · rfl
  | true start | false start | array start | object start =>
      rw [start]
      rfl

theorem closeList_more {first : Bool} {s t : List Char}
    (next : nextItem first s = .ok (.entry t)) : (closeList s).toOption = none := by
  obtain ⟨⟨c, r, rfl, more⟩, place⟩ := nextItem_entry next
  unfold closeList
  split
  · rfl
  · rename_i start
    rw [start] at place
    split at place
    · cases place
      exact absurd rfl more
    · obtain ⟨_, same, -⟩ := place
      cases same
  · split <;> rfl
  · rfl

/-- What was read of a span: its fields and which of them they are. -/
structure Begun (fields : Members) (seen : List Field) (span : Span) : Prop where
  value : ofMembers? fields = some span
  seen : ∀ field, field ∈ seen ↔
    ∃ name, Field.ofName? name = some field ∧ fields.lookup name ≠ none

theorem Begun.other {fields : Members} {seen : List Field} {span : Span}
    (begun : Begun fields seen span) {name : String} (other : Field.ofName? name = none)
    (v : Value) : Begun (fields.insert name v) seen span := by
  refine ⟨by rw [ofMembers?_insert_other other, begun.value], fun field => ?_⟩
  rw [begun.seen]
  apply exists_congr
  intro known
  apply and_congr_right
  intro named
  rw [Members.lookup_insert, if_neg]
  rintro rfl
  rw [other] at named
  cases named

theorem Begun.absent {fields : Members} {seen : List Field} {span : Span}
    (begun : Begun fields seen span) {field : Field} (new : field ∉ seen) {name : String}
    (named : Field.ofName? name = some field) : fields.lookup name = none := by
  apply Classical.byContradiction
  intro present
  exact new ((begun.seen field).mpr ⟨name, named, present⟩)

theorem Begun.insert {fields : Members} {seen : List Field} {span next : Span}
    (begun : Begun fields seen span) {field : Field} (new : field ∉ seen) {name : String}
    (named : Field.ofName? name = some field) {v : Value} (filled : fill field v span = some next) :
    Begun (fields.insert name v) (field :: seen) next := by
  have value := ofMembers?_insert named begun.value (fun _ => begun.absent new) v
  refine ⟨by rw [value, filled], fun other => ?_⟩
  rw [List.mem_cons, begun.seen]
  constructor
  · rintro (rfl | ⟨known, otherNamed, present⟩)
    · exact ⟨name, named, by rw [Members.lookup_insert, if_pos rfl]; exact nofun⟩
    · refine ⟨known, otherNamed, ?_⟩
      rw [Members.lookup_insert]
      split
      · exact nofun
      · exact present
  · rintro ⟨known, otherNamed, present⟩
    rw [Members.lookup_insert] at present
    split at present
    · rename_i same
      subst same
      rw [named] at otherNamed
      exact .inl (Option.some.inj otherNamed).symm
    · exact .inr ⟨known, otherNamed, present⟩

/-- The values that children are read from have their fields once. -/
def ChildrenOnce (field : Field) (x : Spelling) : Prop :=
  field = .children → ∀ items, x = .array items → ∀ item ∈ items, FieldsOnce item

theorem fieldNames_cons (name : String) (x : Spelling) (members : List (String × Spelling)) :
    fieldNames ((name, x) :: members) =
      if (Field.ofName? name).isSome then name :: fieldNames members else fieldNames members := by
  unfold fieldNames
  rw [List.map_cons, List.filter_cons]

theorem not_mem_fieldNames {name : String} (other : Field.ofName? name = none)
    (members : List (String × Spelling)) : name ∉ fieldNames members := by
  intro listed
  have isKnown := (List.mem_filter.mp listed).2
  rw [other] at isKnown
  cases isKnown

theorem fresh_insert {names : List String} {fields : Members} {name : String}
    (fresh : ∀ n ∈ names, fields.lookup n = none) (new : name ∉ names) (v : Value) :
    ∀ n ∈ names, (fields.insert name v).lookup n = none := by
  intro n listed
  rw [Members.lookup_insert, if_neg, fresh n listed]
  rintro rfl
  exact new listed

def Absent (places : List Field) (fields : Members) : Prop :=
  ∀ field ∈ places, ∀ name, Field.ofName? name = some field → fields.lookup name = none

theorem Absent.insert {field : Field} {places : List Field} {fields : Members}
    (absent : Absent (field :: places) fields) (new : field ∉ places) (v : Value) :
    Absent places (fields.insert field.name v) := by
  intro later listed name named
  rw [Members.lookup_insert, if_neg, absent later (List.mem_cons_of_mem _ listed) name named]
  rintro rfl
  rw [Field.ofName?_name] at named
  cases named
  exact new listed

theorem Absent.fresh {places : List Field} {fields : Members} (absent : Absent places fields)
    (items : List Spelling) :
    ∀ name ∈ fieldNames ((places.map Field.name).zip items), fields.lookup name = none := by
  intro name listed
  obtain ⟨⟨_, x⟩, entry, rfl⟩ := List.mem_map.mp (List.mem_filter.mp listed).1
  obtain ⟨field, member, rfl⟩ := List.mem_map.mp (List.of_mem_zip entry).1
  exact absent field member _ (Field.ofName?_name field)

theorem childrenOnce_of_list {values : List Spelling} (once : FieldsOnce (.array values)) :
    ∀ place ∈ Field.all.zip values, ChildrenOnce place.1 place.2 := by
  rintro ⟨field, x⟩ listed rfl items rfl
  apply once.place
  match values with
  | [] | [_] | [_, _] | [_, _, _] | [_, _, _, _] => simp [Field.all] at listed
  | _ :: _ :: _ :: _ :: fifth :: _ =>
      simp only [Field.all, List.zip_cons_cons, List.zip_nil_left, List.mem_cons, Prod.mk.injEq,
        reduceCtorEq, false_and, true_and, false_or, or_false, List.not_mem_nil] at listed
      rw [listed]
      rfl

theorem childrenOnce_of_object {members : List (String × Spelling)}
    (once : FieldsOnce (.object members)) : ∀ member ∈ members, ∀ field,
      Field.ofName? member.1 = some field → ChildrenOnce field member.2 := by
  rintro ⟨name, x⟩ listed field named rfl items rfl
  rcases ofName?_eq_some named with ⟨same, -⟩ | ⟨same, -⟩ | ⟨same, -⟩ | ⟨same, -⟩ | ⟨-, rfl⟩
  · cases same
  · cases same
  · cases same
  · cases same
  · exact once.child listed

theorem entries?_list (items : List Spelling) :
    (entries? (.array (Spelling.values items))).bind ofEntries? =
      if items.length ≤ Field.all.length then
        ofMembers? (Spelling.settle [] ((Field.all.map Field.name).zip items))
      else none := by
  have length : (Spelling.values items).length = items.length := by
    rw [Spelling.values_eq, List.length_map]
  have settled : ofMembers? (Spelling.settle [] ((Field.all.map Field.name).zip items)) =
      ofEntries? fun name => (places.zip (Spelling.values items)).lookup name := by
    apply ofEntries?_congr
    intro name _
    rw [lookup_settle_zip (by decide)]
    exact Option.or_none
  rw [entries?, length, settled]
  split
  · rw [if_pos (by assumption)]
    rfl
  · rw [if_neg (by assumption)]
    rfl

-- The induction is on the bound. A character costs two of it at most: a bracket takes one step, and
-- to turn to what it opens takes another.
mutual

theorem read_spells (bound : Nat) {s rest : List Char} {x : Spelling} (spells : Spells s x rest)
    (once : FieldsOnce x) (enough : 2 * s.length ≤ 2 * rest.length + bound) :
    (read bound s).toOption = (ofValue x.value).toOption.map (·, rest) := by
  have shorter := spells.shorter
  match bound with
  | 0 => omega
  | bound + 1 =>
      rw [read]
      cases spells with
      | @array _ t _ items start inside =>
          have := length_of_skipBlanks start
          have empty : ofMembers? [] = some { } := rfl
          have read := readPlaces_spells bound inside (childrenOnce_of_list once) (by decide)
            empty (fun _ _ _ _ => rfl) (by omega)
          rw [start]
          change (readPlaces bound Field.all true { } t).toOption = _
          rw [read, toOption_ofValue, Spelling.value, entries?_list]
          split <;> rfl
      | @object _ t _ members start inside =>
          have := length_of_skipBlanks start
          have begun : Begun [] [] { } :=
            ⟨rfl, fun field => ⟨nofun, fun ⟨_, _, present⟩ => absurd rfl present⟩⟩
          have read := readMembers_spells bound inside (childrenOnce_of_object once) once.members
            begun (fun _ _ => rfl) (by omega)
          rw [start]
          change (readMembers bound [] true { } t).toOption = _
          rw [read, toOption_ofValue, Spelling.value]
          rfl
      | number start digit =>
          rw [start, toOption_ofValue]
          split
          · rename_i head
            cases head
            cases digit
          · rename_i head
            cases head
            cases digit
          · rfl
      | null start | true start | false start | string start =>
          rw [start, toOption_ofValue]
          rfl

theorem readPlaces_spells (bound : Nat) {places : List Field} {first : Bool} {s rest : List Char}
    {items : List Spelling} (spells : SpellsItems first s items rest)
    (below : ∀ place ∈ places.zip items, ChildrenOnce place.1 place.2) (different : places.Nodup)
    {fields : Members} {span : Span} (before : ofMembers? fields = some span)
    (absent : Absent places fields)
    (enough : 2 * s.length ≤ 2 * rest.length + bound) :
    (readPlaces bound places first span s).toOption =
      if items.length ≤ places.length then
        (ofMembers? (Spelling.settle fields ((places.map Field.name).zip items))).map (·, rest)
      else none := by
  have shorter := spells.shorter
  match bound with
  | 0 => omega
  | bound + 1 =>
      cases places with
      | nil =>
          rw [readPlaces]
          cases spells with
          | closed next =>
              have closed := nextItem_closed next
              rw [closeList, closed]
              change some (span, rest) = _
              rw [List.length_nil, if_pos (Nat.zero_le _), List.map_nil, List.zip_nil_left,
                Spelling.settle, before]
              rfl
          | entry next =>
              rw [toOption_bind, closeList_more next]
              rfl
      | cons field places =>
          rw [readPlaces]
          cases spells with
          | closed next =>
              rw [next, List.length_nil, if_pos (Nat.zero_le _), List.zip_nil_right,
                Spelling.settle, before]
              rfl
          | @entry _ _ t u _ x items next item others =>
              have := nextItem_length next
              have := item.shorter
              have := others.shorter
              obtain ⟨new, different⟩ := List.nodup_cons.mp different
              have read := readField_spells bound field item (below _ List.mem_cons_self) span
                (by omega)
              have settled := ofMembers?_insert (Field.ofName?_name field) before
                (absent field List.mem_cons_self) x.value
              have absentLater := absent.insert new x.value
              rw [next]
              change (readField bound field span t >>= _).toOption = _
              rw [toOption_bind, read, List.map_cons, List.zip_cons_cons, Spelling.settle]
              cases filled : fill field x.value span with
              | none =>
                  rw [ofMembers?_settle (absentLater.fresh items) (settled.trans filled)]
                  split <;> rfl
              | some next =>
                  have read := readPlaces_spells bound others
                    (fun place listed => below place (List.mem_cons_of_mem _ listed)) different
                    (settled.trans filled) absentLater (by omega)
                  change (readPlaces bound places false next u).toOption = _
                  rw [read]
                  simp only [List.length_cons, Nat.succ_le_succ_iff]

theorem readMembers_spells (bound : Nat) {first : Bool} {s rest : List Char}
    {members : List (String × Spelling)} (spells : SpellsMembers first s members rest)
    (below : ∀ member ∈ members, ∀ field, Field.ofName? member.1 = some field →
      ChildrenOnce field member.2)
    (once : (fieldNames members).Nodup) {fields : Members} {seen : List Field} {span : Span}
    (begun : Begun fields seen span)
    (fresh : ∀ name ∈ fieldNames members, fields.lookup name = none)
    (enough : 2 * s.length ≤ 2 * rest.length + bound) :
    (readMembers bound seen first span s).toOption =
      (ofMembers? (Spelling.settle fields members)).map (·, rest) := by
  have shorter := spells.shorter
  match bound with
  | 0 => omega
  | bound + 1 =>
      rw [readMembers]
      cases spells with
      | closed next =>
          rw [next, Spelling.settle, begun.value]
          rfl
      | @entry _ _ q c t u _ name x members next word sign member others =>
          have := nextMember_length next
          have := (string_ok word).2
          have := length_of_skipBlanks (colon_ok sign)
          have := member.shorter
          have := others.shorter
          have belowOthers := fun m listed => below m (List.mem_cons_of_mem _ listed)
          rw [fieldNames_cons] at once fresh
          rw [next]
          change (Json.string q >>= _).toOption = _
          rw [word, Spelling.settle]
          cases named : Field.ofName? name with
          | none =>
              simp only [named, Option.isSome_none, Bool.false_eq_true, if_false] at once fresh
              have read := readMembers_spells bound others belowOthers once
                (begun.other named x.value)
                (fresh_insert fresh (not_mem_fieldNames named members) x.value) (by omega)
              rw [← read]
              simp only [bind, Except.bind, named, sign, skip_spells x member bound (by omega)]
          | some field =>
              simp only [named, Option.isSome_some, if_true] at once fresh
              obtain ⟨new, once⟩ := List.nodup_cons.mp once
              have freshOthers := fresh_insert
                (fun n listed => fresh n (List.mem_cons_of_mem _ listed)) new x.value
              -- No name is spelled twice, so a field that was seen had its other name.
              by_cases again : field ∈ seen
              · obtain ⟨other, otherNamed, present⟩ := (begun.seen field).mp again
                have different : other ≠ name := by
                  rintro rfl
                  exact present (fresh _ List.mem_cons_self)
                have wrong := ofMembers?_insert_twice named otherNamed different present x.value
                rw [ofMembers?_settle freshOthers wrong]
                simp only [bind, Except.bind, named, again, if_true]
                rfl
              · have read := readField_spells bound field member
                  (below _ List.mem_cons_self field named) span (by omega)
                have settled := ofMembers?_insert named begun.value (fun _ => begun.absent again)
                  x.value
                simp only [bind, Except.bind, named, again, if_false, sign]
                change (readField bound field span t >>= _).toOption = _
                rw [toOption_bind, read]
                cases filled : fill field x.value span with
                | none =>
                    rw [ofMembers?_settle freshOthers (settled.trans filled)]
                    rfl
                | some next =>
                    exact readMembers_spells bound others belowOthers once
                      (begun.insert again named filled) freshOthers (by omega)

theorem readField_spells (bound : Nat) (field : Field) {s rest : List Char} {x : Spelling}
    (spells : Spells s x rest) (below : ChildrenOnce field x) (span : Span)
    (enough : 2 * s.length + 1 ≤ 2 * rest.length + bound) :
    (readField bound field span s).toOption = (fill field x.value span).map (·, rest) := by
  have shorter := spells.shorter
  match bound with
  | 0 => omega
  | bound + 1 =>
      cases field with
      | tag =>
          rw [readField, toOption_bind, readText_spells spells, fill]
          cases textOf (some x.value) <;> rfl
      | text =>
          rw [readField, toOption_bind, readText_spells spells, fill]
          cases textOf (some x.value) <;> rfl
      | data =>
          rw [readField, spells.value x bound (by omega)]
          rfl
      | key =>
          rw [readField, spells.value x bound (by omega)]
          rfl
      | children =>
          rw [readField, fill]
          cases spells with
          | @array _ t _ items start inside =>
              have := length_of_skipBlanks start
              have read := readAll_spells bound [] inside (below rfl items rfl)
                (by omega)
              rw [start, Spelling.value, childrenOf]
              change (readAll bound [] t >>= _).toOption = _
              rw [toOption_bind, read]
              cases ofValues (Spelling.values items) <;> rfl
          | number start digit =>
              rw [start, Spelling.value, childrenOf]
              · split
                · rename_i head
                  cases head
                  cases digit
                · rfl
              · exact nofun
          | null start | true start | false start | string start | object start =>
              rw [start, Spelling.value, childrenOf]
              · rfl
              · exact nofun

theorem readAll_spells (bound : Nat) (taken : List Span) {s rest : List Char}
    {items : List Spelling} (spells : SpellsItems taken.isEmpty s items rest)
    (once : ∀ item ∈ items, FieldsOnce item)
    (enough : 2 * s.length ≤ 2 * rest.length + bound) :
    (readAll bound taken s).toOption =
      (ofValues (Spelling.values items)).toOption.map
        fun spans => (taken.reverse ++ spans, rest) := by
  have shorter := spells.shorter
  match bound with
  | 0 => omega
  | bound + 1 =>
      rw [readAll]
      cases spells with
      | closed next =>
          rw [next, Spelling.values, ofValues]
          change some (taken.reverse, rest) = some (taken.reverse ++ [], rest)
          rw [List.append_nil]
      | @entry _ _ t u _ x items next item others =>
          have := nextItem_length next
          have := item.shorter
          have := others.shorter
          have first := read_spells bound item (once _ List.mem_cons_self) (by omega)
          rw [next, Spelling.values, ofValues]
          change (read bound t >>= _).toOption = _
          rw [toOption_bind, toOption_bind, first]
          cases ofValue x.value with
          | error => rfl
          | ok span =>
              have tail := readAll_spells bound (span :: taken) others
                (fun item listed => once item (List.mem_cons_of_mem _ listed)) (by omega)
              change (readAll bound (span :: taken) u).toOption = _
              rw [tail]
              cases ofValues (Spelling.values items) with
              | error => rfl
              | ok spans =>
                  change some ((span :: taken).reverse ++ spans, rest) = some (_ ++ _ :: spans, _)
                  rw [List.reverse_cons, List.append_assoc, List.singleton_append]

end

theorem eq_null_of_spells {s t rest : List Char} {x : Spelling} (spells : Spells s x rest)
    (start : skipBlanks s = 'n' :: t) : x = .null := by
  cases spells with
  | null => rfl
  | number start' digit =>
      rw [start] at start'
      cases start'
      cases digit
  | true start' | false start' | string start' | array start' | object start' =>
      rw [start] at start'
      cases start'

theorem ofText?_null {text : List Char} (spelled : Spelled text .null) :
    ofText? text = .ok none := by
  obtain ⟨rest, spells, blank⟩ := spelled
  cases spells with
  | null start word =>
      rw [ofText?, start]
      change (keyword _ _ >>= _) = _
      rw [word]
      change (endOfText rest >>= _) = _
      rw [blank]
      rfl

theorem ofText?_spelled {text : List Char} {x : Spelling} (spelled : Spelled text x)
    (present : x ≠ .null) (once : FieldsOnce x) :
    (ofText? text).toOption = (ofValue x.value).toOption.map some := by
  obtain ⟨rest, spells, blank⟩ := spelled
  unfold ofText?
  split
  · rename_i start
    exact absurd (eq_null_of_spells spells start) present
  · have behind := spells.congr (skipBlanks_idem text).symm
    have read := read_spells (4 * (skipBlanks text).length + 4) behind once (by omega)
    rw [toOption_bind, read]
    cases ofValue x.value with
    | error => rfl
    | ok span =>
        change (endOfText rest >>= _).toOption = _
        rw [blank]
        rfl

end Span

theorem Document.parse_eq_missing {json : String} :
    parse json = .error .missing ↔ Span.ofText? json.toList = .ok none := by
  dsimp only [parse]
  split <;> simp_all

theorem Document.parse_eq_ok {json : String} {span : Span} :
    parse json = .ok span ↔ Span.ofText? json.toList = .ok (some span) := by
  dsimp only [parse]
  split <;> simp_all

theorem Document.agree_of_iff {a b : Except Problem Span}
    (same : (∀ span, a = .ok span ↔ b = .ok span) ∧ (a = .error .missing ↔ b = .error .missing)) :
    (∀ span, a = .ok span ↔ b = .ok span) ∧ (a = .error .missing ↔ b = .error .missing) ∧
      ((∃ cause place, a = .error (.faulty cause place)) ↔
        ∃ cause place, b = .error (.faulty cause place)) := by
  obtain ⟨read, missing⟩ := same
  refine ⟨read, missing, ?_⟩
  rcases a with (_ | ⟨cause, place⟩) | span <;> rcases b with (_ | ⟨cause', place'⟩) | span' <;>
    simp_all

/-! ## The statement -/

theorem Document.parse_agrees {json : String} {v : Value}
    (accepted : Value.ofText json.toList = .ok v)
    (once : ∀ x, Spelled json.toList x → Span.FieldsOnce x) :
    (∀ span, parse json = .ok span ↔ ofValue v = .ok span) ∧
      (parse json = .error .missing ↔ ofValue v = .error .missing) ∧
      ((∃ cause place, parse json = .error (.faulty cause place)) ↔
        ∃ cause place, ofValue v = .error (.faulty cause place)) := by
  apply agree_of_iff
  obtain ⟨x, spelled, rfl⟩ := (value_iff_spells _ v).mp accepted
  simp only [parse_eq_ok, parse_eq_missing, ofValue_eq_ok, ofValue_eq_missing]
  by_cases absent : x = .null
  · subst absent
    rw [Span.ofText?_null spelled, Spelling.value, Span.ofValue]
    · refine ⟨fun span => ⟨?_, ?_⟩, fun _ => rfl, fun _ => rfl⟩ <;> rintro ⟨⟩
    all_goals rintro _ ⟨⟩
  · have read := Span.ofText?_spelled spelled absent (once x spelled)
    have present : x.value ≠ .null := by
      cases x with
      | null => exact absurd rfl absent
      | _ => rintro ⟨⟩
    refine ⟨fun span => ?_, fun missing => ?_, fun null => absurd null present⟩
    · rw [← Span.toOption_eq_some, ← Span.toOption_eq_some, read, Option.map_eq_some_iff]
      simp
    · rw [missing] at read
      cases accepted : Span.ofValue x.value <;> rw [accepted] at read <;> cases read

/-- Names may be repeated where they name no field of a span: here a name that no span has, and one
in the data of a child. -/
theorem Document.parse_agrees_repeated :
    parse "\x7b\"x\":0,\"x\":[],\"type\":\"BR\",\"children\":[[\"ST\",\x7b\"tp\":0,\"tp\":null\x7d]]\x7d" =
      .ok (.withChildren (.ofTag .lineBreak)
        [.withData (.ofTag .strong) (.object [("tp", .null)])]) := by
  have spelled : Spelled
      "\x7b\"x\":0,\"x\":[],\"type\":\"BR\",\"children\":[[\"ST\",\x7b\"tp\":0,\"tp\":null\x7d]]\x7d".toList
      (.object [("x", .number (.whole ⟨0, by decide, by decide⟩)), ("x", .array []),
        ("type", .string "BR"),
        ("children", .array [.array [.string "ST",
          .object [("tp", .number (.whole ⟨0, by decide, by decide⟩)), ("tp", .null)]]])]) :=
    ⟨[], .object rfl
      (.entry rfl (string_writeTail "x" _) rfl (.number rfl rfl rfl)
      (.entry rfl (string_writeTail "x" _) rfl (.array rfl (.closed rfl))
      (.entry rfl (string_writeTail "type" _) rfl (.string rfl (string_writeTail "BR" _))
      (.entry rfl (string_writeTail "children" _) rfl
        (.array rfl (.entry rfl
          (.array rfl
            (.entry rfl (.string rfl (string_writeTail "ST" _))
            (.entry rfl
              (.object rfl
                (.entry rfl (string_writeTail "tp" _) rfl (.number rfl rfl rfl)
                (.entry rfl (string_writeTail "tp" _) rfl (.null rfl rfl)
                (.closed rfl))))
            (.closed rfl))))
          (.closed rfl)))
      (.closed rfl))))), rfl⟩
  have accepted := (value_iff_spells _ _).mpr ⟨_, spelled, rfl⟩
  have agrees := parse_agrees accepted fun x other => by
    rw [spelled.unique other]
    intro members inside
    cases inside with
    | root => decide
    | member named listed inside =>
        simp only [List.mem_cons, Prod.mk.injEq, String.reduceEq, false_and, true_and, false_or,
          Spelling.array.injEq, List.not_mem_nil, or_false] at named
        subst named
        rw [List.mem_singleton.mp listed] at inside
        cases inside with
        | place fifth => cases fifth
  exact (agrees.1 _).mpr rfl

end RichText
