import RichText.Document
import RichText.Proofs.Json.RoundTrip
import RichText.Proofs.Span.Every
import RichText.Span.Writer

/-!
# Written spans

Main statement (`parse_compact`): the compact text of a span reads back as the span, if its tags are
what their spellings stand for and its data holds no doubles. The fields of its data are in order by
their type, so the reader puts each of them where it stood.
-/
namespace RichText
open Json

/-- Whether the spelling of a tag stands for it: no unknown tag is spelled like a known one. -/
def Tag.isCanonical : Tag → Bool
  | .other s => !(Tag.ofSpelling s).isKnown
  | _ => true

theorem Tag.ofSpelling_canonical {t : Tag} (canonical : t.isCanonical) :
    Tag.ofSpelling t.spelling = t := by
  cases t with
  | other s =>
      have unknown : (Tag.ofSpelling s).isKnown = false := by simpa [isCanonical] using canonical
      have same := Tag.spelling_ofSpelling s
      rw [spelling]
      cases h : Tag.ofSpelling s with
      | other s' =>
          rw [h, spelling] at same
          rw [same]
      | _ => rw [h] at unknown; cases unknown
  | _ => exact Tag.ofSpelling_spelling rfl

namespace Span

def hasCanonicalTag (span : Span) : Bool := span.tag.all Tag.isCanonical

def hasNoDouble (span : Span) : Bool :=
  span.data.all fun fields => fields.toValue.every Value.isNoDouble

/-! ## Fields -/

def members (span : Span) : List (String × Value) :=
  field "tp" (span.tag.map fun t => .string t.spelling) ++
  (field "data" (span.data.map Fields.toValue) ++
  (field "key" (span.key.map fun k => .number (.whole (.ofUInt64 k))) ++
  (field "text" (span.text.map .string) ++
  (field "children"
    (if span.children.isEmpty then none else some (.array (toValues span.children))) ++
  []))))

theorem toValue_eq (span : Span) : span.toValue = .object span.members := by
  obtain ⟨tag, data, key, text, children⟩ := span
  simp only [toValue, members, List.append_assoc, List.append_nil]

theorem write_toValue (span : Span) :
    span.toValue.write = '\x7b' :: membersText true span.members := by
  rw [toValue_eq, write_object]

/-- Reading these fields in this order makes of one span the other. -/
inductive Fills : List Field → List (String × Value) → Span → Span → Prop
  | nil (seen : List Field) (span : Span) : Fills seen [] span span
  | cons {seen : List Field} {field : Field} {v : Value} {fields : List (String × Value)}
      {span next last : Span} (new : field ∉ seen)
      (reads : ∀ bound rest, Ends rest → v.write.length ≤ bound →
        readField (bound + 1) field span (v.write ++ rest) = .ok (next, rest))
      (others : Fills (field :: seen) fields next last) :
      Fills seen ((field.name, v) :: fields) span last

theorem Fills.forget {seen fewer : List Field} {fields : List (String × Value)} {span last : Span}
    (fills : Fills seen fields span last) (subset : ∀ f ∈ fewer, f ∈ seen) :
    Fills fewer fields span last := by
  induction fills generalizing fewer with
  | nil seen span => exact .nil fewer span
  | cons new reads others ih =>
      refine .cons (fun member => new (subset _ member)) reads (ih ?_)
      intro f member
      rcases List.mem_cons.mp member with rfl | member
      · exact List.mem_cons_self
      · exact List.mem_cons_of_mem _ (subset f member)

theorem Fills.field {seen : List Field} (field : Field) {value : Option Value}
    {fields : List (String × Value)} {span last : Span} (next : Span) (new : field ∉ seen)
    (absent : value = none → next = span)
    (reads : ∀ v, value = some v → ∀ bound rest, Ends rest → v.write.length ≤ bound →
      readField (bound + 1) field span (v.write ++ rest) = .ok (next, rest))
    (others : Fills (field :: seen) fields next last) :
    Fills seen (Span.field field.name value ++ fields) span last := by
  cases value with
  | none =>
      rw [absent rfl] at others
      exact others.forget fun f member => List.mem_cons_of_mem _ member
  | some v => exact .cons new (reads v rfl) others

theorem Fills.option {α : Type} {seen : List Field} (field : Field) {write : α → Value}
    {value : Option α} {fields : List (String × Value)} {span last : Span} (set : Option α → Span)
    (new : field ∉ seen) (unset : set none = span)
    (reads : ∀ a, value = some a → ∀ bound rest, Ends rest → (write a).write.length ≤ bound →
      readField (bound + 1) field span ((write a).write ++ rest) = .ok (set (some a), rest))
    (others : Fills (field :: seen) fields (set value) last) :
    Fills seen (Span.field field.name (value.map write) ++ fields) span last := by
  refine .field field (set value) new ?_ ?_ others
  · intro absent
    rw [Option.map_eq_none_iff.mp absent, unset]
  · intro v present bound rest ends enough
    obtain ⟨a, rfl, rfl⟩ := Option.map_eq_some_iff.mp present
    exact reads a rfl bound rest ends enough

theorem readMembers_fills {seen : List Field} {fields : List (String × Value)} {span last : Span}
    (fills : Fills seen fields span last) (first : Bool) (bound : Nat)
    (enough : (membersText first fields).length ≤ bound) (rest : List Char) :
    readMembers bound seen first span (membersText first fields ++ rest) = .ok (last, rest) := by
  induction fills generalizing first bound with
  | nil seen span =>
      obtain ⟨bound, rfl⟩ : ∃ n, bound = n + 1 :=
        ⟨bound - 1, by have := membersText_length_pos first []; omega⟩
      rw [readMembers]
      rfl
  | @cons seen field v fields span next last new reads others ih =>
      simp only [membersText, List.length_append, List.length_cons] at enough
      have tail := membersText_length_pos false fields
      obtain ⟨bound, rfl⟩ : ∃ n, bound = n + 2 := ⟨bound - 2, by omega⟩
      have member := reads bound (membersText false fields ++ rest) (ends_membersText fields rest)
        (by omega)
      rw [readMembers, membersText]
      simp only [List.append_assoc, List.cons_append]
      rw [nextMember_name]
      change (string (writeTail field.name ++ _) >>= _) = _
      rw [string_writeTail]
      simp only [bind, Except.bind, Field.ofName?_name, new, if_false]
      change (readField (bound + 1) field span (v.write ++ _) >>= _) = _
      rw [member]
      exact ih false (bound + 1) (by omega)

theorem readText_write (s : String) (rest : List Char) :
    readText (writeString s ++ rest) = .ok (some s, rest) := by
  change (string (writeTail s ++ rest) >>= _) = _
  rw [string_writeTail]
  rfl

theorem readField_tag {t : Tag} (canonical : t.isCanonical) (span : Span) (bound : Nat)
    (rest : List Char) :
    readField (bound + 1) .tag span ((Value.string t.spelling).write ++ rest) =
      .ok ({ span with tag := some t }, rest) := by
  rw [Value.write, readField, readText_write]
  change Except.ok ({ span with tag := some (Tag.ofSpelling t.spelling) }, rest) = _
  rw [Tag.ofSpelling_canonical canonical]

theorem readField_text (s : String) (span : Span) (bound : Nat) (rest : List Char) :
    readField (bound + 1) .text span ((Value.string s).write ++ rest) =
      .ok ({ span with text := some s }, rest) := by
  rw [Value.write, readField, readText_write]
  rfl

theorem readField_data {fields : Fields} (exact : fields.toValue.every Value.isNoDouble)
    (span : Span) {bound : Nat} {rest : List Char} (ends : Ends rest)
    (enough : fields.toValue.write.length ≤ bound) :
    readField (bound + 1) .data span (fields.toValue.write ++ rest) =
      .ok ({ span with data := some fields }, rest) := by
  rw [readField, value_write _ exact fields.ordered bound enough ends]
  change Except.ok ({ span with data := fields.toValue.fields? }, rest) = _
  rw [fields?_toValue]

theorem readField_key (k : UInt64) (span : Span) {bound : Nat} {rest : List Char}
    (ends : Ends rest) (enough : (Value.number (.whole (.ofUInt64 k))).write.length ≤ bound) :
    readField (bound + 1) .key span ((Value.number (.whole (.ofUInt64 k))).write ++ rest) =
      .ok ({ span with key := some k }, rest) := by
  rw [readField, value_write _ rfl rfl bound enough ends]
  change Except.ok ({ span with key := (Whole.ofUInt64 k).toUInt64? }, rest) = _
  rw [Whole.toUInt64?_ofUInt64]

theorem readField_children {children : List Span}
    (below : ∀ bound rest, (itemsText true (toValues children)).length ≤ bound →
      readAll bound [] (itemsText true (toValues children) ++ rest) = .ok (children, rest))
    (span : Span) {bound : Nat} (enough : (Value.array (toValues children)).write.length ≤ bound)
    (rest : List Char) :
    readField (bound + 1) .children span ((Value.array (toValues children)).write ++ rest) =
      .ok ({ span with children }, rest) := by
  rw [write_array] at enough ⊢
  rw [List.length_cons] at enough
  rw [List.cons_append, readField]
  change (readAll bound [] (itemsText true (toValues children) ++ rest) >>= _) = _
  rw [below bound rest (by omega)]
  rfl

theorem nextItem_span (span : Span) (first : Bool) (rest : List Char) :
    nextItem first ((if first then [] else [',']) ++ (span.toValue.write ++ rest)) =
      .ok (.entry (span.toValue.write ++ rest)) := by
  rw [write_toValue, List.cons_append]
  cases first with
  | true => exact nextItem_first rfl (by decide) _
  | false => exact nextItem_comma rfl (by decide) _

theorem fills_members (span : Span) (tag : span.hasCanonicalTag) (exact : span.hasNoDouble)
    (below : ∀ bound rest, (itemsText true (toValues span.children)).length ≤ bound →
      readAll bound [] (itemsText true (toValues span.children) ++ rest) =
        .ok (span.children, rest)) :
    Fills [] span.members { } span := by
  obtain ⟨t, data, key, text, children⟩ := span
  unfold members
  refine .option .tag (fun tag => { tag }) (by decide) rfl ?_ ?_
  · rintro t rfl bound rest ends enough
    exact readField_tag tag { } bound rest
  refine .option .data (fun data => { tag := t, data }) (by decide) rfl ?_ ?_
  · rintro fields rfl bound rest ends enough
    exact readField_data exact { tag := t } ends enough
  refine .option .key (fun key => { tag := t, data, key }) (by decide) rfl ?_ ?_
  · rintro k rfl bound rest ends enough
    exact readField_key k { tag := t, data } ends enough
  refine .option .text (fun text => { tag := t, data, key, text }) (by decide) rfl ?_ ?_
  · rintro s rfl bound rest ends enough
    exact readField_text s { tag := t, data, key } bound rest
  refine .field .children { tag := t, data, key, text, children } (by decide) ?_ ?_ (.nil _ _)
  · intro absent
    cases children with
    | nil => rfl
    | cons child others => cases absent
  · intro v present bound rest ends enough
    cases children with
    | nil => cases present
    | cons child others =>
        cases present
        exact readField_children below { tag := t, data, key, text } enough rest

/-! ## Spans -/

mutual

theorem read_write (span : Span) (tags : span.every hasCanonicalTag)
    (exact : span.every hasNoDouble) (bound : Nat) (enough : span.toValue.write.length ≤ bound)
    (rest : List Char) :
    read bound (span.toValue.write ++ rest) = .ok (span, rest) := by
  rw [write_toValue] at enough ⊢
  obtain ⟨bound, rfl⟩ : ∃ n, bound = n + 1 := by
    rw [List.length_cons] at enough
    exact ⟨bound - 1, by omega⟩
  rw [List.cons_append, read]
  change readMembers bound [] true { } (membersText true span.members ++ rest) = _
  match span with
  | ⟨tag, data, key, text, children⟩ =>
      simp only [every, Bool.and_eq_true] at tags exact
      have fills := fills_members ⟨tag, data, key, text, children⟩ tags.1 exact.1
        fun bound rest enough => readAll_write children tags.2 exact.2 [] bound enough rest
      exact readMembers_fills fills true bound (Nat.le_of_succ_le_succ enough) rest

theorem readAll_write (spans : List Span) (tags : everyOf hasCanonicalTag spans)
    (exact : everyOf hasNoDouble spans) (taken : List Span) (bound : Nat)
    (enough : (itemsText taken.isEmpty (toValues spans)).length ≤ bound) (rest : List Char) :
    readAll bound taken (itemsText taken.isEmpty (toValues spans) ++ rest) =
      .ok (taken.reverse ++ spans, rest) := by
  have nonempty := itemsText_length_pos taken.isEmpty (toValues spans)
  obtain ⟨bound, rfl⟩ : ∃ n, bound = n + 1 := ⟨bound - 1, by omega⟩
  match spans with
  | [] =>
      rw [readAll, List.append_nil]
      rfl
  | span :: spans =>
      simp only [everyOf, Bool.and_eq_true] at tags exact
      have tail := itemsText_length_pos false (toValues spans)
      have head : 0 < span.toValue.write.length := by rw [write_toValue]; exact Nat.succ_pos _
      simp only [toValues, itemsText, List.length_append] at enough
      have item := read_write span tags.1 exact.1 bound (by omega)
        (itemsText false (toValues spans) ++ rest)
      have others := readAll_write spans tags.2 exact.2 (span :: taken) bound
        (by rw [List.isEmpty_cons]; omega) rest
      rw [List.isEmpty_cons] at others
      rw [readAll, toValues, itemsText, List.append_assoc, List.append_assoc, nextItem_span]
      change (read bound (span.toValue.write ++ _) >>= _) = _
      rw [item]
      change readAll bound (span :: taken) (itemsText false (toValues spans) ++ rest) = _
      rw [others, List.reverse_cons, List.append_assoc, List.singleton_append]

end

end Span

/-! ## The statement -/

theorem Document.parse_compact (span : Span) (tags : span.every Span.hasCanonicalTag)
    (exact : span.every Span.hasNoDouble) :
    Document.parse span.compact = .ok span := by
  have text : span.compact.toList = span.toValue.write := String.toList_ofList
  have length : span.toValue.write.length ≤ 4 * span.toValue.write.length + 4 := by omega
  have read := Span.read_write span tags exact _ length []
  rw [List.append_nil] at read
  have found : Span.ofText? span.toValue.write = .ok (some span) := by
    rw [Span.write_toValue] at read ⊢
    change (Span.read _ ('\x7b' :: membersText true span.members) >>= _) = _
    rw [read]
    rfl
  rw [Document.parse, text, found]

/-- Names and a text with escapes, the largest key, the least whole number, data without fields and
an empty text. -/
theorem Document.parse_compact_nested :
    parse (Span.compact
      (((Span.ofTag (.other "qq")).withKey 18446744073709551615).withData
        (.object [("", .array [.object [], .number (.whole ⟨-0x8000_0000_0000_0000, by decide, by decide⟩)]),
          ("\"\\", .string "\x01é😀")])
        |>.withChildren [Span.ofText "", Span.ofTag .quote |>.withData (.object [])])) =
    .ok
      (((Span.ofTag (.other "qq")).withKey 18446744073709551615).withData
        (.object [("", .array [.object [], .number (.whole ⟨-0x8000_0000_0000_0000, by decide, by decide⟩)]),
          ("\"\\", .string "\x01é😀")])
        |>.withChildren [Span.ofText "", Span.ofTag .quote |>.withData (.object [])]) :=
  Document.parse_compact _ (by decide) (by decide)

end RichText
