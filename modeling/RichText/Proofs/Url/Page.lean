import RichText.Proofs.Style.Text
import RichText.Proofs.Url.Form

/-!
# Pages that buttons open

Main statement (`address?_page`): a button opens a page exactly if its reference is a web address;
the text of the button does not count, and the name and the value of the button are one more pair at
the end of the query, told from the pairs before it whatever characters they have.
-/
namespace RichText

namespace Text

theorem cutAt_elim {mark : Char} {front : List Char} (absent : mark ∉ front)
    (rest : Option (List Char)) :
    cutAt (· == mark) (front ++ rest.elim [] (mark :: ·)) = (front, rest.elim [] (mark :: ·)) := by
  have other : ∀ c ∈ front, (!(c == mark)) = true := bne_of_not_mem absent
  rw [cutAt, List.takeWhile_append_of_pos other, List.dropWhile_append_of_pos other]
  cases rest <;> simp

end Text

/-! ## The text of a URL -/

namespace Url

/-- The query in the text of a URL: what follows its question mark, up to its number sign. -/
def queryIn? (text : List Char) : Option (List Char) :=
  (Text.cut? '?' (Text.cutAt (· == '#') text).1).map (·.2)

/-- The text of a URL with a pair before its fragment, behind the mark that its query asks for. -/
def insertPair (text pair : List Char) : List Char :=
  let (front, fragment) := Text.cutAt (· == '#') text
  let mark :=
    match queryIn? text with
    | none => ['?']
    | some [] => []
    | some (_ :: _) => ['&']
  front ++ mark ++ pair ++ fragment

/-- A URL whose scheme does not run into its query or its fragment. -/
structure Plain (u : Url) : Prop where
  question : '?' ∉ u.scheme.toList
  number : '#' ∉ u.scheme.toList

theorem Plain.of_web {u : Url} (web : IsWebScheme u.scheme) : u.Plain := by
  rcases web with isWeb | isWeb
  · exact ⟨by rw [isWeb]; decide, by rw [isWeb]; decide⟩
  · exact ⟨by rw [isWeb]; decide, by rw [isWeb]; decide⟩

def base (u : Url) : List Char := u.scheme.toList ++ ':' :: u.body.toList

theorem toList_text_base (u : Url) :
    u.text.toList = u.base ++ (u.query.map String.toList).elim [] ('?' :: ·) ++
      (u.fragment.map String.toList).elim [] ('#' :: ·) := by
  rw [toList_text_eq, base, Option.elim_some]
  simp only [List.append_assoc, List.cons_append]

variable {u : Url}

theorem Plain.cutAt_text (plain : u.Plain) :
    Text.cutAt (· == '#') u.text.toList =
      (u.base ++ (u.query.map String.toList).elim [] ('?' :: ·),
        (u.fragment.map String.toList).elim [] ('#' :: ·)) := by
  rw [toList_text_base]
  apply Text.cutAt_elim
  have clean := u.mark_not_mem_query
  cases asks : u.query with
  | none => simp [base, plain.number, u.mark_not_mem_body.2]
  | some query => simp [base, plain.number, u.mark_not_mem_body.2, clean query asks]

theorem Plain.queryIn?_text (plain : u.Plain) :
    queryIn? u.text.toList = u.query.map String.toList := by
  have absent : '?' ∉ u.base := by simp [base, plain.question, u.mark_not_mem_body.1]
  rw [queryIn?, plain.cutAt_text, Text.cut?_elim absent, Option.map_map]
  exact Option.map_id'

theorem Plain.appendPair (plain : u.Plain) (name value : String) :
    (u.appendPair name value).Plain :=
  ⟨plain.question, plain.number⟩

theorem Plain.text_appendPair (plain : u.Plain) (name value : String) :
    (u.appendPair name value).text.toList =
      insertPair u.text.toList (Form.encodePair name.toList value.toList) := by
  have query : (u.appendPair name value).query = some (String.ofList
      (Form.append (u.query.getD "").toList name.toList value.toList)) := rfl
  have base : (u.appendPair name value).base = u.base := rfl
  have fragment : (u.appendPair name value).fragment = u.fragment := rfl
  rw [toList_text_base, query, base, fragment, insertPair, plain.cutAt_text, plain.queryIn?_text]
  cases u.query with
  | none => simp [Form.append]
  | some q =>
      cases pairs : q.toList with
      | nil => simp [Form.append, pairs]
      | cons c rest => simp [Form.append, pairs]

/-- One more pair in a URL is one more pair at the end of what its query decodes to. -/
theorem Plain.pairs_appendPair (plain : u.Plain) (name value : String) :
    Form.pairs ((queryIn? (u.appendPair name value).text.toList).getD []) =
      Form.pairs ((queryIn? u.text.toList).getD []) ++ [(name.toList, value.toList)] := by
  have query : (u.query.map String.toList).getD [] = (u.query.getD "").toList := by
    cases u.query <;> rfl
  rw [(plain.appendPair name value).queryIn?_text, plain.queryIn?_text, query, ← Form.pairs_append]
  exact congrArg Form.pairs String.toList_ofList

end Url

/-! ## Actions -/

namespace Action

/-- The data of a button refer to a page, which does not have the name of the button yet. -/
def Refers (data : Json.Fields) (page : Url) : Prop :=
  ∃ reference, data.text? "ref" = some reference ∧
    ("http:".toList <+: reference.toList ∨ "https:".toList <+: reference.toList) ∧
    Url.parse? reference.toList = some page

variable {data : Json.Fields}

theorem Refers.web {page : Url} (refers : Refers data page) : Url.IsWebScheme page.scheme := by
  obtain ⟨reference, -, starts | starts, parsed⟩ := refers
  · exact .inl (Url.parse?_web (.inl rfl) starts parsed)
  · exact .inr (Url.parse?_web (.inr rfl) starts parsed)

def named (data : Json.Fields) (page : Url) : Url :=
  match pair? data with
  | some (name, value) => page.appendPair name value
  | none => page

theorem isWeb_iff {reference : String} :
    isWeb reference = true ↔
      "http:".toList <+: reference.toList ∨ "https:".toList <+: reference.toList := by
  rw [isWeb, Bool.or_eq_true, List.isPrefixOf_iff_prefix, List.isPrefixOf_iff_prefix]

theorem Refers.page? {page : Url} (refers : Refers data page) :
    page? data = some (named data page) := by
  obtain ⟨reference, given, web, parsed⟩ := refers
  have opens : Action.page? data =
      match pair? data with
      | some (name, value) => some (page.appendPair name value)
      | none => some page := by
    rw [Action.page?, given, Option.bind_eq_bind, Option.bind_some, if_pos (isWeb_iff.mpr web),
      parsed]
    rfl
  rw [opens, named]
  cases pair? data <;> rfl

theorem exists_refers {u : Url} (opens : page? data = some u) : ∃ page, Refers data page := by
  obtain ⟨reference, given, opens⟩ := Option.bind_eq_some_iff.mp opens
  split at opens
  case isTrue web =>
    obtain ⟨page, parsed, -⟩ := Option.bind_eq_some_iff.mp opens
    exact ⟨page, reference, given, isWeb_iff.mp web, parsed⟩
  case isFalse => cases opens

theorem address?_of_url (acts : data.text? "act" = some "url") (label : String) :
    address? label data = (page? data).map Url.text := by
  rw [address?, acts]
  rfl

/-! ## The statement -/

theorem address?_page (acts : data.text? "act" = some "url") :
    (∀ label, (address? label data).isSome ↔ ∃ page, Refers data page) ∧
      (∀ label label', address? label data = address? label' data) ∧
      ∀ page, Refers data page → ∀ label,
        (data.scalar? "name" = none → address? label data = some page.text) ∧
        ∀ name value, data.scalar? "name" = some name → value = (data.scalar? "val").getD "1" →
          ∃ address, address? label data = some address ∧
            address.toList = Url.insertPair page.text.toList
              (Url.Form.encode name.toList ++ '=' :: Url.Form.encode value.toList) ∧
            Url.Form.pairs ((Url.queryIn? address.toList).getD []) =
              Url.Form.pairs ((Url.queryIn? page.text.toList).getD []) ++
                [(name.toList, value.toList)] := by
  refine ⟨fun label => ?_, fun label label' => ?_, fun page refers label => ⟨?_, ?_⟩⟩
  · rw [address?_of_url acts, Option.isSome_map, Option.isSome_iff_exists]
    constructor
    · rintro ⟨u, opens⟩
      exact exists_refers opens
    · rintro ⟨page, refers⟩
      exact ⟨_, refers.page?⟩
  · rw [address?_of_url acts, address?_of_url acts]
  · intro nameless
    have unnamed : named data page = page := by rw [named, pair?, nameless]; rfl
    rw [address?_of_url acts, refers.page?, unnamed, Option.map_some]
  · rintro name value isName rfl
    have plain := Url.Plain.of_web refers.web
    have isNamed : named data page = page.appendPair name ((data.scalar? "val").getD "1") := by
      rw [named, pair?, isName]
      rfl
    refine ⟨_, ?_, plain.text_appendPair name _, plain.pairs_appendPair name _⟩
    rw [address?_of_url acts, refers.page?, isNamed, Option.map_some]

/-- Marks of a query in the name and the value, and a page with a query and a fragment. -/
theorem address?_page_marks :
    let data : Json.Fields := .ofMembers [("act", .string "url"), ("name", .string "a&b"),
      ("ref", .string "https://example.org/x?q#top"), ("val", .string "ü = 1")]
    data.text? "act" = some "url" ∧
      ∃ page, Refers data page ∧ page.text = "https://example.org/x?q#top" ∧
        ∃ address, address? "Go" data = some address ∧
          address.toList = "https://example.org/x?q&a%26b=%C3%BC+%3D+1#top".toList ∧
          Url.Form.pairs ((Url.queryIn? address.toList).getD []) =
            [("q".toList, []), ("a&b".toList, "ü = 1".toList)] := by
  intro data
  have acts : data.text? "act" = some "url" := rfl
  obtain ⟨page, parsed, text⟩ : ∃ page,
      Url.parse? "https://example.org/x?q#top".toList = some page ∧
        page.text = "https://example.org/x?q#top" := Option.map_eq_some_iff.mp (by decide +kernel)
  have refers : Refers data page := ⟨_, rfl, by decide, parsed⟩
  obtain ⟨address, leads, inserted, decoded⟩ :=
    ((address?_page acts).2.2 page refers "Go").2 "a&b" "ü = 1" rfl rfl
  rw [text] at inserted decoded
  refine ⟨acts, page, refers, text, address, leads, inserted.trans (by decide +kernel), ?_⟩
  exact decoded.trans (by decide +kernel)

end Action

end RichText
