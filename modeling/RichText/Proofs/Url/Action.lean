import RichText.Action

/-!
# Addresses of actions

Where the actions of buttons lead. A page has an address of the scheme that its reference starts
with (`page?_leads`), and an answer has a fixed address with the text of the button as its title
(`answer_text`).
-/
namespace RichText

/-! ## Pieces of text -/

namespace Text

theorem bne_of_not_mem {mark : Char} {cs : List Char} (absent : mark ∉ cs) :
    ∀ c ∈ cs, (c != mark) = true := by
  rintro c member
  rw [bne_iff_ne]
  rintro rfl
  exact absent member

/-- A separator that a front does not have cuts off what follows it, if anything does. -/
theorem cut?_elim {separator : Char} {front : List Char} (absent : separator ∉ front)
    (rest : Option (List Char)) :
    cut? separator (front ++ rest.elim [] (separator :: ·)) = rest.map fun rest => (front, rest) := by
  rw [cut?, List.dropWhile_append_of_pos (bne_of_not_mem absent),
    List.takeWhile_append_of_pos (bne_of_not_mem absent)]
  cases rest <;> simp

theorem cut?_append {separator : Char} {front : List Char} (absent : separator ∉ front)
    (rest : List Char) : cut? separator (front ++ separator :: rest) = some (front, rest) :=
  cut?_elim absent (some rest)

end Text

/-! ## Schemes -/

namespace Url

def IsWebScheme (scheme : String) : Prop := scheme = "http" ∨ scheme = "https"

theorem ofParts?_some {scheme body : List Char} {query fragment : Option (List Char)} {u : Url}
    (made : ofParts? scheme body query fragment = some u) :
    u.scheme = String.ofList scheme ∧ u.body = String.ofList body := by
  unfold ofParts? at made
  dsimp only at made
  split at made
  · cases made
    exact ⟨rfl, rfl⟩
  · cases made

theorem specialBody?_starts {implied : Option Nat} {cs body : List Char}
    (read : specialBody? implied cs = some body) : "//".toList <+: body := by
  obtain ⟨authority, -, made⟩ := Option.bind_eq_some_iff.mp read
  cases made
  exact List.prefix_append ['/', '/'] _

/-- The scheme of a URL stands before the colon, and a web address has two slashes behind it. -/
theorem parse?_some {cs : List Char} {u : Url} (parsed : parse? cs = some u) :
    (∃ scheme rest, splitScheme? (trim cs) = some (scheme, rest) ∧
      u.scheme = String.ofList scheme) ∧
    (IsWebScheme u.scheme → "//".toList <+: u.body.toList) := by
  obtain ⟨⟨scheme, rest⟩, split, parsed⟩ := Option.bind_eq_some_iff.mp parsed
  dsimp only at parsed
  split at parsed
  case h_1 port special =>
    obtain ⟨body, read, made⟩ := Option.bind_eq_some_iff.mp parsed
    obtain ⟨sameScheme, sameBody⟩ := ofParts?_some made
    have bodyList : u.body.toList = body := by rw [sameBody, String.toList_ofList]
    exact ⟨⟨scheme, rest, split, sameScheme⟩, fun _ => bodyList ▸ specialBody?_starts read⟩
  -- Other schemes are no web schemes.
  all_goals
    rename_i special
    obtain ⟨body, -, made⟩ := Option.bind_eq_some_iff.mp parsed
    obtain ⟨sameScheme, -⟩ := ofParts?_some made
    refine ⟨⟨scheme, rest, split, sameScheme⟩, fun web => ?_⟩
    rw [← sameScheme] at special
    rcases web with isWeb | isWeb <;> rw [isWeb] at special <;> cases special

theorem splitScheme?_web {scheme : String} (web : IsWebScheme scheme) (rest : List Char) :
    splitScheme? (scheme.toList ++ ':' :: rest) = some (scheme.toList, rest) := by
  rcases web with rfl | rfl
  · rw [splitScheme?, Text.cut?_append (by decide)]
    rfl
  · rw [splitScheme?, Text.cut?_append (by decide)]
    rfl

theorem parse?_web {scheme : String} (web : IsWebScheme scheme) {cs : List Char}
    (starts : (scheme ++ ":").toList <+: cs) {u : Url} (parsed : parse? cs = some u) :
    u.scheme = scheme := by
  obtain ⟨rest, rfl⟩ := starts
  obtain ⟨⟨scheme', rest', split, same⟩, -⟩ := parse?_some parsed
  obtain ⟨trimmed, kept⟩ : ∃ rest', trim ((scheme ++ ":").toList ++ rest) =
      (scheme ++ ":").toList ++ rest' := by
    refine ⟨_, Text.trimBy_append (List.forall_mem_nil _) ?_ ?_ ?_ rest⟩
    · rcases web with rfl | rfl <;> decide
    all_goals rcases web with rfl | rfl <;> rintro c ⟨⟩ <;> rfl
  rw [kept, String.toList_append, List.append_assoc] at split
  change splitScheme? (scheme.toList ++ ':' :: trimmed) = _ at split
  rw [splitScheme?_web web] at split
  cases split
  rw [same, String.ofList_toList]

theorem text_starts (u : Url) : (u.scheme ++ ":" ++ u.body).toList <+: u.text.toList := by
  unfold text
  simp only [String.toList_append, List.append_assoc]
  simp only [List.prefix_append_right_inj, List.prefix_append]

theorem toList_text {u : Url} {query : String} (asks : u.query = some query)
    (plain : u.fragment = none) :
    u.text.toList = (u.scheme ++ ":" ++ u.body ++ "?").toList ++ query.toList := by
  simp only [text, asks, plain, String.append_assoc, String.append_empty, String.toList_append,
    List.append_assoc]

theorem query_appendPair {u : Url} {query : List Char} (asks : u.query = some (String.ofList query))
    (more : query ≠ []) (name value : String) :
    (u.appendPair name value).query = some (String.ofList (query ++ '&' ::
      (Form.encode name.toList ++ '=' :: Form.encode value.toList))) := by
  change some (String.ofList (Form.append _ _ _)) = _
  rw [asks, Option.getD_some, String.toList_ofList, Form.append, if_neg (by simpa using more),
    Form.encodePair]

theorem text_web {u : Url} (slashes : "//".toList <+: u.body.toList) :
    (u.scheme ++ "://").toList <+: u.text.toList := by
  obtain ⟨rest, same⟩ := slashes
  refine List.IsPrefix.trans ⟨rest, ?_⟩ (text_starts u)
  simp only [String.toList_append, ← same, List.append_assoc]
  rfl

end Url

/-! ## Actions -/

namespace Action

/-- A page is opened at an address of the scheme that its reference is spelled with. -/
theorem page?_leads {data : Json.Fields} {u : Url} (opens : page? data = some u) :
    ∃ reference scheme, data.text? "ref" = some reference ∧ Url.IsWebScheme scheme ∧
      (scheme ++ ":").toList <+: reference.toList ∧ (scheme ++ "://").toList <+: u.text.toList := by
  obtain ⟨reference, given, opens⟩ := Option.bind_eq_some_iff.mp opens
  split at opens
  · rename_i web
    obtain ⟨page, parsed, opens⟩ := Option.bind_eq_some_iff.mp opens
    obtain ⟨scheme, isWebScheme, starts⟩ : ∃ scheme, Url.IsWebScheme scheme ∧
        (scheme ++ ":").toList <+: reference.toList := by
      rw [isWeb, Bool.or_eq_true, List.isPrefixOf_iff_prefix, List.isPrefixOf_iff_prefix] at web
      rcases web with starts | starts
      · exact ⟨"http", .inl rfl, starts⟩
      · exact ⟨"https", .inr rfl, starts⟩
    have same := Url.parse?_web isWebScheme starts parsed
    have slashes := (Url.parse?_some parsed).2 (same ▸ isWebScheme)
    refine ⟨reference, scheme, given, isWebScheme, starts, ?_⟩
    -- A name and a value only change the query.
    rw [← same]
    split at opens
    · rename_i name value _
      cases opens
      exact Url.text_web (u := page.appendPair name value) slashes
    · cases opens
      exact Url.text_web slashes
  · cases opens

def answerTail (data : Json.Fields) : List Char :=
  match pair? data with
  | some (name, value) =>
    "&name=".toList ++ Url.Form.encode name.toList ++ "&val=".toList ++ Url.Form.encode value.toList
  | none => []

theorem answer_text (label : String) (data : Json.Fields) :
    (answer label data).text.toList =
      "tinode:///post?title=".toList ++ (Url.Form.encode label.toList ++ answerTail data) := by
  have title : (post.appendPair "title" label).query =
      some (String.ofList ("title=".toList ++ Url.Form.encode label.toList)) := rfl
  have more : "title=".toList ++ Url.Form.encode label.toList ≠ [] := nofun
  have start : (post.scheme ++ ":" ++ post.body ++ "?").toList ++ "title=".toList =
      "tinode:///post?title=".toList := by decide
  unfold answer answerTail
  cases pair? data with
  | none =>
      change (Url.text (post.appendPair "title" label)).toList = _
      rw [Url.toList_text title rfl, String.toList_ofList, List.append_nil, ← start,
        List.append_assoc]
      rfl
  | some pair =>
      obtain ⟨name, value⟩ := pair
      have named := Url.query_appendPair title more "name" name
      have valued := Url.query_appendPair named (by simp) "val" value
      change (Url.text (((post.appendPair "title" label).appendPair "name" name).appendPair
        "val" value)).toList = _
      rw [Url.toList_text valued rfl, String.toList_ofList, ← start]
      simp only [List.append_assoc]
      rfl

theorem address?_cases (data : Json.Fields) :
    (∀ label, address? label data = none) ∨
    (∃ address, ∀ label, address? label data = some address) ∨
    ∃ rest, ∀ label, ∃ address, address? label data = some address ∧
      address.toList =
        "tinode:///post?title=".toList ++ (Url.Form.encode label.toList ++ rest) := by
  unfold address?
  split
  · cases page? data with
    | none => exact .inl fun _ => rfl
    | some u => exact .inr (.inl ⟨u.text, fun _ => rfl⟩)
  · exact .inr (.inr ⟨answerTail data, fun label => ⟨_, rfl, answer_text label data⟩⟩)
  · exact .inl fun _ => rfl

end Action
end RichText
