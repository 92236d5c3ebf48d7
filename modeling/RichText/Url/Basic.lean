/-!
# Web addresses

An absolute URL in its normal form. The parts are kept so that the text can be taken apart again: no
colon in the scheme, no question mark and no number sign before the query, and no number sign in the
query.
-/
namespace RichText

/-- The scheme, what stands between it and the query, the query and the fragment, without the marks
that set them apart. -/
structure Url where
  scheme : String
  body : String
  query : Option String
  fragment : Option String
  colon_not_mem_scheme : ':' ∉ scheme.toList
  mark_not_mem_body : '?' ∉ body.toList ∧ '#' ∉ body.toList
  mark_not_mem_query : ∀ q ∈ query, '#' ∉ q.toList
deriving DecidableEq

namespace Url

def ofParts? (scheme body : List Char) (query fragment : Option (List Char)) : Option Url :=
  let scheme := String.ofList scheme
  let body := String.ofList body
  let query := query.map String.ofList
  if h : ':' ∉ scheme.toList ∧ ('?' ∉ body.toList ∧ '#' ∉ body.toList) ∧
      ∀ q ∈ query, '#' ∉ q.toList then
    some ⟨scheme, body, query, fragment.map String.ofList, h.1, h.2.1, h.2.2⟩
  else none

def text (u : Url) : String :=
  u.scheme ++ ":" ++ u.body ++
    (match u.query with
      | some q => "?" ++ q
      | none => "") ++
    (match u.fragment with
      | some f => "#" ++ f
      | none => "")

end Url

end RichText
