import RichText.Url.Basic
import RichText.Url.Form

/-!
# Queries

Adding a name and a value to the query of a URL. Main statement: an encoded text holds no number
sign, so the query does not run into the fragment.
-/
namespace RichText.Url

theorem mark_not_mem_append {query : List Char} (h : '#' ∉ query) (name value : List Char) :
    '#' ∉ Form.append query name value := by
  have hn := Form.not_mem_encode (c := '#') rfl name
  have hv := Form.not_mem_encode (c := '#') rfl value
  unfold Form.append Form.encodePair
  split <;> simp [h, hn, hv]

def appendPair (u : Url) (name value : String) : Url :=
  { u with
    query := some (String.ofList
      (Form.append (u.query.getD "").toList name.toList value.toList))
    mark_not_mem_query := by
      intro q hq
      cases hq
      rw [String.toList_ofList]
      apply mark_not_mem_append
      cases h : u.query with
      | none => simp
      | some q => exact u.mark_not_mem_query q h }

end RichText.Url
