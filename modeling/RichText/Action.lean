import RichText.Json.Fields
import RichText.Url.Parse
import RichText.Url.Query

/-!
# Actions

What a button does, as an address: it opens a web page, or posts an answer. The name and the value
of the button go into the query, always in the same order.
-/
namespace RichText.Action

def post : Url where
  scheme := "tinode"
  body := "///post"
  query := none
  fragment := none
  colon_not_mem_scheme := by decide
  mark_not_mem_body := by decide
  mark_not_mem_query := by simp

def defaultValue : String := "1"

def pair? (data : Json.Fields) : Option (String × String) :=
  (data.scalar? "name").map fun name => (name, (data.scalar? "val").getD defaultValue)

def isWeb (reference : String) : Bool :=
  "http:".toList.isPrefixOf reference.toList || "https:".toList.isPrefixOf reference.toList

def page? (data : Json.Fields) : Option Url := do
  let reference ← data.text? "ref"
  if isWeb reference then
    let u ← Url.parse? reference.toList
    match pair? data with
    | some (name, value) => some (u.appendPair name value)
    | none => some u
  else none

def answer (label : String) (data : Json.Fields) : Url :=
  let u := post.appendPair "title" label
  match pair? data with
  | some (name, value) => (u.appendPair "name" name).appendPair "val" value
  | none => u

def address? (label : String) (data : Json.Fields) : Option String :=
  match data.text? "act" with
  | some "url" => (page? data).map Url.text
  | some "pub" => some (answer label data).text
  | _ => none

end RichText.Action
