import RichText.Json.Writer
import RichText.Span.Basic

/-!
# Writing spans

A span as a JSON object: its fields in a fixed order, those without value left out.
-/
namespace RichText.Span

def field (name : String) (value : Option Json.Value) : List (String × Json.Value) :=
  match value with
  | none => []
  | some v => [(name, v)]

mutual

def toValue : Span → Json.Value
  | ⟨tag, data, key, text, children⟩ =>
    .object <|
      field "tp" (tag.map fun t => .string t.spelling) ++
      field "data" (data.map Json.Fields.toValue) ++
      field "key" (key.map fun k => .number (.whole (.ofUInt64 k))) ++
      field "text" (text.map .string) ++
      field "children" (if children.isEmpty then none else some (.array (toValues children)))

def toValues : List Span → List Json.Value
  | [] => []
  | span :: rest => span.toValue :: toValues rest

end

def compact (span : Span) : String := span.toValue.compact

end RichText.Span
