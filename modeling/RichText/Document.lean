import RichText.Engine
import RichText.Span.Reader
import RichText.Strategy.Quoted

/-!
# Documents

From JSON to nodes: a document is read, and rendered with options.
-/
namespace RichText

/-- How quoted content is shown (like any other without a policy), and how many levels of spans are
rendered before the rest becomes plain text. -/
structure Options where
  quotePolicy : Option QuotePolicy := some { }
  maxDepth : Nat := 256

namespace Document

/-- Why there is no document: it is null, or it is not one. The place of a fault is known when the
document is text. -/
inductive Problem where
  | missing
  | faulty (cause : Json.Cause) (place : Option Json.Position)
deriving DecidableEq

def Problem.message : Problem → String
  | .missing => "document root is missing"
  | .faulty cause place =>
    "Drafty parse error: " ++ cause.message ++
      (match place with
        | some p => " at line " ++ toString p.line ++ " column " ++ toString p.column
        | none => "")

def parse (json : String) : Except Problem Span :=
  let text := json.toList
  match Span.ofText? text with
  | .ok (some root) => .ok root
  | .ok none => .error .missing
  | .error fault => .error (.faulty fault.cause (some (fault.position text)))

def ofValue (v : Json.Value) : Except Problem Span :=
  match v with
  | .null => .error .missing
  | v =>
    match Span.ofValue v with
    | .ok root => .ok root
    | .error cause => .error (.faulty cause none)

def engine (options : Options) : Engine where
  strategy := .full
  quoteStrategy := options.quotePolicy.map .quoted
  maxDepth := options.maxDepth

def render (root : Span) (options : Options := { }) : Node := (engine options).renderRoot root

def renderJson (json : String) (options : Options := { }) : Except Problem Node :=
  (parse json).map (render · options)

end Document

end RichText
