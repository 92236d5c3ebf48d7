import RichText.Document
import RichText.Text.Quoted

/-!
# The command line

Reads a document and prints its leaves, one on a line.
-/
namespace RichText.CommandLine

structure Outcome where
  exitCode : UInt8
  output : String
  errors : String
deriving DecidableEq, Repr

def name : String := "drafty-format"

def failure (message : String) : Outcome := ⟨1, "", name ++ ": " ++ message ++ "\n"⟩

def indent (quoteDepth : Nat) : String := String.join (List.replicate quoteDepth "> ")

def describe : Leaf.Content → String
  | .text s => Text.Quoted.quote s
  | .attachment a => "<" ++ a.kind.name ++ " " ++ a.reference.getD "-" ++ ">"

def line (leaf : Leaf) : String :=
  indent leaf.quoteDepth ++ describe leaf.content ++ " [" ++ leaf.style.text ++ "]"

def print (n : Node) : String := String.join (n.leaves.map fun leaf => line leaf ++ "\n")

def run (input : List UInt8) : Outcome :=
  match Text.ofUtf8? input with
  | none => failure "cannot read stdin: stream did not contain valid UTF-8"
  | some text =>
    match Document.renderJson (String.ofList text) with
    | .ok n => ⟨0, print n, ""⟩
    | .error problem => failure problem.message

end RichText.CommandLine
