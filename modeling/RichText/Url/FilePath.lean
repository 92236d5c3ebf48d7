import RichText.Url.Breaks
import RichText.Url.Path

/-!
# File paths

The path of a file has one slash at its start, and a drive that comes first is written with a colon.
-/
namespace RichText.Url

/-- The path of a file so far, and whether a drive was the first of its segments at some time. -/
structure FilePath where
  segments : Path.Segments
  hasDrive : Bool

namespace FilePath

def drive? : List Char → Option Char
  | [letter, mark] => if letter.isAlpha ∧ (mark = ':' ∨ mark = '|') then some letter else none
  | _ => none

def cutDrive? (segment : List Char) : Option (Char × List Char) :=
  match segment.dropWhile isBreak with
  | [] => none
  | letter :: rest =>
    match rest.dropWhile isBreak with
    | ':' :: b :: rest =>
      if letter.isAlpha ∧ isBreak b ∧ dropBreaks rest ≠ [] then some (letter, dropBreaks rest)
      else none
    | _ => none

/-- Appends a segment, which may still hold breaks. As the first one a drive gets its colon; what a
break cuts off from a letter and a colon becomes a segment as it is. -/
def push (path : FilePath) (segment : List Char) (last : Bool) : FilePath :=
  let encoded := percentEncode EncodeSet.path (dropBreaks segment)
  match path.segments, cutDrive? segment, drive? encoded with
  | [], some (letter, rest), _ =>
    { path with segments := [percentEncode EncodeSet.path rest, [letter, ':']] }
  | [], none, some letter => ⟨[[letter, ':']], true⟩
  | segments, _, _ => { path with segments := Path.push segments encoded last }

def resolve (path : FilePath) : List (List Char) → FilePath
  | [] => path
  | [segment] => path.push segment true
  | segment :: rest => resolve (path.push segment false) rest

def parse (cs : List Char) : FilePath :=
  resolve ⟨[], false⟩ (Text.splitBy (fun c => c == '/' || c == '\\') cs)

def write (path : FilePath) : List Char :=
  '/' :: (Path.write path.segments).dropWhile (· == '/')

end FilePath

end RichText.Url
