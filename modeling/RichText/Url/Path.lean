import RichText.Text.Split
import RichText.Url.Percent

/-!
# Paths

A path as its segments, of which `.` and `..` are resolved; `..` does not take away a drive.
-/
namespace RichText.Url.Path

def isSingleDot (segment : List Char) : Bool :=
  segment == ['.'] || String.ofList segment == "%2e" || String.ofList segment == "%2E"

def isDoubleDot (segment : List Char) : Bool :=
  ["..", ".%2e", ".%2E", "%2e.", "%2E.", "%2e%2e", "%2e%2E", "%2E%2e", "%2E%2E"].contains
    (String.ofList segment)

/-- Whether a segment starts with a drive: a letter, and a colon or a bar, with nothing or a
backslash after them. -/
def startsWithDrive : List Char → Bool
  | letter :: mark :: rest =>
    letter.isAlpha && (mark == ':' || mark == '|') && rest.head?.all (· == '\\')
  | _ => false

/-- The segments so far, from the last one. -/
abbrev Segments := List (List Char)

def shorten : Segments → Segments
  | [] => []
  | segment :: rest => if startsWithDrive segment then segment :: rest else rest

/-- Appends a segment. After the last one a dot segment leaves an empty one, so that the path still
ends with a slash. -/
def push (path : Segments) (segment : List Char) (last : Bool) : Segments :=
  let close (path : Segments) : Segments := if last then [] :: path else path
  if isDoubleDot segment then close (shorten path)
  else if isSingleDot segment then close path
  else segment :: path

def resolve (path : Segments) : List (List Char) → Segments
  | [] => path
  | [segment] => push path segment true
  | segment :: rest => resolve (push path segment false) rest

def write (path : Segments) : List Char := path.reverse.flatMap ('/' :: ·)

def parse (special : Bool) (cs : List Char) : List Char :=
  let segments := Text.splitBy (fun c => c == '/' || (special && c == '\\')) cs
  write (resolve [] (segments.map (percentEncode EncodeSet.path)))

end RichText.Url.Path
