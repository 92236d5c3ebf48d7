/-!
# Tags

What a span of a document means, and the two-letter codes of the wire format. A tag that is not
known keeps its spelling. Main statement: code and tag determine each other.
-/
namespace RichText

inductive Tag where
  | lineBreak
  | strong
  | emphasis
  | strikethrough
  | highlight
  | code
  | mention
  | hashtag
  | link
  | image
  | file
  | button
  | quote
  | form
  | row
  | other (spelling : String)
deriving DecidableEq, Repr, Inhabited

namespace Tag

def spelling : Tag → String
  | lineBreak => "BR"
  | strong => "ST"
  | emphasis => "EM"
  | strikethrough => "DL"
  | highlight => "HL"
  | code => "CO"
  | mention => "MN"
  | hashtag => "HT"
  | link => "LN"
  | image => "IM"
  | file => "EX"
  | button => "BN"
  | quote => "QQ"
  | form => "FM"
  | row => "RW"
  | other s => s

def ofSpelling (s : String) : Tag :=
  match s with
  | "BR" => lineBreak
  | "ST" => strong
  | "EM" => emphasis
  | "DL" => strikethrough
  | "HL" => highlight
  | "CO" => code
  | "MN" => mention
  | "HT" => hashtag
  | "LN" => link
  | "IM" => image
  | "EX" => file
  | "BN" => button
  | "QQ" => quote
  | "FM" => form
  | "RW" => row
  | s => other s

def isKnown : Tag → Bool
  | other _ => false
  | _ => true

theorem spelling_ofSpelling (s : String) : (ofSpelling s).spelling = s := by
  unfold ofSpelling
  split <;> rfl

theorem ofSpelling_spelling {t : Tag} (h : t.isKnown) : ofSpelling t.spelling = t := by
  cases t <;> first | rfl | simp [isKnown] at h

end Tag

end RichText
