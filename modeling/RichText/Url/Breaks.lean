import RichText.Text.Blank

/-!
# Blanks in a URL

Controls and spaces around a URL do not belong to it, and tabs and line ends stand for nothing
anywhere in it.
-/
namespace RichText.Url

def trim (cs : List Char) : List Char := Text.trimBy (fun c => c.toNat ≤ 0x20) cs

def isBreak (c : Char) : Bool := c == '\t' || c == '\n' || c == '\r'

def dropBreaks (cs : List Char) : List Char := cs.filter (!isBreak ·)

end RichText.Url
