import RichText.Text.Split
import RichText.Url.Percent

/-!
# Form encoding

Names and values of a query: `name=value&name=value`, with a plus sign for a space and `%XX` for
every byte that is not a letter, a digit, or one of `*-._`. Main statement: encoded text holds no
other marks than these, a plus sign and a percent sign (`isWritten_of_mem_encode`).
-/
namespace RichText.Url.Form

def isPlain (b : UInt8) : Bool :=
  (0x30 ≤ b && b ≤ 0x39) || (0x41 ≤ b && b ≤ 0x5A) || (0x61 ≤ b && b ≤ 0x7A) ||
    b == 0x2A || b == 0x2D || b == 0x2E || b == 0x5F

def encodeByte (b : UInt8) : List Char :=
  if isPlain b then [Char.ofNat b.toNat] else if b = 0x20 then ['+'] else percentByte b

def encode (cs : List Char) : List Char := (Text.utf8 cs).flatMap encodeByte

def encodePair (name value : List Char) : List Char := encode name ++ '=' :: encode value

def append (query : List Char) (name value : List Char) : List Char :=
  if query.isEmpty then encodePair name value else query ++ '&' :: encodePair name value

def decodeBytes (cs : List Char) : List UInt8 :=
  percentDecode (Text.utf8 (cs.map fun c => if c = '+' then ' ' else c))

def decode (cs : List Char) : List Char := Text.ofUtf8Lossy (decodeBytes cs)

def splitPair (cs : List Char) : List Char × List Char := (Text.cut? '=' cs).getD (cs, [])

def pairs (query : List Char) : List (List Char × List Char) :=
  ((Text.splitOn '&' query).filter (! ·.isEmpty)).map fun piece =>
    let (name, value) := splitPair piece
    (decode name, decode value)

/-! ## Characters of encoded text -/

def isWritten (c : Char) : Bool := c.isAlphanum || ['*', '-', '.', '_', '+', '%'].contains c

theorem isWritten_of_mem_encode {c : Char} {cs : List Char} (h : c ∈ encode cs) : isWritten c := by
  obtain ⟨b, -, member⟩ := List.mem_flatMap.mp h
  have written : (encodeByte b).all isWritten :=
    Text.forall_byte (P := fun b => (encodeByte b).all isWritten) (by decide +kernel) b
  exact List.all_eq_true.mp written c member

theorem not_mem_encode {c : Char} (h : isWritten c = false) (cs : List Char) : c ∉ encode cs :=
  fun member => Bool.false_ne_true (h.symm.trans (isWritten_of_mem_encode member))

end RichText.Url.Form
