/-!
# UTF-8

Text as bytes and back. Main statements: decoding the bytes of a text gives the text, whether bytes
that are not well-formed are refused (`ofUtf8?_utf8`) or replaced (`ofUtf8Lossy_utf8`).
-/
namespace RichText.Text

theorem forall_byte {P : UInt8 → Prop} (h : ∀ n : Fin 256, P (UInt8.ofNat n)) (b : UInt8) : P b := by
  have := h ⟨b.toNat, b.toNat_lt⟩
  rwa [UInt8.ofNat_toNat] at this

def utf8 (cs : List Char) : List UInt8 := cs.flatMap String.utf8EncodeChar

def ofUtf8? (bytes : List UInt8) : Option (List Char) :=
  (String.fromUTF8? bytes.toByteArray).map String.toList

theorem toByteArray_utf8 (cs : List Char) :
    (utf8 cs).toByteArray = (String.ofList cs).toByteArray := by
  simp [utf8, List.utf8Encode]

theorem ofUtf8?_utf8 (cs : List Char) : ofUtf8? (utf8 cs) = some cs := by
  have h : String.fromUTF8? (String.ofList cs).toByteArray = some (String.ofList cs) :=
    dif_pos (String.ofList cs).isValidUTF8
  rw [ofUtf8?, toByteArray_utf8, h, Option.map_some, String.toList_ofList]

def isTail (b : UInt8) : Bool := 0x80 ≤ b && b ≤ 0xBF

def startsChar (first second : UInt8) : Bool :=
  if first = 0xE0 then 0xA0 ≤ second && second ≤ 0xBF
  else if first = 0xED then 0x80 ≤ second && second ≤ 0x9F
  else if first = 0xF0 then 0x90 ≤ second && second ≤ 0xBF
  else if first = 0xF4 then 0x80 ≤ second && second ≤ 0x8F
  else 0xC2 ≤ first && first ≤ 0xF4 && isTail second

/-- How many bytes behind the first one belong to the same character, where that breaks off. -/
def brokenTail (first : UInt8) : List UInt8 → Nat
  | [] => 0
  | second :: rest =>
    if !startsChar first second then 0
    else if 0xF0 ≤ first ∧ rest.head?.any isTail then 2
    else 1

/-- The characters that the bytes write. U+FFFD stands for a character that breaks off, and for every
other byte that writes none. -/
def ofUtf8Lossy : List UInt8 → List Char
  | [] => []
  | first :: rest =>
    match (first :: rest).toByteArray.utf8DecodeChar? 0 with
    | some c => c :: ofUtf8Lossy (rest.drop (c.utf8Size - 1))
    | none => '\ufffd' :: ofUtf8Lossy (rest.drop (brokenTail first rest))
termination_by bytes => bytes.length
decreasing_by all_goals exact Nat.lt_succ_of_le (List.drop_sublist _ rest).length_le

theorem ofUtf8Lossy_utf8 (cs : List Char) : ofUtf8Lossy (utf8 cs) = cs := by
  induction cs with
  | nil => rw [utf8, List.flatMap_nil, ofUtf8Lossy]
  | cons c cs ih =>
    have bytes : utf8 (c :: cs) = String.utf8EncodeChar c ++ utf8 cs := List.flatMap_cons
    have read : (utf8 (c :: cs)).toByteArray.utf8DecodeChar? 0 = some c := by
      rw [bytes, List.toByteArray_append]
      exact ByteArray.utf8DecodeChar?_utf8EncodeChar_append
    have length : (String.utf8EncodeChar c).length = c.utf8Size := String.length_utf8EncodeChar c
    cases written : String.utf8EncodeChar c with
    | nil =>
      rw [written, List.length_nil] at length
      exact absurd c.utf8Size_pos (length ▸ Nat.lt_irrefl 0)
    | cons first tail =>
      rw [written] at bytes length
      rw [bytes, List.cons_append] at read ⊢
      simp only [ofUtf8Lossy, read]
      rw [← length, List.length_cons, Nat.add_sub_cancel, List.drop_left, ih]

def byteLength (cs : List Char) : Nat := cs.foldl (fun length c => length + c.utf8Size) 0

end RichText.Text
