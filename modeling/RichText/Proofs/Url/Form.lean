import RichText.Proofs.Url.Action

/-!
# Decoding of form-encoded text

Main statements: encoded text decodes to the text that it was made of (`decode_encode`), and one
more pair in a query is one more pair at the end of what the query decodes to, whatever the query and
the pair are (`pairs_append`).
-/
namespace RichText

/-! ## Pieces of text -/

namespace Text

theorem splitOn_eq (separator : Char) (cs : List Char) :
    splitOn separator cs = cs.splitOn separator := by
  induction cs with
  | nil => rfl
  | cons c cs ih =>
      unfold splitOn at ih ⊢
      obtain ⟨piece, pieces, split⟩ :=
        List.exists_cons_of_ne_nil (splitBy_ne_nil (· == separator) cs)
      rw [splitBy, List.splitOn_cons_eq_if_modifyHead, ← ih, split]
      rfl

end Text

/-! ## Bytes -/

namespace Url

/-- The bytes of a character in encoded text, where percent signs stand for themselves. -/
def Form.rawBytes (c : Char) : List UInt8 := String.utf8EncodeChar (if c = '+' then ' ' else c)

theorem percentDecode_cons {b : UInt8} (plain : b ≠ 0x25) (rest : List UInt8) :
    percentDecode (b :: rest) = b :: percentDecode rest := by
  rcases rest with _ | ⟨c, _ | ⟨d, rest⟩⟩
  · rfl
  · rfl
  · rw [percentDecode]
    split
    · rw [if_neg plain]
    · rfl

namespace Form

theorem decodeBytes_eq (cs : List Char) : decodeBytes cs = percentDecode (cs.flatMap rawBytes) := by
  rw [decodeBytes, Text.utf8, List.flatMap_map]
  rfl

theorem rawBytes_plain {b : UInt8} (plain : isPlain b = true) :
    rawBytes (Char.ofNat b.toNat) = [b] ∧ b ≠ 0x25 :=
  Text.forall_byte (P := fun b => isPlain b → rawBytes (Char.ofNat b.toNat) = [b] ∧ b ≠ 0x25)
    (by decide +kernel) b plain

theorem rawBytes_upperHexDigit {d : Nat} (digit : d < 16) :
    ∃ b, rawBytes (Text.upperHexDigit d) = [b] ∧ hexByte? b = some d := by
  have all : ∀ d < 16, (rawBytes (Text.upperHexDigit d)).map hexByte? = [some d] := by
    decide +kernel
  exact List.map_eq_singleton_iff.mp (all d digit)

theorem percentDecode_percentByte (b : UInt8) (rest : List UInt8) :
    percentDecode ((percentByte b).flatMap rawBytes ++ rest) = b :: percentDecode rest := by
  have small := b.toNat_lt
  obtain ⟨high, isHigh, highDigit⟩ := rawBytes_upperHexDigit (d := b.toNat / 16) (by omega)
  obtain ⟨low, isLow, lowDigit⟩ := rawBytes_upperHexDigit (d := b.toNat % 16) (by omega)
  have bytes : (percentByte b).flatMap rawBytes = [0x25, high, low] := by
    rw [percentByte, List.flatMap_cons, List.flatMap_cons, List.flatMap_singleton, isHigh, isLow]
    rfl
  rw [bytes, List.cons_append, List.cons_append, List.singleton_append, percentDecode, highDigit,
    lowDigit]
  simp only [if_true]
  rw [Nat.div_add_mod', UInt8.ofNat_toNat]

theorem decodeBytes_encodeByte (b : UInt8) (rest : List Char) :
    decodeBytes (encodeByte b ++ rest) = b :: decodeBytes rest := by
  rw [decodeBytes_eq, decodeBytes_eq, List.flatMap_append]
  unfold encodeByte
  split
  case isTrue plain =>
    obtain ⟨bytes, other⟩ := rawBytes_plain plain
    rw [List.flatMap_singleton, bytes]
    exact percentDecode_cons other _
  case isFalse =>
    split
    case isTrue isSpace =>
      rw [isSpace]
      exact percentDecode_cons (by decide) _
    case isFalse => exact percentDecode_percentByte b _

/-! ## Texts -/

theorem decodeBytes_flatMap (bytes : List UInt8) :
    decodeBytes (bytes.flatMap encodeByte) = bytes := by
  induction bytes with
  | nil => rfl
  | cons b bytes ih => rw [List.flatMap_cons, decodeBytes_encodeByte, ih]

theorem decode_encode (cs : List Char) : decode (encode cs) = cs := by
  rw [decode, encode, decodeBytes_flatMap, Text.ofUtf8Lossy_utf8]

/-! ## Pairs -/

theorem pairs_encodePair (name value : List Char) :
    pairs (encodePair name value) = [(name, value)] := by
  have whole : '&' ∉ encodePair name value := by
    have encoded (cs : List Char) : '&' ∉ encode cs := not_mem_encode rfl cs
    simp [encodePair, encoded]
  have counts : [encodePair name value].filter (! ·.isEmpty) = [encodePair name value] :=
    List.filter_cons_of_pos (by simp [encodePair])
  have cut : splitPair (encodePair name value) = (encode name, encode value) := by
    rw [splitPair, encodePair, Text.cut?_append (not_mem_encode rfl name), Option.getD_some]
  rw [pairs, Text.splitOn_eq, List.splitOn_eq_singleton whole, counts, List.map_singleton, cut]
  simp only [decode_encode]

theorem pairs_append (query name value : List Char) :
    pairs (append query name value) = pairs query ++ [(name, value)] := by
  rw [← pairs_encodePair name value]
  unfold append
  split
  case isTrue isEmpty =>
    rw [List.isEmpty_iff.mp isEmpty]
    rfl
  case isFalse =>
    simp only [pairs, Text.splitOn_eq, List.splitOn_append_cons_self, List.filter_append,
      List.map_append]

end Form

end Url

end RichText
