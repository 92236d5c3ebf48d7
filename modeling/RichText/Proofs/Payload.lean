import Mathlib.Tactic.SplitIfs
import RichText.Attachment

/-!
# Payloads of attachments

Main statements: a text decodes to bytes exactly if it is their encoding (`Base64.decode?_eq_some`);
and what an attachment takes from the data of its span, where a file without such bytes and without a
reference is empty (`Attachment.file_payload`).
-/
namespace RichText

namespace Base64

/-! ## The alphabet -/

theorem sextet?_ofSextet {n : Nat} (small : n < 64) : sextet? (ofSextet n) = some n :=
  (by decide +kernel : ∀ n < 64, sextet? (ofSextet n) = some n) n small

theorem ofSextet_ne_pad {n : Nat} (small : n < 64) : ofSextet n ≠ '=' :=
  (by decide +kernel : ∀ n < 64, ofSextet n ≠ '=') n small

theorem toNat_lt_of_sextet? {c : Char} {n : Nat} (value : sextet? c = some n) : c.toNat < 128 := by
  unfold sextet? at value
  split_ifs at value with upper lower digit plus slash
  · exact Nat.lt_of_le_of_lt upper.2 (by decide)
  · exact Nat.lt_of_le_of_lt lower.2 (by decide)
  · exact Nat.lt_of_le_of_lt digit.2 (by decide)
  · rw [plus]
    decide
  · rw [slash]
    decide

theorem sextet?_eq_some {c : Char} {n : Nat} : sextet? c = some n ↔ n < 64 ∧ c = ofSextet n := by
  constructor
  · intro value
    have ascii : ∀ k < 128, ∀ n ∈ sextet? (Char.ofNat k), n < 64 ∧ Char.ofNat k = ofSextet n := by
      decide +kernel
    have sound := ascii c.toNat (toNat_lt_of_sextet? value)
    rw [Char.ofNat_toNat] at sound
    exact sound n value
  · rintro ⟨small, rfl⟩
    exact sextet?_ofSextet small

/-! ## Groups -/

variable {a b c d : Char} {bytes : List UInt8}

theorem ofNat_eq_of_toNat {n : Nat} {x : UInt8} (same : n = x.toNat) : UInt8.ofNat n = x := by
  rw [same, UInt8.ofNat_toNat]

theorem toNat_ofNat {n : Nat} (small : n < 256) : (UInt8.ofNat n).toNat = n :=
  UInt8.toNat_ofNat_of_lt' small

theorem lastByte?_eq_some :
    lastByte? a b = some bytes ↔
      ∃ x : UInt8, bytes = [x] ∧ a = ofSextet (x.toNat / 4) ∧ b = ofSextet (x.toNat % 4 * 16) := by
  simp only [lastByte?, Option.bind_eq_bind, Option.bind_eq_some_iff, sextet?_eq_some]
  constructor
  · rintro ⟨m, ⟨hm, rfl⟩, n, ⟨hn, rfl⟩, made⟩
    split at made
    case isTrue clear =>
      cases made
      have value := toNat_ofNat (n := m * 4 + n / 16) (by omega)
      refine ⟨_, rfl, ?_, ?_⟩ <;> rw [value] <;> congr 1 <;> omega
    case isFalse => cases made
  · rintro ⟨x, rfl, rfl, rfl⟩
    have small := x.toNat_lt
    refine ⟨_, ⟨by omega, rfl⟩, _, ⟨by omega, rfl⟩, ?_⟩
    rw [if_pos (by omega), ofNat_eq_of_toNat (x := x) (by omega)]

theorem lastBytes?_eq_some :
    lastBytes? a b c = some bytes ↔
      ∃ x y : UInt8, bytes = [x, y] ∧ a = ofSextet (x.toNat / 4) ∧
        b = ofSextet (x.toNat % 4 * 16 + y.toNat / 16) ∧ c = ofSextet (y.toNat % 16 * 4) := by
  simp only [lastBytes?, Option.bind_eq_bind, Option.bind_eq_some_iff, sextet?_eq_some]
  constructor
  · rintro ⟨m, ⟨hm, rfl⟩, n, ⟨hn, rfl⟩, l, ⟨hl, rfl⟩, made⟩
    split at made
    case isTrue clear =>
      cases made
      have first := toNat_ofNat (n := m * 4 + n / 16) (by omega)
      have second := toNat_ofNat (n := n % 16 * 16 + l / 4) (by omega)
      refine ⟨_, _, rfl, ?_, ?_, ?_⟩ <;> simp only [first, second] <;> congr 1 <;> omega
    case isFalse => cases made
  · rintro ⟨x, y, rfl, rfl, rfl, rfl⟩
    have smallX := x.toNat_lt
    have smallY := y.toNat_lt
    refine ⟨_, ⟨by omega, rfl⟩, _, ⟨by omega, rfl⟩, _, ⟨by omega, rfl⟩, ?_⟩
    rw [if_pos (by omega), ofNat_eq_of_toNat (x := x) (by omega),
      ofNat_eq_of_toNat (x := y) (by omega)]

theorem bytes?_eq_some :
    bytes? a b c d = some bytes ↔
      ∃ x y z : UInt8, bytes = [x, y, z] ∧ a = ofSextet (x.toNat / 4) ∧
        b = ofSextet (x.toNat % 4 * 16 + y.toNat / 16) ∧
        c = ofSextet (y.toNat % 16 * 4 + z.toNat / 64) ∧ d = ofSextet (z.toNat % 64) := by
  simp only [bytes?, Option.bind_eq_bind, Option.bind_eq_some_iff, sextet?_eq_some]
  constructor
  · rintro ⟨m, ⟨hm, rfl⟩, n, ⟨hn, rfl⟩, l, ⟨hl, rfl⟩, k, ⟨hk, rfl⟩, made⟩
    cases made
    have first := toNat_ofNat (n := m * 4 + n / 16) (by omega)
    have second := toNat_ofNat (n := n % 16 * 16 + l / 4) (by omega)
    have third := toNat_ofNat (n := l % 4 * 64 + k) (by omega)
    refine ⟨_, _, _, rfl, ?_, ?_, ?_, ?_⟩ <;> simp only [first, second, third] <;> congr 1 <;> omega
  · rintro ⟨x, y, z, rfl, rfl, rfl, rfl, rfl⟩
    have smallX := x.toNat_lt
    have smallY := y.toNat_lt
    have smallZ := z.toNat_lt
    refine ⟨_, ⟨by omega, rfl⟩, _, ⟨by omega, rfl⟩, _, ⟨by omega, rfl⟩, _, ⟨by omega, rfl⟩, ?_⟩
    rw [ofNat_eq_of_toNat (x := x) (by omega), ofNat_eq_of_toNat (x := y) (by omega),
      ofNat_eq_of_toNat (x := z) (by omega)]

/-! ## Texts -/

theorem eq_encode_of_decode? {cs : List Char} (decoded : decode? cs = some bytes) :
    cs = encode bytes := by
  fun_induction decode? cs generalizing bytes with
  | case1 =>
      cases decoded
      rfl
  | case2 a b =>
      obtain ⟨x, rfl, rfl, rfl⟩ := lastByte?_eq_some.mp decoded
      rfl
  | case3 a b c =>
      obtain ⟨x, y, rfl, rfl, rfl, rfl⟩ := lastBytes?_eq_some.mp decoded
      rfl
  | case4 a b c d rest _ _ ih =>
      obtain ⟨first, group, decoded⟩ := Option.bind_eq_some_iff.mp decoded
      obtain ⟨more, others, made⟩ := Option.bind_eq_some_iff.mp decoded
      obtain ⟨x, y, z, rfl, rfl, rfl, rfl, rfl⟩ := bytes?_eq_some.mp group
      cases made
      rw [ih others]
      rfl
  | case5 => cases decoded

theorem decode?_encode (bytes : List UInt8) : decode? (encode bytes) = some bytes := by
  fun_induction encode bytes with
  | case1 => rfl
  | case2 x =>
      rw [decode?]
      exact lastByte?_eq_some.mpr ⟨x, rfl, rfl, rfl⟩
  | case3 x y =>
      have noPad : ofSextet (y.toNat % 16 * 4) ≠ '=' := ofSextet_ne_pad (by omega)
      rw [decode?]
      · exact lastBytes?_eq_some.mpr ⟨x, y, rfl, rfl, rfl, rfl⟩
      · exact fun pad => noPad pad
  | case4 x y z rest ih =>
      have noPad : ofSextet (z.toNat % 64) ≠ '=' := ofSextet_ne_pad (by omega)
      rw [decode?, bytes?_eq_some.mpr ⟨x, y, z, rfl, rfl, rfl, rfl, rfl⟩, ih]
      · rfl
      · exact fun _ pad _ => noPad pad
      · exact fun pad _ => noPad pad

theorem decode?_eq_some {cs : List Char} : decode? cs = some bytes ↔ cs = encode bytes := by
  constructor
  · exact eq_encode_of_decode?
  · rintro rfl
    exact decode?_encode bytes

example : encode [0x68, 0x65, 0x6C, 0x6C, 0x6F] = "aGVsbG8=".toList := by decide

end Base64

/-! ## Attachments -/

namespace Attachment

variable (data : Json.Fields)

def Holds (data : Json.Fields) (bytes : List UInt8) : Prop :=
  data.text? "val" = some (String.ofList (Base64.encode bytes))

theorem bits_ofData {kind : Kind} {bytes : List UInt8} :
    (ofData kind data).bits = some bytes ↔ Holds data bytes := by
  have same (s : String) :
      s.toList = Base64.encode bytes ↔ s = String.ofList (Base64.encode bytes) := by
    rw [← String.toList_inj, String.toList_ofList]
  simp only [ofData, Option.bind_eq_some_iff, Base64.decode?_eq_some, same, Holds,
    exists_eq_right]

theorem hasPayload_ofData (kind : Kind) :
    (ofData kind data).hasPayload = true ↔
      (∃ bytes, Holds data bytes) ∨ ∃ reference, data.text? "ref" = some reference := by
  rw [hasPayload, Bool.or_eq_true, Option.isSome_iff_exists, Option.isSome_iff_exists]
  simp only [bits_ofData]
  rfl

/-- A file without payload has become an empty attachment. -/
theorem file_cases (data : Json.Fields) :
    ((ofData .data data).hasPayload = true ∧ file data = ofData .data data) ∨
      ((ofData .data data).hasPayload = false ∧
        file data = { ofData .data data with kind := .empty }) := by
  unfold file
  cases payload : (ofData .data data).hasPayload with
  | true => exact .inl ⟨rfl, by rw [if_pos payload]⟩
  | false => exact .inr ⟨rfl, by simp only [payload, Bool.false_eq_true, if_false]⟩

theorem file_payload :
    (∀ bytes, (file data).bits = some bytes ↔ Holds data bytes) ∧
      ((file data).kind = .data ↔
        (∃ bytes, Holds data bytes) ∨ ∃ reference, data.text? "ref" = some reference) ∧
      ((file data).kind ≠ .data → (file data).kind = .empty) ∧
      file data =
        { kind := (file data).kind
          bits := (file data).bits
          reference := data.text? "ref"
          mime := data.text? "mime"
          name := data.scalar? "name"
          size := data.natural? "size"
          width := none
          height := none } ∧
      image data =
        { file data with
          kind := .image
          width := data.natural? "width"
          height := data.natural? "height" } := by
  rw [← hasPayload_ofData data .data]
  rcases file_cases data with ⟨payload, same⟩ | ⟨nothing, same⟩
  · rw [same]
    refine ⟨fun bytes => bits_ofData data, iff_of_true rfl payload, fun other => ?_, rfl, rfl⟩
    exact absurd rfl other
  · rw [same, nothing]
    refine ⟨fun bytes => bits_ofData data, ?_, fun _ => rfl, rfl, rfl⟩
    exact iff_of_false nofun Bool.false_ne_true

end Attachment

end RichText
