import Mathlib.Data.List.Forall2
import RichText.Palette

/-!
# Colours of mentions

The colour of an identifier is a matter of the low four bits of its bytes. Modulo sixteen the hash
is the same fold over residues (`mentionIndex_eq_residue`), and each step of that fold permutes both
the residues of the hash and those of the byte. Main statement: identifiers whose bytes agree modulo
sixteen have one colour, and a single byte tells two identifiers apart exactly if it does not agree
(`mention_residues`).
-/
namespace RichText.Palette

/-! ## The hash modulo sixteen -/

def low (b : UInt8) : Fin 16 := Fin.ofNat 16 b.toNat

def mix (hash byte : Fin 16) : Fin 16 := (hash ^^^ byte) * 0x01000193

def residueFrom (hash : Fin 16) (bytes : List UInt8) : Fin 16 := (bytes.map low).foldl mix hash

/-- The hash of some bytes, computed modulo sixteen. -/
def residue (bytes : List UInt8) : Fin 16 := residueFrom 0x811C9DC5 bytes

theorem low_eq_iff {x y : UInt8} : low x = low y ↔ x.toNat % 16 = y.toNat % 16 := Fin.ext_iff

theorem residueFrom_cons (hash : Fin 16) (b : UInt8) (bytes : List UInt8) :
    residueFrom hash (b :: bytes) = residueFrom (mix hash (low b)) bytes := rfl

theorem residueFrom_append (hash : Fin 16) (front back : List UInt8) :
    residueFrom hash (front ++ back) = residueFrom (residueFrom hash front) back := by
  rw [residueFrom, List.map_append, List.foldl_append, residueFrom, residueFrom]

theorem mix_low (hash : UInt32) (b : UInt8) :
    mix (Fin.ofNat 16 hash.toNat) (low b) =
      Fin.ofNat 16 ((hash ^^^ b.toUInt32) * 0x01000193).toNat := by
  have mixed : (hash.toNat ^^^ b.toNat) % 16 = hash.toNat % 16 ^^^ b.toNat % 16 :=
    Nat.xor_mod_two_pow (n := 4)
  have multiplied : ((hash ^^^ b.toUInt32) * 0x01000193).toNat % 16 =
      (hash.toNat ^^^ b.toNat) % 16 * (0x01000193 % 16) % 16 := by
    rw [UInt32.toNat_mul, UInt32.toNat_xor, UInt8.toNat_toUInt32, Nat.mod_mod_of_dvd _ (by decide),
      Nat.mul_mod]
    rfl
  apply Fin.ext
  change (hash.toNat % 16 ^^^ b.toNat % 16) % 16 * (0x01000193 % 16) % 16 = _ % 16
  rw [multiplied, ← mixed, Nat.mod_mod]

theorem residueFrom_low (hash : UInt32) (bytes : List UInt8) :
    residueFrom (Fin.ofNat 16 hash.toNat) bytes =
      Fin.ofNat 16
        (bytes.foldl (fun hash b => (hash ^^^ b.toUInt32) * 0x01000193) hash).toNat := by
  induction bytes generalizing hash with
  | nil => rfl
  | cons b bytes ih => rw [List.foldl_cons, ← ih, ← mix_low, residueFrom_cons]

theorem mentionIndex_eq_residue (bytes : List UInt8) : mentionIndex bytes = residue bytes :=
  (residueFrom_low 0x811C9DC5 bytes).symm

/-! ## Steps are permutations -/

theorem mix_comm : ∀ hash byte : Fin 16, mix hash byte = mix byte hash := by decide

/-- The prime is odd, so multiplying by it can be undone. -/
theorem unmix (byte : Fin 16) :
    Function.LeftInverse (fun mixed => mixed * 11 ^^^ byte) (mix · byte) := by
  intro hash
  revert hash byte
  decide

theorem mix_left_injective (byte : Fin 16) : Function.Injective (mix · byte) :=
  (unmix byte).injective

theorem mix_right_injective (hash : Fin 16) : Function.Injective (mix hash) := by
  intro x y same
  rw [mix_comm, mix_comm hash] at same
  exact mix_left_injective hash same

theorem residueFrom_injective (bytes : List UInt8) : Function.Injective (residueFrom · bytes) := by
  induction bytes with
  | nil => exact Function.injective_id
  | cons b bytes ih => exact ih.comp (mix_left_injective (low b))

theorem residue_eq_iff (front back : List UInt8) (x y : UInt8) :
    residue (front ++ x :: back) = residue (front ++ y :: back) ↔ low x = low y := by
  rw [residue, residue, residueFrom_append, residueFrom_append]
  constructor
  · intro same
    -- Neither the steps behind the byte nor the step at it make two residues one.
    exact mix_right_injective _ (residueFrom_injective back same)
  · intro same
    rw [residueFrom_cons, residueFrom_cons, same]

theorem residue_congr {bytes bytes' : List UInt8}
    (agree : List.Forall₂ (fun x y => x.toNat % 16 = y.toNat % 16) bytes bytes') :
    residue bytes = residue bytes' := by
  have lows : bytes.map low = bytes'.map low := by
    rw [← List.forall₂_eq_eq_eq, List.forall₂_map_left_iff, List.forall₂_map_right_iff]
    exact agree.imp fun _ _ same => low_eq_iff.mpr same
  rw [residue, residue, residueFrom, residueFrom, lows]

/-! ## Colours -/

theorem mentions_injective : Function.Injective mentions.get := by
  intro i j
  revert i j
  decide +kernel

theorem mention_eq_iff (a b : String) :
    mention a = mention b ↔ residue (Text.utf8 a.toList) = residue (Text.utf8 b.toList) := by
  rw [mention, mention, mentionIndex_eq_residue, mentionIndex_eq_residue]
  exact mentions_injective.eq_iff

theorem mention_residues (a b : String) :
    (List.Forall₂ (fun x y => x.toNat % 16 = y.toNat % 16) (Text.utf8 a.toList)
        (Text.utf8 b.toList) → mention a = mention b) ∧
      (∀ front x y back, Text.utf8 a.toList = front ++ x :: back →
        Text.utf8 b.toList = front ++ y :: back →
          (mention a = mention b ↔ x.toNat % 16 = y.toNat % 16)) ∧
      (∀ bytes, (fnv1a bytes).toNat % mentions.size = residue bytes) ∧
      mentions[(fnv1a (Text.utf8 a.toList)).toNat % mentions.size]? = some (mention a) := by
  refine ⟨?_, ?_, ?_, ?_⟩
  · intro agree
    exact (mention_eq_iff a b).mpr (residue_congr agree)
  · intro front x y back bytes bytes'
    rw [mention_eq_iff, bytes, bytes', residue_eq_iff, low_eq_iff]
  · intro bytes
    exact congrArg Fin.val (mentionIndex_eq_residue bytes)
  · exact Vector.getElem?_eq_getElem (mentionIndex (Text.utf8 a.toList)).isLt

/-- The digit 1 and the letter A have the same low bits, the digits 1 and 2 have not. -/
theorem mention_residues_usr :
    List.Forall₂ (fun x y => x.toNat % 16 = y.toNat % 16) (Text.utf8 "usr1".toList)
        (Text.utf8 "usrA".toList) ∧
      mention "usr1" = mention "usrA" ∧
      Text.utf8 "usr1".toList = [0x75, 0x73, 0x72] ++ 0x31 :: [] ∧
      Text.utf8 "usr2".toList = [0x75, 0x73, 0x72] ++ 0x32 :: [] ∧
      mention "usr1" ≠ mention "usr2" := by
  have agree : List.Forall₂ (fun x y => x.toNat % 16 = y.toNat % 16) (Text.utf8 "usr1".toList)
      (Text.utf8 "usrA".toList) := by decide
  have one : Text.utf8 "usr1".toList = [0x75, 0x73, 0x72] ++ 0x31 :: [] := by decide
  have two : Text.utf8 "usr2".toList = [0x75, 0x73, 0x72] ++ 0x32 :: [] := by decide
  refine ⟨agree, (mention_residues "usr1" "usrA").1 agree, one, two, ?_⟩
  rw [Ne, (mention_residues "usr1" "usr2").2.1 _ _ _ _ one two]
  decide

end RichText.Palette
