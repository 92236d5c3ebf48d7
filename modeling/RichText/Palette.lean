import RichText.Color
import RichText.Text.Utf8

/-!
# Palette

The fixed colours of rendered documents. A mention takes its colour from a hash of the identifier
it names, so an identifier has one colour everywhere.
-/
namespace RichText.Palette

def highlight : Color := ⟨0xFF, 0xF1, 0x76, 0xFF⟩

def quoted : Color := ⟨0x61, 0x61, 0x61, 0xFF⟩

def mentions : Vector Color 16 := #v[
  ⟨0xE5, 0x39, 0x35, 0xFF⟩,
  ⟨0xD8, 0x1B, 0x60, 0xFF⟩,
  ⟨0x8E, 0x24, 0xAA, 0xFF⟩,
  ⟨0x5E, 0x35, 0xB1, 0xFF⟩,
  ⟨0x39, 0x49, 0xAB, 0xFF⟩,
  ⟨0x1E, 0x88, 0xE5, 0xFF⟩,
  ⟨0x03, 0x9B, 0xE5, 0xFF⟩,
  ⟨0x00, 0xAC, 0xC1, 0xFF⟩,
  ⟨0x00, 0x89, 0x7B, 0xFF⟩,
  ⟨0x43, 0xA0, 0x47, 0xFF⟩,
  ⟨0x7C, 0xB3, 0x42, 0xFF⟩,
  ⟨0xC0, 0xCA, 0x33, 0xFF⟩,
  ⟨0xFB, 0x8C, 0x00, 0xFF⟩,
  ⟨0xF4, 0x51, 0x1E, 0xFF⟩,
  ⟨0x6D, 0x4C, 0x41, 0xFF⟩,
  ⟨0x54, 0x6E, 0x7A, 0xFF⟩]

def fnv1a (bytes : List UInt8) : UInt32 :=
  bytes.foldl (fun hash b => (hash ^^^ b.toUInt32) * 0x01000193) 0x811C9DC5

def mentionIndex (bytes : List UInt8) : Fin 16 :=
  ⟨(fnv1a bytes).toNat % 16, Nat.mod_lt _ (by decide)⟩

def mention (identifier : String) : Color :=
  mentions.get (mentionIndex (Text.utf8 identifier.toList))

end RichText.Palette
