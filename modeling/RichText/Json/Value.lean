import RichText.Decimal.Binary64

/-!
# JSON values

Numbers keep whole values from `-2 ^ 63` to `2 ^ 64 - 1` exactly; all others are binary64. A value
is a tree with the members of each object as they stand; the objects that documents keep have theirs
in order (`Fields`).
-/
namespace RichText.Json

/-- A whole number that some 64-bit word holds, signed or not. -/
structure Whole where
  val : Int
  lower : -0x8000_0000_0000_0000 ≤ val
  upper : val < 0x1_0000_0000_0000_0000
deriving DecidableEq, Repr

inductive Number where
  | whole (value : Whole)
  | double (value : Decimal.Binary64)
deriving DecidableEq, Repr

inductive Value where
  | null
  | bool (value : Bool)
  | number (value : Number)
  | string (value : String)
  | array (items : List Value)
  | object (members : List (String × Value))
deriving Repr, Inhabited

abbrev Members := List (String × Value)

namespace Whole

theorem ext {a b : Whole} (h : a.val = b.val) : a = b := by
  cases a; cases b; simp_all

def ofNat? (n : Nat) : Option Whole :=
  if h : (n : Int) < 0x1_0000_0000_0000_0000 then some ⟨n, by omega, h⟩ else none

def toUInt64? (w : Whole) : Option UInt64 :=
  if 0 ≤ w.val then some (UInt64.ofNat w.val.toNat) else none

def ofUInt64 (n : UInt64) : Whole :=
  ⟨n.toNat, by omega, by have := n.toNat_lt; omega⟩

theorem toUInt64?_ofUInt64 (n : UInt64) : (ofUInt64 n).toUInt64? = some n := by
  simp [toUInt64?, ofUInt64]

theorem toUInt64?_eq_some {w : Whole} {k : UInt64} : w.toUInt64? = some k ↔ w.val = k.toNat := by
  have upper := w.upper
  unfold toUInt64?
  constructor
  · intro same
    split at same
    · cases same
      rw [UInt64.toNat_ofNat', Nat.mod_eq_of_lt (by omega)]
      omega
    · cases same
  · intro same
    rw [if_pos (by omega), same, Int.toNat_natCast, UInt64.ofNat_toNat]

end Whole

namespace Members

/-- Puts a member in its place; the last value given to a name stays. -/
def insert (name : String) (value : Value) : Members → Members
  | [] => [(name, value)]
  | (first, v) :: rest =>
    if name = first then (name, value) :: rest
    else if name < first then (name, value) :: (first, v) :: rest
    else (first, v) :: insert name value rest

theorem lookup_cons (name : String) (value : Value) (rest : Members) (other : String) :
    List.lookup other ((name, value) :: rest) =
      if other = name then some value else rest.lookup other := by
  by_cases h : other = name
  · simp [h]
  · have hb : (other == name) = false := by simpa using h
    simp [List.lookup_cons, h, hb]

theorem lookup_insert (name : String) (value : Value) (members : Members) (other : String) :
    (insert name value members).lookup other =
      if other = name then some value else members.lookup other := by
  induction members with
  | nil => rw [insert, lookup_cons]
  | cons member rest ih =>
    obtain ⟨first, v⟩ := member
    rw [insert]
    split
    · rename_i h
      subst h
      simp only [lookup_cons]
      split <;> rfl
    · split
      · simp only [lookup_cons]
      · rename_i h _
        simp only [lookup_cons, ih]
        split
        · rename_i h'
          rw [if_neg (fun e => h (e.symm.trans h'))]
        · rfl

end Members

end RichText.Json
