/-!
# White space

The characters with the Unicode property White_Space, and trimming by them.
-/
namespace RichText.Text

/-- A character with the Unicode property White_Space. -/
def isBlank (c : Char) : Bool :=
  let n := c.toNat
  (9 ≤ n && n ≤ 13) || n == 0x20 || n == 0x85 || n == 0xA0 || n == 0x1680 ||
    (0x2000 ≤ n && n ≤ 0x200A) || n == 0x2028 || n == 0x2029 || n == 0x202F ||
    n == 0x205F || n == 0x3000

def trimBy (p : Char → Bool) (cs : List Char) : List Char :=
  ((cs.dropWhile p).reverse.dropWhile p).reverse

def trim (cs : List Char) : List Char := trimBy isBlank cs

theorem dropWhile_of_head {p : Char → Bool} {cs : List Char}
    (solid : ∀ c, cs.head? = some c → p c = false) : cs.dropWhile p = cs := by
  cases cs with
  | nil => rfl
  | cons c cs => exact List.dropWhile_cons_of_neg (by rw [solid c rfl]; exact Bool.false_ne_true)

theorem trimBy_append {p : Char → Bool} {front core : List Char}
    (blank : ∀ c ∈ front, p c = true) (nonempty : core ≠ [])
    (first : ∀ c, core.head? = some c → p c = false)
    (last : ∀ c, core.getLast? = some c → p c = false) (rest : List Char) :
    trimBy p (front ++ core ++ rest) = core ++ (rest.reverse.dropWhile p).reverse := by
  have start : (core ++ rest).dropWhile p = core ++ rest := by
    obtain ⟨c, core, rfl⟩ := List.exists_cons_of_ne_nil nonempty
    exact dropWhile_of_head first
  have stop : core.reverse.dropWhile p = core.reverse :=
    dropWhile_of_head fun c head => last c (List.head?_reverse ▸ head)
  rw [trimBy, List.append_assoc, List.dropWhile_append_of_pos blank, start, List.reverse_append,
    List.dropWhile_append, stop]
  split
  · rename_i none
    rw [List.isEmpty_iff.mp none, List.reverse_reverse, List.reverse_nil, List.append_nil]
  · rw [List.reverse_append, List.reverse_reverse]

end RichText.Text
