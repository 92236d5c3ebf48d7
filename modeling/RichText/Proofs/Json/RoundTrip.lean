import RichText.Json.Order
import RichText.Json.Reader
import RichText.Proofs.Json.Words

/-!
# Written values

A value without doubles, once written, reads back as what it was (`value_write`). The fields of its
objects have to stand in the order that the reader gives them.
-/
namespace RichText.Json

def Value.isNoDouble : Value → Bool
  | .number (.double _) => false
  | _ => true

/-! ## Text behind an opening bracket -/

/-- The items of a list and its end; a comma stands before each but the first. -/
def itemsText (first : Bool) : List Value → List Char
  | [] => [']']
  | v :: rest => (if first then [] else [',']) ++ (v.write ++ itemsText false rest)

def membersText (first : Bool) : List (String × Value) → List Char
  | [] => ['\x7d']
  | (name, v) :: rest =>
    (if first then [] else [',']) ++
      ('"' :: (writeTail name ++ ':' :: (v.write ++ membersText false rest)))

theorem writeItems_eq (vs : List Value) : writeItems vs = itemsText false vs := by
  induction vs with
  | nil => rfl
  | cons v rest ih => rw [writeItems, ih]; rfl

theorem writeMembers_eq (fields : List (String × Value)) :
    writeMembers fields = membersText false fields := by
  induction fields with
  | nil => rfl
  | cons field rest ih => rw [writeMembers, ih]; rfl

theorem write_array (items : List Value) :
    (Value.array items).write = '[' :: itemsText true items := by
  cases items with
  | nil => rw [Value.write]; rfl
  | cons v rest => rw [Value.write, writeItems_eq]; rfl

theorem write_object (fields : List (String × Value)) :
    (Value.object fields).write = '\x7b' :: membersText true fields := by
  cases fields with
  | nil => rw [Value.write]; rfl
  | cons field rest => rw [Value.write, writeMembers_eq]; rfl

/-! ## Readers of punctuation -/

theorem skipBlanks_cons {c : Char} (solid : isBlank c = false) (s : List Char) :
    skipBlanks (c :: s) = c :: s :=
  List.dropWhile_cons_of_neg (by simp [solid])

theorem not_isBlank_of_startsNumber {c : Char} (starts : startsNumber c = true) :
    isBlank c = false := by
  rw [← Bool.not_eq_true]
  intro blank
  simp only [isBlank, Bool.or_eq_true, beq_iff_eq] at blank
  rcases blank with ((rfl | rfl) | rfl) | rfl <;> cases starts

theorem startsNumber_write (w : Whole) :
    ∃ c s, w.write = c :: s ∧ startsNumber c = true := by
  unfold Whole.write
  split
  · exact ⟨_, _, rfl, rfl⟩
  · obtain ⟨d, ds, same⟩ := List.exists_cons_of_ne_nil (toDigits_ne_nil w.val.natAbs)
    have digit : Text.isDigit d = true := isDigit_of_mem_toDigits (same ▸ List.mem_cons_self)
    exact ⟨d, ds, same, by rw [startsNumber, digit, Bool.or_true]⟩

/-- A written value starts with a character that is neither blank nor the end of a list. -/
theorem write_eq_cons (v : Value) (exact : v.every Value.isNoDouble) :
    ∃ c s, v.write = c :: s ∧ isBlank c = false ∧ c ≠ ']' := by
  cases v with
  | null => exact ⟨'n', _, by rw [Value.write], rfl, by decide⟩
  | bool b =>
      cases b with
      | true => exact ⟨'t', _, by rw [Value.write], rfl, by decide⟩
      | false => exact ⟨'f', _, by rw [Value.write], rfl, by decide⟩
  | number n =>
      cases n with
      | whole w =>
          obtain ⟨c, s, same, starts⟩ := startsNumber_write w
          refine ⟨c, s, by rw [Value.write]; exact same, not_isBlank_of_startsNumber starts, ?_⟩
          rintro rfl
          cases starts
      | double x => cases exact
  | string s => exact ⟨'"', _, by rw [Value.write]; rfl, rfl, by decide⟩
  | array items => exact ⟨'[', _, write_array items, rfl, by decide⟩
  | object fields => exact ⟨'\x7b', _, write_object fields, rfl, by decide⟩

theorem nextItem_first {c : Char} (solid : isBlank c = false) (inside : c ≠ ']') (s : List Char) :
    nextItem true (c :: s) = .ok (.entry (c :: s)) := by
  rw [nextItem, skipBlanks_cons solid]
  split
  · rename_i head
    cases head
  · rename_i head
    cases head
    exact absurd rfl inside
  · rename_i head
    cases head
    rfl

theorem nextItem_comma {c : Char} (solid : isBlank c = false) (inside : c ≠ ']') (s : List Char) :
    nextItem false (',' :: c :: s) = .ok (.entry (c :: s)) := by
  rw [nextItem, skipBlanks_cons (by decide)]
  split
  · rename_i head
    cases head
  · rename_i head
    cases head
  · rename_i head
    cases head
    rw [if_neg Bool.false_ne_true, if_pos rfl, skipBlanks_cons solid]
    split
    · rename_i head
      cases head
    · rename_i head
      cases head
      exact absurd rfl inside
    · rfl

theorem nextItem_value {v : Value} (exact : v.every Value.isNoDouble) (first : Bool)
    (rest : List Char) :
    nextItem first ((if first then [] else [',']) ++ (v.write ++ rest)) =
      .ok (.entry (v.write ++ rest)) := by
  obtain ⟨c, s, same, solid, inside⟩ := write_eq_cons v exact
  rw [same, List.cons_append]
  cases first with
  | true => exact nextItem_first solid inside _
  | false => exact nextItem_comma solid inside _

theorem nextMember_name (first : Bool) (s : List Char) :
    nextMember first ((if first then [] else [',']) ++ '"' :: s) = .ok (.entry s) := by
  cases first <;> rfl

theorem ends_itemsText (vs : List Value) (rest : List Char) :
    Ends (itemsText false vs ++ rest) := by
  cases vs with
  | nil => exact ends_cons _ (by decide)
  | cons v vs => exact ends_cons _ (by decide)

theorem ends_membersText (fields : List (String × Value)) (rest : List Char) :
    Ends (membersText false fields ++ rest) := by
  cases fields with
  | nil => exact ends_cons _ (by decide)
  | cons field fields => exact ends_cons _ (by decide)

/-! ## Values -/

theorem value_whole (w : Whole) (bound : Nat) {rest : List Char} (ends : Ends rest) :
    value (bound + 1) (w.write ++ rest) = .ok (.number (.whole w), rest) := by
  obtain ⟨c, s, same, starts⟩ := startsNumber_write w
  have read := number_write w ends
  rw [same, List.cons_append] at read ⊢
  rw [value, skipBlanks_cons (not_isBlank_of_startsNumber starts)]
  split
  case h_8 =>
    rename_i head
    cases head
    rw [if_pos starts, read]
    rfl
  -- No other word starts like a number.
  all_goals
    rename_i head
    cases head
  all_goals cases starts

theorem itemsText_length_pos (first : Bool) (vs : List Value) :
    0 < (itemsText first vs).length := by
  cases vs with
  | nil => exact Nat.one_pos
  | cons v vs =>
      have tail := itemsText_length_pos false vs
      simp only [itemsText, List.length_append]
      omega

theorem membersText_length_pos (first : Bool) (fields : List (String × Value)) :
    0 < (membersText first fields).length := by
  cases fields with
  | nil => exact Nat.one_pos
  | cons field fields =>
      simp only [membersText, List.length_append, List.length_cons]
      omega

mutual

/-- A bound of the length of the text is enough: every step of the reader uses up a character. -/
theorem value_write (v : Value) (exact : v.every Value.isNoDouble) (ordered : v.every Value.inOrder)
    (bound : Nat) (enough : v.write.length ≤ bound) {rest : List Char} (ends : Ends rest) :
    value bound (v.write ++ rest) = .ok (v, rest) := by
  obtain ⟨c, s, same, -, -⟩ := write_eq_cons v exact
  obtain ⟨bound, rfl⟩ : ∃ n, bound = n + 1 := by
    rw [same, List.length_cons] at enough
    exact ⟨bound - 1, by omega⟩
  match v with
  | .null => rw [Value.write]; rfl
  | .bool true => rw [Value.write]; rfl
  | .bool false => rw [Value.write]; rfl
  | .number (.whole w) =>
      rw [Value.write]
      exact value_whole w bound ends
  | .number (.double x) => cases exact
  | .string s =>
      have read := string_writeTail s rest
      rw [Value.write]
      change value (bound + 1) ('"' :: (writeTail s ++ rest)) = _
      rw [value]
      change (string (writeTail s ++ rest) >>= _) = _
      rw [read]
      rfl
  | .array items =>
      simp only [Value.every, Bool.and_eq_true] at exact ordered
      rw [write_array, List.length_cons] at enough
      have read := items_write items exact.2 ordered.2 [] bound (Nat.le_of_succ_le_succ enough) rest
      rw [write_array, List.cons_append, value]
      change (Json.items bound [] (itemsText true items ++ rest) >>= _) = _
      change Json.items bound [] (itemsText true items ++ rest) = _ at read
      rw [read]
      rfl
  | .object fields =>
      simp only [Value.every, Value.inOrder, Bool.and_eq_true, decide_eq_true_eq] at exact ordered
      rw [write_object, List.length_cons] at enough
      have read := members_write fields exact.2 ordered.2 [] ordered.1 true bound
        (Nat.le_of_succ_le_succ enough) rest
      rw [write_object, List.cons_append, value]
      change (members bound [] true (membersText true fields ++ rest) >>= _) = _
      rw [read]
      rfl

theorem items_write (vs : List Value) (exact : everyItem Value.isNoDouble vs)
    (ordered : everyItem Value.inOrder vs) (taken : List Value) (bound : Nat)
    (enough : (itemsText taken.isEmpty vs).length ≤ bound) (rest : List Char) :
    items bound taken (itemsText taken.isEmpty vs ++ rest) = .ok (taken.reverse ++ vs, rest) := by
  have nonempty := itemsText_length_pos taken.isEmpty vs
  obtain ⟨bound, rfl⟩ : ∃ n, bound = n + 1 := ⟨bound - 1, by omega⟩
  match vs with
  | [] =>
      rw [items, List.append_nil]
      rfl
  | v :: vs =>
      simp only [everyItem, Bool.and_eq_true] at exact ordered
      have tail := itemsText_length_pos false vs
      obtain ⟨c, s, same, -, -⟩ := write_eq_cons v exact.1
      have head : 0 < v.write.length := by rw [same]; exact Nat.succ_pos _
      simp only [itemsText, List.length_append] at enough
      have item := value_write v exact.1 ordered.1 bound (by omega) (ends_itemsText vs rest)
      have others := items_write vs exact.2 ordered.2 (v :: taken) bound
        (by rw [List.isEmpty_cons]; omega) rest
      rw [List.isEmpty_cons] at others
      rw [items, itemsText, List.append_assoc, List.append_assoc, nextItem_value exact.1]
      change (value bound (v.write ++ (itemsText false vs ++ rest)) >>= _) = _
      rw [item]
      change items bound (v :: taken) (itemsText false vs ++ rest) = _
      rw [others, List.reverse_cons, List.append_assoc, List.singleton_append]

theorem members_write (fields : List (String × Value)) (exact : everyMember Value.isNoDouble fields)
    (ordered : everyMember Value.inOrder fields) (taken : Members)
    (ascending : (taken ++ fields).Pairwise fun a b => a.1 < b.1) (first : Bool) (bound : Nat)
    (enough : (membersText first fields).length ≤ bound) (rest : List Char) :
    members bound taken first (membersText first fields ++ rest) = .ok (taken ++ fields, rest) := by
  have nonempty := membersText_length_pos first fields
  obtain ⟨bound, rfl⟩ : ∃ n, bound = n + 1 := ⟨bound - 1, by omega⟩
  match fields with
  | [] =>
      rw [members, List.append_nil]
      rfl
  | (name, v) :: fields =>
      simp only [everyMember, Bool.and_eq_true] at exact ordered
      simp only [membersText, List.length_append, List.length_cons] at enough
      have last : ∀ f ∈ taken, f.1 < name := fun f member =>
        (List.pairwise_append.mp ascending).2.2 f member _ List.mem_cons_self
      have member := value_write v exact.1 ordered.1 bound (by omega)
        (ends_membersText fields rest)
      have others := members_write fields exact.2 ordered.2 (taken ++ [(name, v)])
        (by rwa [List.append_assoc, List.singleton_append]) false bound (by omega) rest
      rw [members, membersText]
      simp only [List.append_assoc, List.cons_append]
      rw [nextMember_name]
      change (string (writeTail name ++ _) >>= _) = _
      rw [string_writeTail]
      change (value bound (v.write ++ (membersText false fields ++ rest)) >>= _) = _
      rw [member]
      change members bound (Members.insert name v taken) false (membersText false fields ++ rest) = _
      rw [Members.insert_last v last, others, List.append_assoc, List.singleton_append]

end

end RichText.Json
