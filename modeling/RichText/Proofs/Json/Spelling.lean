import RichText.Proofs.Json.Progress

/-!
# Spelled values

A text spells a value with the members of its objects in the order of the text, a name as often as
it stands there. Main statements: the reader accepts the texts that spell something, and gives the
value that is spelled (`value_iff_spells`); what is spelled can be passed over (`skip_spells`).
-/
namespace RichText.Json

inductive Spelling where
  | null
  | bool (value : Bool)
  | number (value : Number)
  | string (value : String)
  | array (items : List Spelling)
  | object (members : List (String × Spelling))
deriving Inhabited

namespace Spelling

mutual

/-- The value that is spelled; of the members with one name the last one stays. -/
def value : Spelling → Value
  | .null => .null
  | .bool b => .bool b
  | .number n => .number n
  | .string s => .string s
  | .array items => .array (values items)
  | .object members => .object (settle [] members)

def values : List Spelling → List Value
  | [] => []
  | x :: rest => x.value :: values rest

def settle (before : Members) : List (String × Spelling) → Members
  | [] => before
  | (name, x) :: rest => settle (before.insert name x.value) rest

end

theorem values_eq (items : List Spelling) : values items = items.map value := by
  induction items with
  | nil => rfl
  | cons x rest ih => rw [values, List.map_cons, ih]

end Spelling

mutual

/-- The front of a text spells a value, and the rest is left. -/
inductive Spells : List Char → Spelling → List Char → Prop
  | null {s t rest : List Char} (start : skipBlanks s = 'n' :: t)
      (word : keyword ['u', 'l', 'l'] t = .ok rest) : Spells s .null rest
  | true {s t rest : List Char} (start : skipBlanks s = 't' :: t)
      (word : keyword ['r', 'u', 'e'] t = .ok rest) : Spells s (.bool true) rest
  | false {s t rest : List Char} (start : skipBlanks s = 'f' :: t)
      (word : keyword ['a', 'l', 's', 'e'] t = .ok rest) : Spells s (.bool false) rest
  | number {s t rest : List Char} {c : Char} {n : Number} (start : skipBlanks s = c :: t)
      (digit : startsNumber c) (word : Json.number (c :: t) = .ok (n, rest)) :
      Spells s (.number n) rest
  | string {s t rest : List Char} {text : String} (start : skipBlanks s = '"' :: t)
      (word : Json.string t = .ok (text, rest)) : Spells s (.string text) rest
  | array {s t rest : List Char} {items : List Spelling} (start : skipBlanks s = '[' :: t)
      (inside : SpellsItems Bool.true t items rest) : Spells s (.array items) rest
  | object {s t rest : List Char} {members : List (String × Spelling)}
      (start : skipBlanks s = '\x7b' :: t) (inside : SpellsMembers Bool.true t members rest) :
      Spells s (.object members) rest

/-- The items of a list and its end, from the first item or from behind some. -/
inductive SpellsItems : Bool → List Char → List Spelling → List Char → Prop
  | closed {first : Bool} {s rest : List Char} (next : nextItem first s = .ok (.closed rest)) :
      SpellsItems first s [] rest
  | entry {first : Bool} {s t u rest : List Char} {x : Spelling} {items : List Spelling}
      (next : nextItem first s = .ok (.entry t)) (item : Spells t x u)
      (others : SpellsItems Bool.false u items rest) : SpellsItems first s (x :: items) rest

inductive SpellsMembers : Bool → List Char → List (String × Spelling) → List Char → Prop
  | closed {first : Bool} {s rest : List Char} (next : nextMember first s = .ok (.closed rest)) :
      SpellsMembers first s [] rest
  | entry {first : Bool} {s q c t u rest : List Char} {name : String} {x : Spelling}
      {members : List (String × Spelling)} (next : nextMember first s = .ok (.entry q))
      (word : string q = .ok (name, c)) (sign : colon c = .ok t) (member : Spells t x u)
      (others : SpellsMembers Bool.false u members rest) :
      SpellsMembers first s ((name, x) :: members) rest

end

def Spelled (text : List Char) (x : Spelling) : Prop :=
  ∃ rest, Spells text x rest ∧ endOfText rest = .ok ()

/-! ## What is read is spelled -/

mutual

theorem spells_of_value (bound : Nat) {s rest : List Char} {v : Value}
    (read : value bound s = .ok (v, rest)) : ∃ x, Spells s x rest ∧ x.value = v := by
  match bound with
  | 0 => rw [value] at read; cases read
  | bound + 1 =>
      rw [value] at read
      split at read
      case h_1 => cases read
      case h_2 start =>
        obtain ⟨_, word, same⟩ := bind_eq_ok read
        cases same
        exact ⟨_, .null start word, rfl⟩
      case h_3 start =>
        obtain ⟨_, word, same⟩ := bind_eq_ok read
        cases same
        exact ⟨_, .true start word, rfl⟩
      case h_4 start =>
        obtain ⟨_, word, same⟩ := bind_eq_ok read
        cases same
        exact ⟨_, .false start word, rfl⟩
      case h_5 start =>
        obtain ⟨_, word, same⟩ := bind_eq_ok read
        cases same
        exact ⟨_, .string start word, rfl⟩
      case h_6 start =>
        obtain ⟨⟨vs, _⟩, list, same⟩ := bind_eq_ok read
        cases same
        obtain ⟨items, inside, rfl⟩ := spellsItems_of_items bound list
        exact ⟨_, .array start inside, rfl⟩
      case h_7 start =>
        obtain ⟨⟨fields, _⟩, object, same⟩ := bind_eq_ok read
        cases same
        obtain ⟨ms, inside, rfl⟩ := spellsMembers_of_members bound object
        exact ⟨_, .object start inside, rfl⟩
      case h_8 start =>
        split at read
        · rename_i digit
          obtain ⟨_, word, same⟩ := bind_eq_ok read
          cases same
          exact ⟨_, .number start digit word, rfl⟩
        · cases read

theorem spellsItems_of_items (bound : Nat) {taken vs : List Value} {s rest : List Char}
    (read : items bound taken s = .ok (vs, rest)) :
    ∃ xs, SpellsItems taken.isEmpty s xs rest ∧ vs = taken.reverse ++ Spelling.values xs := by
  match bound with
  | 0 => rw [items] at read; cases read
  | bound + 1 =>
      rw [items] at read
      obtain ⟨turn, next, read⟩ := bind_eq_ok read
      cases turn with
      | closed =>
          cases read
          exact ⟨[], .closed next, (List.append_nil _).symm⟩
      | entry =>
          obtain ⟨⟨v, _⟩, item, read⟩ := bind_eq_ok read
          obtain ⟨x, first, rfl⟩ := spells_of_value bound item
          obtain ⟨xs, others, rfl⟩ := spellsItems_of_items bound read
          refine ⟨x :: xs, .entry next first others, ?_⟩
          rw [List.reverse_cons, List.append_assoc, List.singleton_append, Spelling.values]

theorem spellsMembers_of_members (bound : Nat) {before fields : Members} {first : Bool}
    {s rest : List Char} (read : members bound before first s = .ok (fields, rest)) :
    ∃ ms, SpellsMembers first s ms rest ∧ fields = Spelling.settle before ms := by
  match bound with
  | 0 => rw [members] at read; cases read
  | bound + 1 =>
      rw [members] at read
      obtain ⟨turn, next, read⟩ := bind_eq_ok read
      cases turn with
      | closed =>
          cases read
          exact ⟨[], .closed next, rfl⟩
      | entry =>
          obtain ⟨⟨name, _⟩, word, read⟩ := bind_eq_ok read
          obtain ⟨_, sign, read⟩ := bind_eq_ok read
          obtain ⟨⟨v, _⟩, member, read⟩ := bind_eq_ok read
          obtain ⟨x, inside, rfl⟩ := spells_of_value bound member
          obtain ⟨ms, others, rfl⟩ := spellsMembers_of_members bound read
          exact ⟨(name, x) :: ms, .entry next word sign inside others, rfl⟩

end

/-! ## Lengths -/

mutual

theorem Spells.shorter (x : Spelling) {s rest : List Char} (spells : Spells s x rest) :
    rest.length < s.length := by
  cases spells with
  | null start word | true start word | false start word =>
      exact Nat.lt_of_le_of_lt (keyword_length word) (length_of_skipBlanks start)
  | number start digit word =>
      have := (number_ok word).2
      have := skipBlanks_length s
      rw [start] at this
      omega
  | string start word => exact Nat.lt_trans (string_ok word).2 (length_of_skipBlanks start)
  | array start inside => exact Nat.lt_trans (inside.shorter _) (length_of_skipBlanks start)
  | object start inside => exact Nat.lt_trans (inside.shorter _) (length_of_skipBlanks start)

theorem SpellsItems.shorter (items : List Spelling) {first : Bool} {s rest : List Char}
    (spells : SpellsItems first s items rest) : rest.length < s.length := by
  cases spells with
  | closed next => exact length_of_skipBlanks (nextItem_closed next)
  | entry next item others =>
      have := nextItem_length next
      have := item.shorter _
      have := others.shorter _
      omega

theorem SpellsMembers.shorter (members : List (String × Spelling)) {first : Bool}
    {s rest : List Char} (spells : SpellsMembers first s members rest) :
    rest.length < s.length := by
  cases spells with
  | closed next => exact length_of_skipBlanks (nextMember_closed next)
  | entry next word sign member others =>
      have := nextMember_length next
      have := (string_ok word).2
      have := length_of_skipBlanks (colon_ok sign)
      have := member.shorter _
      have := others.shorter _
      omega

end

/-! ## What is spelled is read -/

theorem value_number {s t : List Char} {c : Char} (start : skipBlanks s = c :: t)
    (digit : startsNumber c) (bound : Nat) :
    value (bound + 1) s = number (c :: t) >>= fun x => .ok (.number x.1, x.2) := by
  rw [value, start]
  split
  case h_8 head =>
    cases head
    rw [if_pos digit]
  -- No other word starts like a number.
  all_goals
    rename_i head
    cases head
  all_goals cases digit

mutual

/-- A bound of the length of the value is enough: every step of the reader uses up a character. -/
theorem Spells.value (x : Spelling) {s rest : List Char} (spells : Spells s x rest) (bound : Nat)
    (enough : s.length ≤ rest.length + bound) : Json.value bound s = .ok (x.value, rest) := by
  have shorter := spells.shorter
  obtain ⟨bound, rfl⟩ : ∃ n, bound = n + 1 := ⟨bound - 1, by omega⟩
  cases spells with
  | null start word | true start word | false start word =>
      rw [Json.value, start]
      change (keyword _ _ >>= _) = _
      rw [word]
      rfl
  | number start digit word =>
      rw [value_number start digit, word]
      rfl
  | string start word =>
      rw [Json.value, start]
      change (Json.string _ >>= _) = _
      rw [word]
      rfl
  | array start inside =>
      have := length_of_skipBlanks start
      have read := inside.value _ [] rfl bound (by omega)
      rw [Json.value, start]
      change (Json.items _ _ _ >>= _) = _
      rw [read]
      rfl
  | object start inside =>
      have := length_of_skipBlanks start
      have read := inside.value _ [] bound (by omega)
      rw [Json.value, start]
      change (Json.members _ _ _ _ >>= _) = _
      rw [read]
      rfl

theorem SpellsItems.value (items : List Spelling) {first : Bool} {s rest : List Char}
    (spells : SpellsItems first s items rest) (taken : List Value) (isFirst : taken.isEmpty = first)
    (bound : Nat) (enough : s.length ≤ rest.length + bound) :
    Json.items bound taken s = .ok (taken.reverse ++ Spelling.values items, rest) := by
  have shorter := spells.shorter
  obtain ⟨bound, rfl⟩ : ∃ n, bound = n + 1 := ⟨bound - 1, by omega⟩
  cases spells with
  | closed next =>
      rw [Json.items, isFirst, next, Spelling.values, List.append_nil]
      rfl
  | @entry _ _ _ _ _ x items next item others =>
      have := nextItem_length next
      have := item.shorter
      have := others.shorter
      have read := item.value _ bound (by omega)
      have tail := others.value _ (x.value :: taken) rfl bound (by omega)
      rw [Json.items, isFirst, next]
      change (Json.value _ _ >>= _) = _
      rw [read]
      change Json.items bound (x.value :: taken) _ = _
      rw [tail, List.reverse_cons, List.append_assoc, List.singleton_append, Spelling.values]

theorem SpellsMembers.value (members : List (String × Spelling)) {first : Bool}
    {s rest : List Char} (spells : SpellsMembers first s members rest) (fields : Members)
    (bound : Nat) (enough : s.length ≤ rest.length + bound) :
    Json.members bound fields first s = .ok (Spelling.settle fields members, rest) := by
  have shorter := spells.shorter
  obtain ⟨bound, rfl⟩ : ∃ n, bound = n + 1 := ⟨bound - 1, by omega⟩
  cases spells with
  | closed next =>
      rw [Json.members, next]
      rfl
  | @entry _ _ _ _ _ _ _ name x members next word sign member others =>
      have := nextMember_length next
      have := (string_ok word).2
      have := length_of_skipBlanks (colon_ok sign)
      have := member.shorter
      have := others.shorter
      have read := member.value _ bound (by omega)
      have tail := others.value _ (fields.insert name x.value) bound (by omega)
      rw [Json.members, next]
      change (Json.string _ >>= _) = _
      rw [word]
      change (Json.colon _ >>= _) = _
      rw [sign]
      change (Json.value _ _ >>= _) = _
      rw [read]
      exact tail

end

theorem value_iff_spells (text : List Char) (v : Value) :
    Value.ofText text = .ok v ↔ ∃ x, Spelled text x ∧ x.value = v := by
  constructor
  · intro accepted
    obtain ⟨⟨v', rest⟩, read, accepted⟩ := bind_eq_ok accepted
    obtain ⟨_, blank, same⟩ := bind_eq_ok accepted
    cases same
    obtain ⟨x, spells, same⟩ := spells_of_value _ read
    exact ⟨x, ⟨rest, spells, blank⟩, same⟩
  · rintro ⟨x, ⟨rest, spells, blank⟩, rfl⟩
    have read := spells.value x (boundFor text) (by unfold boundFor; omega)
    rw [Value.ofText, read]
    change (endOfText rest >>= _) = _
    rw [blank]
    rfl

/-! ## What is spelled is passed over -/

theorem Spells.congr {s s' rest : List Char} {x : Spelling} (spells : Spells s x rest)
    (same : skipBlanks s = skipBlanks s') : Spells s' x rest := by
  cases spells with
  | number start digit word => exact .number (same ▸ start) digit word
  | null start more | true start more | false start more | string start more | array start more
  | object start more =>
      constructor
      · exact same ▸ start
      · exact more

theorem skip_number {s t : List Char} {c : Char} (start : skipBlanks s = c :: t)
    (digit : startsNumber c) (bound : Nat) : skip (bound + 1) s = skipNumber (c :: t) := by
  rw [skip, start]
  split
  case h_8 head =>
    cases head
    rw [if_pos digit]
  all_goals
    rename_i head
    cases head
  all_goals cases digit

theorem afterItem_of_nextItem {s t : List Char} (next : nextItem false s = .ok (.entry t)) :
    ∃ r, afterItem s = .ok (.entry r) ∧ skipBlanks r = t ∧ r.length < s.length := by
  obtain ⟨-, r, start, blank⟩ := nextItem_entry next
  refine ⟨r, ?_, blank, length_of_skipBlanks start⟩
  rw [afterItem, start]
  rfl

theorem afterMember_of_nextMember {s t : List Char}
    (next : nextMember false s = .ok (.entry t)) :
    ∃ r, afterMember s = .ok (.entry r) ∧ skipBlanks r = '"' :: t ∧ r.length < s.length := by
  obtain ⟨r, start, quoted⟩ := nextMember_entry next
  refine ⟨r, ?_, quoted, length_of_skipBlanks start⟩
  rw [afterMember, start]
  rfl

theorem skipName_ok {s q c t : List Char} {name : String} (quoted : skipBlanks s = '"' :: q)
    (word : string q = .ok (name, c)) (sign : colon c = .ok t) : skipName s = .ok t := by
  rw [skipName, quoted]
  change (skipString q >>= _) = _
  rw [(string_ok word).1]
  exact sign

/-- Behind an item a list ends, or its other items are passed over. -/
def PassesItems (bound : Nat) (s rest : List Char) : Prop :=
  afterItem s = .ok (.closed rest) ∨
    ∃ r, afterItem s = .ok (.entry r) ∧ skipItems bound r = .ok rest

def PassesMembers (bound : Nat) (s rest : List Char) : Prop :=
  afterMember s = .ok (.closed rest) ∨
    ∃ r, afterMember s = .ok (.entry r) ∧ skipMembers bound r = .ok rest

theorem skipItems_ok {bound : Nat} {s u rest : List Char} (item : skip bound s = .ok u)
    (others : PassesItems bound u rest) : skipItems (bound + 1) s = .ok rest := by
  rw [skipItems, item]
  change (afterItem u >>= _) = _
  rcases others with closed | ⟨r, next, more⟩
  · rw [closed]
    rfl
  · rw [next]
    exact more

theorem skipMembers_ok {bound : Nat} {s t u rest : List Char} (name : skipName s = .ok t)
    (member : skip bound t = .ok u) (others : PassesMembers bound u rest) :
    skipMembers (bound + 1) s = .ok rest := by
  rw [skipMembers, name]
  change (skip bound t >>= _) = _
  rw [member]
  change (afterMember u >>= _) = _
  rcases others with closed | ⟨r, next, more⟩
  · rw [closed]
    rfl
  · rw [next]
    exact more

theorem skip_list {s t : List Char} {c : Char} {r : List Char} (start : skipBlanks s = '[' :: t)
    (inside : skipBlanks t = c :: r) (more : c ≠ ']') (bound : Nat) :
    skip (bound + 1) s = skipItems bound (c :: r) := by
  rw [skip, start]
  simp only [inside]
  split
  · rename_i head
    cases head
  · rename_i head
    cases head
    exact absurd rfl more
  · rfl

theorem skip_object {s t q : List Char} (start : skipBlanks s = '\x7b' :: t)
    (inside : skipBlanks t = '"' :: q) (bound : Nat) :
    skip (bound + 1) s = skipMembers bound ('"' :: q) := by
  rw [skip, start]
  simp only [inside]
  rfl

mutual

theorem skip_spells (x : Spelling) {s rest : List Char} (spells : Spells s x rest) (bound : Nat)
    (enough : s.length ≤ rest.length + bound) : skip bound s = .ok rest := by
  have shorter := spells.shorter
  obtain ⟨bound, rfl⟩ : ∃ n, bound = n + 1 := ⟨bound - 1, by omega⟩
  cases spells with
  | null start word | true start word | false start word =>
      rw [skip, start]
      exact word
  | number start digit word =>
      rw [skip_number start digit]
      exact (number_ok word).1
  | string start word =>
      rw [skip, start]
      exact (string_ok word).1
  | array start inside =>
      have := length_of_skipBlanks start
      cases inside with
      | closed next =>
          rw [skip, start]
          simp only [nextItem_closed next]
      | entry next item others =>
          have := nextItem_length next
          have := item.shorter
          have := others.shorter
          -- The list takes a step before its first item.
          have first := skip_spells _ item (bound - 1) (by omega)
          have read := skipItems_ok first (passesItems _ others (bound - 1) (by omega))
          obtain ⟨⟨c, r, rfl, more⟩, blank⟩ := nextItem_entry next
          rw [skip_list start blank more, ← read, Nat.sub_add_cancel (by omega)]
  | object start inside =>
      have := length_of_skipBlanks start
      cases inside with
      | closed next =>
          rw [skip, start]
          simp only [nextMember_closed next]
      | entry next word sign member others =>
          have := nextMember_length next
          have := (string_ok word).2
          have := length_of_skipBlanks (colon_ok sign)
          have := member.shorter
          have := others.shorter
          have first := skip_spells _ member (bound - 1) (by omega)
          have quoted : skipBlanks _ = '"' :: _ := nextMember_entry next
          have name := skipName_ok (skipBlanks_idem _ ▸ quoted) word sign
          have read := skipMembers_ok name first (passesMembers _ others (bound - 1) (by omega))
          rw [skip_object start quoted, ← quoted, ← read, Nat.sub_add_cancel (by omega)]

theorem passesItems (items : List Spelling) {s rest : List Char}
    (spells : SpellsItems false s items rest) (bound : Nat)
    (enough : s.length ≤ rest.length + bound) : PassesItems bound s rest := by
  have shorter := spells.shorter
  obtain ⟨bound, rfl⟩ : ∃ n, bound = n + 1 := ⟨bound - 1, by omega⟩
  cases spells with
  | closed next =>
      refine .inl ?_
      rw [afterItem, nextItem_closed next]
      rfl
  | entry next item others =>
      obtain ⟨r, after, rfl, less⟩ := afterItem_of_nextItem next
      have same := item.congr (skipBlanks_idem r)
      have := same.shorter
      have := others.shorter
      have first := skip_spells _ same bound (by omega)
      exact .inr ⟨r, after, skipItems_ok first (passesItems _ others bound (by omega))⟩

theorem passesMembers (members : List (String × Spelling)) {s rest : List Char}
    (spells : SpellsMembers false s members rest) (bound : Nat)
    (enough : s.length ≤ rest.length + bound) : PassesMembers bound s rest := by
  have shorter := spells.shorter
  obtain ⟨bound, rfl⟩ : ∃ n, bound = n + 1 := ⟨bound - 1, by omega⟩
  cases spells with
  | closed next =>
      refine .inl ?_
      rw [afterMember, nextMember_closed next]
      rfl
  | entry next word sign member others =>
      obtain ⟨r, after, quoted, less⟩ := afterMember_of_nextMember next
      have := length_of_skipBlanks quoted
      have := (string_ok word).2
      have := length_of_skipBlanks (colon_ok sign)
      have := member.shorter
      have := others.shorter
      have first := skip_spells _ member bound (by omega)
      exact .inr ⟨r, after, skipMembers_ok (skipName_ok quoted word sign) first
        (passesMembers _ others bound (by omega))⟩

end

/-! ## Texts spell one value -/

mutual

theorem Spells.unique (x : Spelling) {s rest : List Char} (spells : Spells s x rest)
    {y : Spelling} {rest' : List Char} (other : Spells s y rest') : y = x ∧ rest' = rest := by
  cases spells with
  | null start word | true start word | false start word | string start word =>
      cases other with
      | number start' digit =>
          rw [start] at start'
          cases start'
          cases digit
      | _ start' more =>
          rw [start] at start'
          cases start'
          -- If a goal is left, both are the same word.
          all_goals
            rw [word] at more
            cases more
            exact ⟨rfl, rfl⟩
  | number start digit word =>
      cases other with
      | number start' _ word' =>
          rw [start] at start'
          cases start'
          rw [word] at word'
          cases word'
          exact ⟨rfl, rfl⟩
      | _ start' more =>
          rw [start] at start'
          cases start'
          cases digit
  | array start inside =>
      cases other with
      | number start' digit =>
          rw [start] at start'
          cases start'
          cases digit
      | array start' inside' =>
          rw [start] at start'
          cases start'
          obtain ⟨rfl, rfl⟩ := inside.unique _ inside'
          exact ⟨rfl, rfl⟩
      | _ start' more =>
          rw [start] at start'
          cases start'
  | object start inside =>
      cases other with
      | number start' digit =>
          rw [start] at start'
          cases start'
          cases digit
      | object start' inside' =>
          rw [start] at start'
          cases start'
          obtain ⟨rfl, rfl⟩ := inside.unique _ inside'
          exact ⟨rfl, rfl⟩
      | _ start' more =>
          rw [start] at start'
          cases start'

theorem SpellsItems.unique (items : List Spelling) {first : Bool} {s rest : List Char}
    (spells : SpellsItems first s items rest) {others : List Spelling} {rest' : List Char}
    (other : SpellsItems first s others rest') : others = items ∧ rest' = rest := by
  cases spells with
  | closed next =>
      cases other with
      | closed next' =>
          rw [next] at next'
          cases next'
          exact ⟨rfl, rfl⟩
      | entry next' =>
          rw [next] at next'
          cases next'
  | entry next item more =>
      cases other with
      | closed next' =>
          rw [next] at next'
          cases next'
      | entry next' item' more' =>
          rw [next] at next'
          cases next'
          obtain ⟨rfl, rfl⟩ := item.unique _ item'
          obtain ⟨rfl, rfl⟩ := more.unique _ more'
          exact ⟨rfl, rfl⟩

theorem SpellsMembers.unique (members : List (String × Spelling)) {first : Bool}
    {s rest : List Char} (spells : SpellsMembers first s members rest)
    {others : List (String × Spelling)} {rest' : List Char}
    (other : SpellsMembers first s others rest') : others = members ∧ rest' = rest := by
  cases spells with
  | closed next =>
      cases other with
      | closed next' =>
          rw [next] at next'
          cases next'
          exact ⟨rfl, rfl⟩
      | entry next' =>
          rw [next] at next'
          cases next'
  | entry next word sign member more =>
      cases other with
      | closed next' =>
          rw [next] at next'
          cases next'
      | entry next' word' sign' member' more' =>
          rw [next] at next'
          cases next'
          rw [word] at word'
          cases word'
          rw [sign] at sign'
          cases sign'
          obtain ⟨rfl, rfl⟩ := member.unique _ member'
          obtain ⟨rfl, rfl⟩ := more.unique _ more'
          exact ⟨rfl, rfl⟩

end

theorem Spelled.unique {text : List Char} {x y : Spelling} (first : Spelled text x)
    (second : Spelled text y) : y = x := by
  obtain ⟨rest, spells, -⟩ := first
  obtain ⟨rest', other, -⟩ := second
  exact (spells.unique x other).1

end RichText.Json
