import RichText.Json.Value

/-!
# Order of members

The members of an object are in order when their names ascend, so no name stands twice. Every value
has a form in which all objects in it are in order (`Value.sorted`); one that is in order already
keeps it (`sorted_eq_self`).
-/
namespace RichText.Json

/-! ## Tests of a value and of all inside it -/

mutual

def Value.every (p : Value → Bool) : Value → Bool
  | .array items => p (.array items) && everyItem p items
  | .object members => p (.object members) && everyMember p members
  | v => p v

def everyItem (p : Value → Bool) : List Value → Bool
  | [] => true
  | v :: rest => v.every p && everyItem p rest

def everyMember (p : Value → Bool) : List (String × Value) → Bool
  | [] => true
  | (_, v) :: rest => v.every p && everyMember p rest

end

def Value.inOrder : Value → Bool
  | .object members => decide (members.Pairwise fun a b => a.1 < b.1)
  | _ => true

theorem everyMember_iff {p : Value → Bool} {members : Members} :
    everyMember p members ↔ ∀ m ∈ members, m.2.every p := by
  induction members with
  | nil => exact iff_of_true rfl (List.forall_mem_nil _)
  | cons head rest ih => rw [everyMember, Bool.and_eq_true, ih, List.forall_mem_cons]

theorem every_object_inOrder {members : Members} :
    (Value.object members).every Value.inOrder ↔
      (members.Pairwise fun a b => a.1 < b.1) ∧ ∀ m ∈ members, m.2.every Value.inOrder := by
  rw [Value.every, Bool.and_eq_true, Value.inOrder, decide_eq_true_eq, everyMember_iff]

/-! ## Insertion -/

namespace Members

/-- Into members in order another is put where the names change from lower to higher ones. -/
theorem exists_insert (name : String) (v : Value) {members : Members}
    (ascending : members.Pairwise fun a b => a.1 < b.1) :
    ∃ before old behind, members = before ++ (old ++ behind) ∧
      insert name v members = before ++ (name, v) :: behind ∧
      (∀ m ∈ before, m.1 < name) ∧ ∀ m ∈ behind, name < m.1 := by
  induction members with
  | nil => exact ⟨[], [], [], rfl, rfl, List.forall_mem_nil _, List.forall_mem_nil _⟩
  | cons head rest ih =>
      obtain ⟨first, w⟩ := head
      obtain ⟨above, tail⟩ := List.pairwise_cons.mp ascending
      rw [insert]
      split
      case isTrue same =>
        exact ⟨[], [(first, w)], rest, rfl, rfl, List.forall_mem_nil _, same ▸ above⟩
      case isFalse different =>
        split
        case isTrue low =>
          refine ⟨[], [], (first, w) :: rest, rfl, rfl, List.forall_mem_nil _, ?_⟩
          exact List.forall_mem_cons.mpr ⟨low, fun m member => String.lt_trans low (above m member)⟩
        case isFalse notLow =>
          have low : first < name := by
            apply String.not_le.mp
            intro reverse
            exact different (String.le_antisymm reverse (String.not_lt.mp notLow))
          obtain ⟨before, old, behind, same, put, lower, higher⟩ := ih tail
          refine ⟨(first, w) :: before, old, behind, ?_, ?_, ?_, higher⟩
          · rw [same, List.cons_append]
          · rw [put, List.cons_append]
          · exact List.forall_mem_cons.mpr ⟨low, lower⟩

theorem insert_inOrder (name : String) {v : Value} (inside : v.every Value.inOrder)
    {members : Members} (ordered : (Value.object members).every Value.inOrder) :
    (Value.object (insert name v members)).every Value.inOrder := by
  obtain ⟨ascending, all⟩ := every_object_inOrder.mp ordered
  obtain ⟨before, old, behind, rfl, put, low, high⟩ := exists_insert name v ascending
  obtain ⟨first, rest, cross⟩ := List.pairwise_append.mp ascending
  have last := (List.pairwise_append.mp rest).2.1
  rw [put, every_object_inOrder]
  refine ⟨List.pairwise_append.mpr ⟨first, List.pairwise_cons.mpr ⟨high, last⟩, ?_⟩, ?_⟩
  · intro a member
    refine List.forall_mem_cons.mpr ⟨low a member, fun b below => ?_⟩
    exact cross a member b (List.mem_append_right _ below)
  · intro m member
    rcases List.mem_append.mp member with member | member
    · exact all m (List.mem_append_left _ member)
    · rcases List.mem_cons.mp member with rfl | member
      · exact inside
      · exact all m (List.mem_append_right _ (List.mem_append_right _ member))

/-- A new member is put between those before it and those behind it. -/
theorem insert_between {name : String} (v : Value) {before behind : Members}
    (low : ∀ m ∈ before, m.1 < name) (high : ∀ m ∈ behind, name < m.1) :
    insert name v (before ++ behind) = before ++ (name, v) :: behind := by
  induction before with
  | nil =>
      cases behind with
      | nil => rfl
      | cons head rest =>
          have above : name < head.1 := high head List.mem_cons_self
          have different : name ≠ head.1 := fun same => String.lt_irrefl _ (same ▸ above)
          rw [List.nil_append, insert, if_neg different, if_pos above, List.nil_append]
  | cons head rest ih =>
      have below : head.1 < name := low head List.mem_cons_self
      have different : name ≠ head.1 := fun same => String.lt_irrefl _ (same ▸ below)
      rw [List.cons_append, insert, if_neg different, if_neg (String.lt_asymm below),
        ih fun m member => low m (List.mem_cons_of_mem _ member), List.cons_append]

theorem insert_last {name : String} (v : Value) {members : Members}
    (low : ∀ m ∈ members, m.1 < name) : insert name v members = members ++ [(name, v)] := by
  have put := insert_between v low (List.forall_mem_nil _)
  rwa [List.append_nil] at put

end Members

/-! ## Ordering -/

mutual

/-- The value with the members of all objects in order. Of members with one name the first stays, as
it is the one that a lookup finds. -/
def Value.sorted : Value → Value
  | .array items => .array (sortedItems items)
  | .object members => .object (sortedMembers members)
  | v => v

def sortedItems : List Value → List Value
  | [] => []
  | v :: rest => v.sorted :: sortedItems rest

def sortedMembers : List (String × Value) → List (String × Value)
  | [] => []
  | (name, v) :: rest => Members.insert name v.sorted (sortedMembers rest)

end

mutual

theorem inOrder_sorted (v : Value) : v.sorted.every Value.inOrder := by
  match v with
  | .array items =>
      rw [Value.sorted, Value.every, inOrder_sortedItems items]
      rfl
  | .object members => exact inOrder_sortedMembers members
  | .null | .bool _ | .number _ | .string _ => rfl

theorem inOrder_sortedItems (items : List Value) : everyItem Value.inOrder (sortedItems items) := by
  match items with
  | [] => rfl
  | v :: rest =>
      rw [sortedItems, everyItem, inOrder_sorted v, inOrder_sortedItems rest]
      rfl

theorem inOrder_sortedMembers (members : Members) :
    (Value.object (sortedMembers members)).every Value.inOrder := by
  match members with
  | [] => rfl
  | (name, v) :: rest =>
      exact Members.insert_inOrder name (inOrder_sorted v) (inOrder_sortedMembers rest)

end

mutual

theorem sorted_eq_self {v : Value} (ordered : v.every Value.inOrder) : v.sorted = v := by
  match v with
  | .array items =>
      rw [Value.every, Bool.and_eq_true] at ordered
      rw [Value.sorted, sortedItems_eq_self ordered.2]
  | .object members =>
      obtain ⟨ascending, inside⟩ := every_object_inOrder.mp ordered
      rw [Value.sorted, sortedMembers_eq_self ascending inside]
  | .null | .bool _ | .number _ | .string _ => rfl

theorem sortedItems_eq_self {items : List Value} (inside : everyItem Value.inOrder items) :
    sortedItems items = items := by
  match items with
  | [] => rfl
  | v :: rest =>
      rw [everyItem, Bool.and_eq_true] at inside
      rw [sortedItems, sorted_eq_self inside.1, sortedItems_eq_self inside.2]

theorem sortedMembers_eq_self {members : Members}
    (ascending : members.Pairwise fun a b => a.1 < b.1)
    (inside : ∀ m ∈ members, m.2.every Value.inOrder) : sortedMembers members = members := by
  match members with
  | [] => rfl
  | (name, v) :: rest =>
      obtain ⟨first, ascending⟩ := List.pairwise_cons.mp ascending
      obtain ⟨own, inside⟩ := List.forall_mem_cons.mp inside
      rw [sortedMembers, sorted_eq_self own, sortedMembers_eq_self ascending inside]
      exact Members.insert_between v (List.forall_mem_nil _) first

end

end RichText.Json
