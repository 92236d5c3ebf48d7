import RichText.Json.Number
import RichText.Json.Order
import RichText.Text.Blank

/-!
# Fields of an object

The objects that documents keep, their members in order all the way down. A field is read as a text,
as any scalar, or as a whole number.
-/
namespace RichText.Json

/-- The members of an object, in order like those of every object inside. -/
@[ext]
structure Fields where
  members : Members
  ordered : (Value.object members).every Value.inOrder

def natural? (digits : List Char) : Option UInt64 :=
  let digits :=
    match digits with
    | '+' :: rest => rest
    | digits => digits
  if digits.isEmpty ∨ !digits.all Text.isDigit then none
  else
    let n := Text.ofDigits digits
    if n < UInt64.size then some (UInt64.ofNat n) else none

namespace Fields

def ofMembers (members : Members) : Fields := ⟨sortedMembers members, inOrder_sortedMembers members⟩

theorem ofMembers_members (fields : Fields) : ofMembers fields.members = fields := by
  obtain ⟨ascending, inside⟩ := every_object_inOrder.mp fields.ordered
  exact Fields.ext (sortedMembers_eq_self ascending inside)

def toValue (fields : Fields) : Value := .object fields.members

def lookup (fields : Fields) (name : String) : Option Value := fields.members.lookup name

def text? (fields : Fields) (name : String) : Option String :=
  match fields.lookup name with
  | some (.string s) => some s
  | _ => none

def scalar? (fields : Fields) (name : String) : Option String :=
  match fields.lookup name with
  | some (.string s) => some s
  | some (.number n) => some (String.ofList n.write)
  | some (.bool true) => some "true"
  | some (.bool false) => some "false"
  | _ => none

/-- A field that is a whole number, or a text that spells one between blanks. -/
def natural? (fields : Fields) (name : String) : Option UInt64 :=
  match fields.lookup name with
  | some (.number (.whole w)) => w.toUInt64?
  | some (.string s) => Json.natural? (Text.trim s.toList)
  | _ => none

end Fields

def Value.fields? : Value → Option Fields
  | .object members => some (.ofMembers members)
  | _ => none

theorem fields?_toValue (fields : Fields) : fields.toValue.fields? = some fields :=
  congrArg some fields.ofMembers_members

end RichText.Json
