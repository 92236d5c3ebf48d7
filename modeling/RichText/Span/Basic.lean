import RichText.Json.Fields
import RichText.Tag

/-!
# Spans

A document is a tree of spans. A span has a tag, a data object, a key into a table of entities, and
either a text or children; all of these may be absent.
-/
namespace RichText

structure Span where
  tag : Option Tag := none
  data : Option Json.Fields := none
  key : Option UInt64 := none
  text : Option String := none
  children : List Span := []
deriving Inhabited

namespace Span

def ofText (text : String) : Span := { text := some text }

def ofTag (tag : Tag) : Span := { tag := some tag }

def group (children : List Span) : Span := { children }

def withChildren (span : Span) (children : List Span) : Span := { span with children }

def withData (span : Span) (data : Json.Value) : Span := { span with data := data.fields? }

def withKey (span : Span) (key : UInt64) : Span := { span with key := some key }

def isText (span : Span) : Bool := span.tag.isNone && span.children.isEmpty

end Span

end RichText
