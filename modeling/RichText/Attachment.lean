import RichText.Base64
import RichText.Json.Fields

/-!
# Attachments

What a node carries beside or instead of text: an image, a file, the bar of a quote, or a button.
-/
namespace RichText

namespace Attachment

inductive Kind where
  | image
  | data
  | empty
  | quote
  | button
deriving DecidableEq, Repr

def Kind.name : Kind → String
  | image => "Image"
  | data => "Data"
  | empty => "Empty"
  | quote => "Quote"
  | button => "Button"

end Attachment

/-- `bits` is a payload that came with the document, and `reference` points to one elsewhere, or to
what a button does. `key` is the entity that the attachment came from. -/
structure Attachment where
  kind : Attachment.Kind
  bits : Option (List UInt8) := none
  reference : Option String := none
  mime : Option String := none
  name : Option String := none
  size : Option UInt64 := none
  width : Option UInt64 := none
  height : Option UInt64 := none
  key : Option UInt64 := none
deriving DecidableEq, Repr

namespace Attachment

def button (address label : String) : Attachment where
  kind := .button
  reference := some address
  name := some label

def ofData (kind : Kind) (data : Json.Fields) : Attachment where
  kind
  bits := (data.text? "val").bind fun s => Base64.decode? s.toList
  reference := data.text? "ref"
  mime := data.text? "mime"
  name := data.scalar? "name"
  size := data.natural? "size"

def hasPayload (a : Attachment) : Bool := a.bits.isSome || a.reference.isSome

def image (data : Json.Fields) : Attachment :=
  { ofData .image data with
    width := data.natural? "width"
    height := data.natural? "height" }

def file (data : Json.Fields) : Attachment :=
  let a := ofData .data data
  if a.hasPayload then a else { a with kind := .empty }

def withKey (a : Attachment) (key : Option UInt64) : Attachment := { a with key }

end Attachment

end RichText
