import RichText.Action
import RichText.Palette
import RichText.Strategy.Basic
import RichText.Text.Blank
import RichText.Url.Parse

/-!
# The full strategy

Renders every kind of span as what it is.
-/
namespace RichText

def Tag.property? : Tag → Option Style.Property
  | strong => some .bold
  | emphasis => some .italic
  | strikethrough => some .strikethrough
  | highlight => some (.background Palette.highlight)
  | code => some .monospace
  | _ => none

namespace Strategy

def withProperty? (n : Node) : Option Style.Property → Node
  | some p => n.withProperty p
  | none => n

def linkTarget? (s : String) : Option Url := do
  let u ← Url.parse? (Text.trim s.toList)
  if u.scheme = "http" ∨ u.scheme = "https" then some u else none

def onLines (ns : List Node) : List Node := ns.intersperse .lineBreak

/-- Data of this type is for machines and never shown. -/
def machineType : String := "application/json"

def mentionProperty? (c : Context) : Option Style.Property :=
  (c.data.bind (·.scalar? "val")).map fun id => .foreground (Palette.mention id)

def linkProperty? (c : Context) : Option Style.Property :=
  ((c.data.bind (·.text? "url")).bind linkTarget?).map .link

def imageNode (c : Context) : Node :=
  let a := match c.data with
    | some data => Attachment.image data
    | none => { kind := .image }
  .ofAttachment (a.withKey c.key)

def fileNode (c : Context) : Node :=
  match c.data with
  | none => .ofAttachment { kind := .empty, key := c.key }
  | some data =>
    if data.text? "mime" = some machineType then .empty
    else .ofAttachment ((Attachment.file data).withKey c.key)

def buttonNode (c : Context) (children : List Node) : Node :=
  let face := Node.group children
  let label := face.plainText
  match c.data.bind (Action.address? label) with
  | some address => face.withAttachment ((Attachment.button address label).withKey c.key)
  | none => face

def quoteNode (c : Context) (children : List Node) : Node :=
  let quoted := (Node.group children).withAttachment { kind := .quote, key := c.key }
  .group [quoted, .lineBreak]

def full : Strategy where
  text s _ := .ofText s
  lineBreak _ := .lineBreak
  styled c children := withProperty? (.group children) (c.tag.bind Tag.property?)
  mention c children := withProperty? (.group children) (mentionProperty? c)
  hashtag _ children := .group children
  link c children := withProperty? (.group children) (linkProperty? c)
  image c _ := imageNode c
  file c _ := fileNode c
  button := buttonNode
  form _ children := .group (onLines children)
  row _ children := .group children
  quote := quoteNode
  other _ children := .group children

end Strategy

end RichText
