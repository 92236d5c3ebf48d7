import RichText.Node.Leaves
import RichText.Span.Basic

/-!
# Strategies

A strategy says what node a span becomes, by its tag, once its children are nodes.
-/
namespace RichText

/-- What is known of a span beside its children: its own tag, data and key, and the tags of the
spans around it, the outermost first. -/
structure Context where
  tag : Option Tag
  data : Option Json.Fields
  key : Option UInt64
  enclosing : List Tag

def Context.inside (c : Context) (tag : Tag) : Bool := c.enclosing.contains tag

structure Strategy where
  text : String → List Tag → Node
  lineBreak : Context → Node
  /-- Strong, emphasized, struck, highlighted and code text. -/
  styled : Context → List Node → Node
  mention : Context → List Node → Node
  hashtag : Context → List Node → Node
  link : Context → List Node → Node
  image : Context → List Node → Node
  file : Context → List Node → Node
  button : Context → List Node → Node
  form : Context → List Node → Node
  row : Context → List Node → Node
  quote : Context → List Node → Node
  other : Context → List Node → Node

namespace Strategy

def uniform (other : Context → List Node → Node) : Strategy where
  text s _ := .ofText s
  lineBreak _ := .lineBreak
  styled := other
  mention := other
  hashtag := other
  link := other
  image := other
  file := other
  button := other
  form := other
  row := other
  quote := other
  other := other

def structural : Strategy := uniform fun _ children => .group children

def node (s : Strategy) (c : Context) (children : List Node) : Node :=
  match c.tag with
  | none => s.other c children
  | some .lineBreak => s.lineBreak c
  | some .strong => s.styled c children
  | some .emphasis => s.styled c children
  | some .strikethrough => s.styled c children
  | some .highlight => s.styled c children
  | some .code => s.styled c children
  | some .mention => s.mention c children
  | some .hashtag => s.hashtag c children
  | some .link => s.link c children
  | some .image => s.image c children
  | some .file => s.file c children
  | some .button => s.button c children
  | some .form => s.form c children
  | some .row => s.row c children
  | some .quote => s.quote c children
  | some (.other _) => s.other c children

end Strategy

end RichText
