import RichText.Strategy.Full

/-!
# The strategy for quoted content

What is quoted is a reminder of another message: it is muted, and what could distract from the
message itself is reduced as a policy says. What the policy does not name is rendered in full.
-/
namespace RichText

/-- How a kind of content is shown inside a quote: as outside, as a short label, or not at all. -/
inductive Reduction where
  | keep
  | placeholder
  | drop
deriving DecidableEq, Repr

/-- Images and files have a label for a placeholder, buttons and quotes their content. Mentions
without colour are bold. `textStyle` is laid over every run of text. -/
structure QuotePolicy where
  images : Reduction := .placeholder
  files : Reduction := .placeholder
  buttons : Reduction := .placeholder
  nestedQuotes : Reduction := .drop
  links : Bool := false
  mentionColor : Bool := false
  textStyle : Style := .ofProperty (.foreground Palette.quoted)
deriving DecidableEq, Inhabited

def QuotePolicy.keepAll : QuotePolicy where
  images := .keep
  files := .keep
  buttons := .keep
  nestedQuotes := .keep
  links := true
  mentionColor := true
  textStyle := .empty

namespace Strategy

def placeholder (policy : QuotePolicy) (label : String) (name : Option String) : Node :=
  let text :=
    match name with
    | some name => if name.isEmpty then "[" ++ label ++ "]" else "[" ++ label ++ ": " ++ name ++ "]"
    | none => "[" ++ label ++ "]"
  ((Node.ofText text).withStyle policy.textStyle).withProperty .italic

def shownName? (a : Attachment) : Option String :=
  if a.kind = .empty then none else a.name

def quoted (policy : QuotePolicy) : Strategy where
  text s _ := (Node.ofText s).withStyle policy.textStyle
  lineBreak := full.lineBreak
  styled := full.styled
  mention c children :=
    if policy.mentionColor then full.mention c children
    else (Node.group children).withProperty .bold
  hashtag := full.hashtag
  link c children := if policy.links then full.link c children else .group children
  image c children :=
    match policy.images with
    | .keep => full.image c children
    | .placeholder => placeholder policy "image" (c.data.bind (·.scalar? "name"))
    | .drop => .empty
  file c children :=
    let n := full.file c children
    match n.attachment with
    | none => n
    | some a =>
      match policy.files with
      | .keep => n
      | .placeholder => placeholder policy "file" (shownName? a)
      | .drop => .empty
  button c children :=
    match policy.buttons with
    | .keep => full.button c children
    | .placeholder => .group children
    | .drop => .empty
  form := full.form
  row := full.row
  quote c children :=
    match policy.nestedQuotes with
    | .keep => full.quote c children
    | .placeholder => .group [.group children, .lineBreak]
    | .drop => .empty
  other := full.other

end Strategy

end RichText
