import RichText.Attachment
import RichText.Style.Basic

/-!
# Nodes

A rendered document is a tree of nodes. A node holds a text or children, never both, a style of its
own, and perhaps an attachment.
-/
namespace RichText

inductive Node where
  | text (content : String) (style : Style) (attachment : Option Attachment)
  | container (children : List Node) (style : Style) (attachment : Option Attachment)
deriving Inhabited

namespace Node

def style : Node → Style
  | text _ s _ => s
  | container _ s _ => s

def attachment : Node → Option Attachment
  | text _ _ a => a
  | container _ _ a => a

def children : Node → List Node
  | text _ _ _ => []
  | container ns _ _ => ns

theorem induction {P : Node → Prop} (step : ∀ n, (∀ m ∈ n.children, P m) → P n) (n : Node) :
    P n :=
  @Node.rec P (fun ns => ∀ n ∈ ns, P n) (fun s own a => step (text s own a) nofun)
    (fun ns own a => step (container ns own a)) nofun
    (fun _ _ first rest => List.forall_mem_cons.mpr ⟨first, rest⟩) n

def content? : Node → Option String
  | text s _ _ => some s
  | container _ _ _ => none

def ofText (s : String) : Node := text s .empty none

def group (children : List Node) : Node := container children .empty none

def empty : Node := group []

def lineBreak : Node := ofText "\n"

def withStyle (n : Node) (s : Style) : Node :=
  match n with
  | text c own a => text c (own.merge s) a
  | container ns own a => container ns (own.merge s) a

def withProperty (n : Node) (p : Style.Property) : Node :=
  match n with
  | text c own a => text c (own.insert p) a
  | container ns own a => container ns (own.insert p) a

def withAttachment (n : Node) (a : Attachment) : Node :=
  match n with
  | text c own _ => text c own (some a)
  | container ns own _ => container ns own (some a)

def ofAttachment (a : Attachment) : Node := empty.withAttachment a

end Node

end RichText
