import RichText.Node.Basic

/-!
# Leaves

What a tree of nodes shows, from left to right: texts and attachments, each with the style that the
nodes above it add up to, the nearest node winning. An attachment hides the content of its node,
except for a quote, which is drawn around it.
-/
namespace RichText

inductive Leaf.Content where
  | text (s : String)
  | attachment (a : Attachment)
deriving DecidableEq

structure Leaf where
  content : Leaf.Content
  style : Style
  quoteDepth : Nat
deriving DecidableEq

def Leaf.text? (leaf : Leaf) : Option String :=
  match leaf.content with
  | .text s => some s
  | .attachment _ => none

namespace Node

def hides : Option Attachment → Bool
  | none => false
  | some a => a.kind ≠ .quote

mutual

def leavesIn (inherited : Style) (quoteDepth : Nat) : Node → List Leaf
  | text s own none =>
    if s.isEmpty then [] else [⟨.text s, inherited.merge own, quoteDepth⟩]
  | text _ own (some a) => [⟨.attachment a, inherited.merge own, quoteDepth⟩]
  | container ns own none => leavesOfAll (inherited.merge own) quoteDepth ns
  | container ns own (some a) =>
    ⟨.attachment a, inherited.merge own, quoteDepth⟩ ::
      (if a.kind = .quote then leavesOfAll (inherited.merge own) (quoteDepth + 1) ns else [])

def leavesOfAll (inherited : Style) (quoteDepth : Nat) : List Node → List Leaf
  | [] => []
  | n :: rest => n.leavesIn inherited quoteDepth ++ leavesOfAll inherited quoteDepth rest

end

def leaves (n : Node) : List Leaf := n.leavesIn .empty 0

mutual

/-- The text that a node adds to the node around it: none when an attachment hides it. -/
def innerText : Node → String
  | text s _ a => if hides a then "" else s
  | container ns _ a => if hides a then "" else innerTexts ns

def innerTexts : List Node → String
  | [] => ""
  | n :: rest => n.innerText ++ innerTexts rest

end

/-- All text of a node, its own attachment left aside. -/
def plainText : Node → String
  | text s _ _ => s
  | container ns _ _ => innerTexts ns

mutual

def isEmpty : Node → Bool
  | text s _ a => a.isNone && s.isEmpty
  | container ns _ a => a.isNone && areEmpty ns

def areEmpty : List Node → Bool
  | [] => true
  | n :: rest => n.isEmpty && areEmpty rest

end

theorem leavesOfAll_eq_flatMap (inherited : Style) (quoteDepth : Nat) (ns : List Node) :
    leavesOfAll inherited quoteDepth ns = ns.flatMap (leavesIn inherited quoteDepth) := by
  induction ns with
  | nil => rfl
  | cons n rest ih => rw [leavesOfAll, ih, List.flatMap_cons]

theorem innerTexts_eq_join (ns : List Node) : innerTexts ns = String.join (ns.map innerText) := by
  induction ns with
  | nil => rfl
  | cons n rest ih => rw [innerTexts, ih, List.map_cons, String.join_cons]

theorem areEmpty_eq_all (ns : List Node) : areEmpty ns = ns.all isEmpty := by
  induction ns with
  | nil => rfl
  | cons n rest ih => rw [areEmpty, ih, List.all_cons]

theorem isEmpty_eq (n : Node) : n.isEmpty =
    (n.attachment.isNone && n.content?.all String.isEmpty && n.children.all isEmpty) := by
  cases n with
  | text s own a => exact (Bool.and_true _).symm
  | container ns own a =>
      rw [isEmpty, areEmpty_eq_all, content?, Option.all_none, Bool.and_true]
      rfl

end Node

end RichText
