import RichText.Color
import RichText.Url.Basic

/-!
# Styles

A style holds at most one property of each kind.
-/
namespace RichText.Style

inductive Key where
  | bold
  | italic
  | strikethrough
  | monospace
  | foreground
  | background
  | link
deriving DecidableEq, Repr

inductive Property where
  | bold
  | italic
  | strikethrough
  | monospace
  | foreground (color : Color)
  | background (color : Color)
  | link (target : Url)
deriving DecidableEq

def Key.all : List Key :=
  [bold, italic, strikethrough, monospace, foreground, background, link]

namespace Property

def key : Property → Key
  | bold => .bold
  | italic => .italic
  | strikethrough => .strikethrough
  | monospace => .monospace
  | foreground _ => .foreground
  | background _ => .background
  | link _ => .link

def text : Property → String
  | bold => "bold"
  | italic => "italic"
  | strikethrough => "strikethrough"
  | monospace => "monospace"
  | foreground c => "fg=" ++ c.text
  | background c => "bg=" ++ c.text
  | link u => "link=" ++ u.text

end Property

end RichText.Style

namespace RichText

structure Style where
  bold : Bool := false
  italic : Bool := false
  strikethrough : Bool := false
  monospace : Bool := false
  foreground : Option Color := none
  background : Option Color := none
  link : Option Url := none
deriving DecidableEq, Inhabited

namespace Style

def empty : Style := { }

def get? (s : Style) : Key → Option Property
  | .bold => if s.bold then some .bold else none
  | .italic => if s.italic then some .italic else none
  | .strikethrough => if s.strikethrough then some .strikethrough else none
  | .monospace => if s.monospace then some .monospace else none
  | .foreground => s.foreground.map .foreground
  | .background => s.background.map .background
  | .link => s.link.map .link

def contains (s : Style) (k : Key) : Bool := (s.get? k).isSome

def insert (s : Style) : Property → Style
  | .bold => { s with bold := true }
  | .italic => { s with italic := true }
  | .strikethrough => { s with strikethrough := true }
  | .monospace => { s with monospace := true }
  | .foreground c => { s with foreground := some c }
  | .background c => { s with background := some c }
  | .link u => { s with link := some u }

def replace (s : Style) (p : Property) : Option Property × Style := (s.get? p.key, s.insert p)

/-- The properties of both styles; of two of a kind the one of `other`. -/
def merge (s other : Style) : Style where
  bold := s.bold || other.bold
  italic := s.italic || other.italic
  strikethrough := s.strikethrough || other.strikethrough
  monospace := s.monospace || other.monospace
  foreground := other.foreground <|> s.foreground
  background := other.background <|> s.background
  link := other.link <|> s.link

def ofProperty (p : Property) : Style := empty.insert p

def ofList (ps : List Property) : Style := ps.foldl insert empty

def toList (s : Style) : List Property := Key.all.filterMap s.get?

def size (s : Style) : Nat := s.toList.length

def isEmpty (s : Style) : Bool := s.toList.isEmpty

def text (s : Style) : String := ",".intercalate (s.toList.map Property.text)

theorem get?_empty (k : Key) : empty.get? k = none := by cases k <;> rfl

theorem get?_insert (s : Style) (p : Property) (k : Key) :
    (s.insert p).get? k = if k = p.key then some p else s.get? k := by
  cases p <;> cases k <;> rfl

theorem get?_merge (s other : Style) (k : Key) :
    (s.merge other).get? k = (other.get? k <|> s.get? k) := by
  obtain ⟨b, i, d, m, f, g, l⟩ := s
  obtain ⟨b', i', d', m', f', g', l'⟩ := other
  cases k
  case bold => cases b <;> cases b' <;> rfl
  case italic => cases i <;> cases i' <;> rfl
  case strikethrough => cases d <;> cases d' <;> rfl
  case monospace => cases m <;> cases m' <;> rfl
  case foreground => cases f <;> cases f' <;> rfl
  case background => cases g <;> cases g' <;> rfl
  case link => cases l <;> cases l' <;> rfl

theorem ext_get? {s t : Style} (h : ∀ k, s.get? k = t.get? k) : s = t := by
  obtain ⟨b, i, d, m, f, g, l⟩ := s
  obtain ⟨b', i', d', m', f', g', l'⟩ := t
  have hb := h .bold
  have hi := h .italic
  have hd := h .strikethrough
  have hm := h .monospace
  have hf := h .foreground
  have hg := h .background
  have hl := h .link
  simp only [get?] at hb hi hd hm hf hg hl
  have hf' : f = f' := by cases f <;> cases f' <;> simp_all
  have hg' : g = g' := by cases g <;> cases g' <;> simp_all
  have hl' : l = l' := by cases l <;> cases l' <;> simp_all
  subst hf' hg' hl'
  cases b <;> cases b' <;> cases i <;> cases i' <;> cases d <;> cases d' <;> cases m <;>
    cases m' <;> simp_all

theorem key_of_get? {s : Style} {k : Key} {p : Property} (has : s.get? k = some p) :
    p.key = k := by
  cases k with
  | bold | italic | strikethrough | monospace =>
      rw [get?] at has
      split at has <;> cases has
      rfl
  | foreground | background | link =>
      obtain ⟨_, -, rfl⟩ := Option.map_eq_some_iff.mp has
      rfl

theorem mem_toList {s : Style} {p : Property} : p ∈ s.toList ↔ s.get? p.key = some p := by
  have all (k : Key) : k ∈ Key.all := by cases k <;> decide
  rw [toList, List.mem_filterMap]
  constructor
  · rintro ⟨k, -, has⟩
    rwa [key_of_get? has]
  · exact fun has => ⟨p.key, all p.key, has⟩

theorem pairwise_toList (s : Style) :
    s.toList.Pairwise fun p q => p.key.ctorIdx < q.key.ctorIdx := by
  have order : Key.all.Pairwise fun k l => k.ctorIdx < l.ctorIdx := by decide
  rw [toList, List.pairwise_filterMap]
  refine order.imp fun less p has q has' => ?_
  rwa [key_of_get? has, key_of_get? has']

theorem merge_empty (s : Style) : s.merge empty = s := by
  apply ext_get?
  intro k
  rw [get?_merge, get?_empty]
  rfl

theorem empty_merge (s : Style) : empty.merge s = s := by
  apply ext_get?
  intro k
  rw [get?_merge, get?_empty]
  cases s.get? k <;> rfl

theorem merge_insert (s other : Style) (p : Property) :
    s.merge (other.insert p) = (s.merge other).insert p := by
  apply ext_get?
  intro k
  rw [get?_insert, get?_merge, get?_merge, get?_insert]
  split <;> rfl

end Style

end RichText
