import RichText.Span.FlatText
import RichText.Strategy.Basic

/-!
# Rendering

Turns a tree of spans into a tree of nodes. A span that has a quote around it is left to the quote
strategy, if there is one; spans below the depth limit become plain text.

The engine carries one stack of tags through the whole tree: the tag of a span lies on it while its
content is rendered. Main statement (`walk_eq`): it leaves the stack as it was, and gives the node
of the plain recursion that hands every span the tags around it.
-/
namespace RichText

structure Engine where
  strategy : Strategy
  quoteStrategy : Option Strategy := none
  maxDepth : Nat := 256

namespace Engine

def strategyFor (e : Engine) (enclosing : List Tag) : Strategy :=
  match e.quoteStrategy with
  | some quoted => if enclosing.contains .quote then quoted else e.strategy
  | none => e.strategy

/-- The node of a span inside the given tags; `limit` levels of spans are rendered. -/
def render (e : Engine) : Nat → List Tag → Span → Node
  | 0, _, span => .ofText span.flatText
  | limit + 1, enclosing, span =>
    let strategy := e.strategyFor enclosing
    if span.isText then strategy.text (span.text.getD "") enclosing
    else
      let inner := enclosing ++ span.tag.toList
      let children :=
        if span.children.isEmpty then
          span.text.toList.map fun s => (e.strategyFor inner).text s inner
        else span.children.map (e.render limit inner)
      strategy.node ⟨span.tag, span.data, span.key, enclosing⟩ children

abbrev Stack := Array Tag

def within {α : Type} (tag : Option Tag) (action : StateM Stack α) : StateM Stack α := do
  match tag with
  | none => action
  | some t =>
    modify (·.push t)
    let result ← action
    modify (·.pop)
    return result

def walkText (e : Engine) (s : String) : StateM Stack Node := do
  let enclosing := (← get).toList
  return (e.strategyFor enclosing).text s enclosing

def walk (e : Engine) : Nat → Span → StateM Stack Node
  | 0, span => return .ofText span.flatText
  | limit + 1, span =>
    if span.isText then e.walkText (span.text.getD "")
    else do
      let children ← within span.tag <|
        if span.children.isEmpty then span.text.toList.mapM e.walkText
        else span.children.mapM (e.walk limit)
      let enclosing := (← get).toList
      return (e.strategyFor enclosing).node ⟨span.tag, span.data, span.key, enclosing⟩ children

theorem run_within {α : Type} (tag : Option Tag) {action : StateM Stack α} {f : List Tag → α}
    (h : ∀ stack, action.run stack = pure (f stack.toList, stack)) (stack : Stack) :
    (within tag action).run stack = pure (f (stack.toList ++ tag.toList), stack) := by
  cases tag <;> simp [within, h]

theorem run_mapM {α β : Type} {action : α → StateM Stack β} {f : List Tag → α → β}
    (xs : List α) (h : ∀ x ∈ xs, ∀ stack, (action x).run stack = pure (f stack.toList x, stack))
    (stack : Stack) : (xs.mapM action).run stack = pure (xs.map (f stack.toList), stack) := by
  induction xs with
  | nil => simp
  | cons x rest ih =>
    simp [List.mapM_cons, h x, ih fun y hy => h y (List.mem_cons_of_mem x hy)]

theorem run_walkText (e : Engine) (s : String) (stack : Stack) :
    (e.walkText s).run stack = pure ((e.strategyFor stack.toList).text s stack.toList, stack) := by
  simp [walkText]

/-- The engine leaves the stack as it was, and its node is that of the recursion. -/
theorem walk_eq (e : Engine) (limit : Nat) (span : Span) (stack : Stack) :
    (e.walk limit span).run stack = pure (e.render limit stack.toList span, stack) := by
  induction limit generalizing span stack with
  | zero => simp [walk, render]
  | succ limit ih =>
    rw [walk, render]
    split
    · simp [run_walkText]
    · split
      · have h := run_within span.tag
          (f := fun inner => span.text.toList.map fun s => (e.strategyFor inner).text s inner)
          (run_mapM (f := fun inner s => (e.strategyFor inner).text s inner) span.text.toList
            fun s _ stack => run_walkText e s stack) stack
        simp [h]
      · have h := run_within span.tag (f := fun inner => span.children.map (e.render limit inner))
          (run_mapM (f := e.render limit) span.children fun child _ stack => ih child stack) stack
        simp [h]

def renderIn (e : Engine) (span : Span) (enclosing : List Tag) : Node :=
  ((e.walk e.maxDepth span).run enclosing.toArray).run.1

theorem renderIn_eq (e : Engine) (span : Span) (enclosing : List Tag) :
    e.renderIn span enclosing = e.render e.maxDepth enclosing span := by
  simp [renderIn, walk_eq]

def renderRoot (e : Engine) (root : Span) : Node := e.renderIn root []

end Engine

end RichText
