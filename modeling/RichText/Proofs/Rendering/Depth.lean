import RichText.Proofs.Node.Paths
import RichText.Proofs.Rendering.Drawing

/-!
# Depth

Every level of spans adds at most two levels of nodes: a quote is set off inside a node of its own.
Main statement (`renderIn_depth`): with `maxDepth` levels of spans no node is deeper than
`2 * maxDepth`, so the passes over the tree are done with as many levels of recursion below its root;
and the stacks handed to handlers are at most `maxDepth` tags longer than the one at the start.
-/
namespace RichText

/-! ## Levels of nodes -/

namespace Node

def DepthAtMost : Nat → Node → Prop
  | 0, n => n.children = []
  | levels + 1, n => ∀ m ∈ n.children, m.DepthAtMost levels

theorem DepthAtMost.of_leaf {n : Node} (childless : n.children = []) (levels : Nat) :
    n.DepthAtMost levels := by
  cases levels with
  | zero => exact childless
  | succ levels =>
      intro m inside
      rw [childless] at inside
      cases inside

theorem DepthAtMost.succ {levels : Nat} {n : Node} (bounded : n.DepthAtMost levels) :
    n.DepthAtMost (levels + 1) := by
  induction levels generalizing n with
  | zero => exact .of_leaf bounded 1
  | succ levels ih => exact fun m inside => ih (bounded m inside)

theorem DepthAtMost.length_le {levels : Nat} {n m : Node} {path : List Nat}
    (bounded : n.DepthAtMost levels) (leads : n.follow? path = some m) : path.length ≤ levels := by
  induction path generalizing n levels with
  | nil => exact Nat.zero_le levels
  | cons i path ih =>
      obtain ⟨child, place, leads⟩ := Option.bind_eq_some_iff.mp leads
      have inside := List.mem_of_getElem? place
      cases levels with
      -- A path that goes on needs a child, and there is none.
      | zero =>
          rw [bounded] at inside
          cases inside
      | succ levels => exact Nat.succ_le_succ (ih (bounded child inside) leads)

end Node

open Node

/-! ## Passes -/

/-- A recursive pass over a tree. `down` is what the calls for the children of a node are handed, if
there are any, and `up` what becomes of their results. -/
structure Pass (σ α : Type) where
  down : σ → Node → Option σ
  up : σ → Node → List α → α

namespace Pass

variable {σ α : Type} (pass : Pass σ α)

def run? : Nat → σ → Node → Option α
  | 0, state, n =>
    if (pass.down state n).isNone || n.children.isEmpty then some (pass.up state n []) else none
  | levels + 1, state, n =>
    match pass.down state n with
    | none => some (pass.up state n [])
    | some below => (n.children.mapM (run? levels below)).map (pass.up state n)

def Computes (f : σ → Node → α) : Prop :=
  ∀ state n, f state n =
    pass.up state n ((pass.down state n).elim [] fun below => n.children.map (f below))

variable {pass}

theorem mapM_eq_some {f : α → Option σ} {g : α → σ} {xs : List α}
    (each : ∀ x ∈ xs, f x = some (g x)) : xs.mapM f = some (xs.map g) := by
  induction xs with
  | nil => rfl
  | cons x rest ih =>
      obtain ⟨first, others⟩ := List.forall_mem_cons.mp each
      rw [List.mapM_cons, first, ih others]
      rfl

theorem Computes.run?_eq {f : σ → Node → α} (computes : pass.Computes f) {levels : Nat} {n : Node}
    (bounded : n.DepthAtMost levels) (state : σ) : pass.run? levels state n = some (f state n) := by
  induction levels generalizing n state with
  | zero =>
      change n.children = [] at bounded
      rw [computes state n, run?, bounded, List.isEmpty_nil, Bool.or_true, if_pos rfl]
      cases pass.down state n <;> rfl
  | succ levels ih =>
      rw [computes state n, run?]
      cases pass.down state n with
      | none => rfl
      | some below =>
          have each : n.children.mapM (pass.run? levels below) = some (n.children.map (f below)) :=
            mapM_eq_some fun m inside => ih (bounded m inside) below
          simp only [each, Option.map_some, Option.elim_some]

end Pass

namespace Node

/-- Leaves go down with the place of the node around them, and not below what hides its content. -/
def leavesPass : Pass Place (List Leaf) where
  down place n :=
    if hides n.attachment then none
    else if n.attachment.isSome then some (place.styled n.style).quoted
    else some (place.styled n.style)
  up place n inner :=
    (match n.attachment with
      | some a => (place.styled n.style).attachment a
      | none => n.content?.elim [] (place.styled n.style).run) ++ inner.flatten

theorem computes_leaves : leavesPass.Computes fun place n => n.drawn place := by
  intro place n
  dsimp only
  cases n with
  | text s own a =>
      cases a with
      | none =>
          rw [drawn_text]
          exact (List.append_nil _).symm
      | some a =>
          change _ = (place.styled own).attachment a ++ List.flatten _
          cases leavesPass.down place (text s own (some a)) <;> rfl
  | container ns own a =>
      cases a with
      | none => exact drawn_container ns own place
      | some a =>
          by_cases isQuote : a.kind = .quote
          · have shown : leavesPass.down place (container ns own (some a)) =
                some (place.styled own).quoted := by
              simp [leavesPass, attachment, hides, isQuote, style]
            rw [shown, drawn, leavesIn, if_pos isQuote, leavesOfAll_eq_flatMap, List.flatMap_def]
            rfl
          · have hidden : leavesPass.down place (container ns own (some a)) = none := by
              simp [leavesPass, attachment, hides, isQuote]
            rw [hidden, drawn, leavesIn, if_neg isQuote]
            rfl

/-- The text of a node is taken whatever its own attachment is; `top` says that it is this node. -/
def textPass : Pass Bool String where
  down top n := if !top && hides n.attachment then none else some false
  up top n inner :=
    if !top && hides n.attachment then "" else n.content?.getD "" ++ String.join inner

def emptyPass : Pass Unit Bool where
  down _ n := if n.attachment.isNone then some () else none
  up _ n inner := n.attachment.isNone && n.content?.all String.isEmpty && inner.all id

theorem computes_text :
    textPass.Computes fun top n => if top then n.plainText else n.innerText := by
  intro top n
  dsimp only
  cases n with
  | text s own a =>
      cases top with
      | true => exact String.append_empty.symm
      | false =>
          rw [if_neg Bool.false_ne_true, innerText]
          cases hidden : hides a <;> simp [textPass, attachment, content?, children, hidden]
  | container ns own a =>
      cases top with
      | true =>
          change innerTexts ns = "" ++ String.join (ns.map innerText)
          rw [innerTexts_eq_join, String.empty_append]
      | false =>
          rw [if_neg Bool.false_ne_true, innerText, innerTexts_eq_join]
          cases hidden : hides a <;> simp [textPass, attachment, content?, children, hidden]

theorem computes_empty : emptyPass.Computes fun _ n => n.isEmpty := by
  intro state n
  dsimp only
  rw [isEmpty_eq]
  unfold emptyPass
  dsimp only
  cases n.attachment with
  | none =>
      rw [Option.isNone_none, if_pos rfl, Option.elim_some, List.all_map]
      rfl
  | some a => rfl

end Node

/-! ## Steps -/

theorem Strategy.depthAtMost_of_makes {policy : Option QuotePolicy} {c : Context}
    {children : List Node} {n : Node} (made : Makes policy c children n) {levels : Nat}
    (bounded : ∀ m ∈ children, m.DepthAtMost levels) : n.DepthAtMost (levels + 2) := by
  have around {ns : List Node} (each : ∀ m ∈ ns, m.DepthAtMost levels) (own : Style)
      (a : Option Attachment) : (container ns own a).DepthAtMost (levels + 1) := each
  have line : Node.lineBreak.DepthAtMost levels := .of_leaf rfl _
  cases made with
  | lineBreak isTag => exact .of_leaf rfl _
  | label inForce kind name => exact .of_leaf rfl _
  | nothing => exact .of_leaf rfl _
  | noFile isTag whole given => exact .of_leaf rfl _
  | file isTag whole given => exact .of_leaf rfl _
  | image isTag whole => exact .of_leaf rfl _
  | plain => exact (around bounded _ _).succ
  | styled given => exact (around bounded _ _).succ
  | button isTag whole acts => exact (around bounded _ _).succ
  | lines isTag => exact (around (forall_mem_intersperse bounded line) _ _).succ
  -- Only quotes, framed or not, take the second level.
  | quote isTag whole =>
      change ∀ m ∈ [_, _], DepthAtMost _ _
      rw [List.forall_mem_cons, List.forall_mem_singleton]
      exact ⟨around bounded _ _, line.succ⟩
  | unframed isTag reduced =>
      change ∀ m ∈ [_, _], DepthAtMost _ _
      rw [List.forall_mem_cons, List.forall_mem_singleton]
      exact ⟨around bounded _ _, line.succ⟩

theorem Document.depthAtMost_render (options : Options) (limit : Nat) (enclosing : List Tag)
    (span : Span) : ((engine options).render limit enclosing span).DepthAtMost (2 * limit) := by
  have text (s : String) (inner : List Tag) (levels : Nat) :
      (((engine options).strategyFor inner).text s inner).DepthAtMost levels := by
    rw [strategyFor_engine]
    cases options.policyFor (inner.contains .quote) <;> exact .of_leaf rfl levels
  induction limit generalizing enclosing span with
  | zero => rfl
  | succ limit ih =>
      by_cases plain : span.isText
      · rw [Engine.render_text plain]
        exact text _ _ _
      · rw [Engine.render_node plain, strategyFor_engine, Nat.mul_succ]
        apply Strategy.depthAtMost_of_makes (Strategy.makes_node _ _ _)
        unfold Engine.content
        split
        · exact List.forall_mem_map.mpr fun s _ => text s _ _
        · exact List.forall_mem_map.mpr fun child _ => ih _ child

def Span.quotes : Nat → Span
  | 0 => .ofText ""
  | levels + 1 => .withChildren (.ofTag .quote) [quotes levels]

/-- No smaller bound holds: each quote takes two levels of nodes. -/
theorem Document.depth_reached (maxDepth limit : Nat) (enclosing : List Tag) :
    ∃ m, ((engine { quotePolicy := none, maxDepth }).render limit enclosing
      (.quotes limit)).follow? (List.replicate (2 * limit) 0) = some m := by
  induction limit generalizing enclosing with
  | zero => exact ⟨_, rfl⟩
  | succ limit ih =>
      rw [Nat.mul_succ, List.replicate_succ, List.replicate_succ]
      exact ih (enclosing ++ [.quote])

/-! ## Stacks -/

/-- The stacks that handlers are called with for a span and all below it. -/
def Span.handed : Nat → List Tag → Span → List (List Tag)
  | 0, _, _ => []
  | limit + 1, enclosing, span =>
    let inner := enclosing ++ span.tag.toList
    let below :=
      if span.children.isEmpty then span.text.toList.map fun _ => inner
      else span.children.flatMap (handed limit inner)
    if span.isText then [enclosing] else below ++ [enclosing]

theorem Span.mem_handed {limit : Nat} {enclosing stack : List Tag} {span : Span}
    (called : stack ∈ span.handed limit enclosing) :
    enclosing <+: stack ∧ stack.length ≤ enclosing.length + limit := by
  induction limit generalizing enclosing span with
  | zero => cases called
  | succ limit ih =>
      have own : enclosing <+: enclosing ∧ enclosing.length ≤ enclosing.length + (limit + 1) :=
        ⟨List.prefix_rfl, Nat.le_add_right _ _⟩
      have longer : (enclosing ++ span.tag.toList).length ≤ enclosing.length + 1 := by
        rw [List.length_append]
        exact Nat.add_le_add_left Option.length_toList_le _
      rw [handed] at called
      split at called
      · rw [List.mem_singleton.mp called]
        exact own
      rcases List.mem_append.mp called with below | here
      · split at below
        · obtain ⟨s, -, rfl⟩ := List.mem_map.mp below
          exact ⟨List.prefix_append _ _, by omega⟩
        · obtain ⟨child, -, below⟩ := List.mem_flatMap.mp below
          obtain ⟨starts, short⟩ := ih below
          exact ⟨(List.prefix_append _ _).trans starts, by omega⟩
      · rw [List.mem_singleton.mp here]
        exact own

namespace Engine

/-- Two engines whose handlers do the same when they are called with a stack. -/
structure Agrees (e other : Engine) (stack : List Tag) : Prop where
  text : ∀ s, (e.strategyFor stack).text s stack = (other.strategyFor stack).text s stack
  node : ∀ tag data key children, (e.strategyFor stack).node ⟨tag, data, key, stack⟩ children =
    (other.strategyFor stack).node ⟨tag, data, key, stack⟩ children

/-- Nothing depends on what handlers would do with other stacks. -/
theorem render_congr_handed {e other : Engine} {limit : Nat} {enclosing : List Tag} {span : Span}
    (agrees : ∀ stack ∈ span.handed limit enclosing, e.Agrees other stack) :
    e.render limit enclosing span = other.render limit enclosing span := by
  induction limit generalizing enclosing span with
  | zero => rfl
  | succ limit ih =>
      rw [Span.handed] at agrees
      by_cases plain : span.isText
      · rw [if_pos plain, List.forall_mem_singleton] at agrees
        rw [render_text plain, render_text plain, agrees.text]
      · rw [if_neg plain, List.forall_mem_append, List.forall_mem_singleton] at agrees
        obtain ⟨below, own⟩ := agrees
        rw [render_node plain, render_node plain, own.node]
        congr 1
        unfold content
        split
        case isTrue childless =>
          rw [if_pos childless, List.forall_mem_map] at below
          exact List.map_congr_left fun s has => (below s has).text s
        case isFalse parent =>
          rw [if_neg parent, List.forall_mem_flatMap] at below
          exact List.map_congr_left fun child inside => ih (below child inside)

end Engine

/-! ## The statement -/

theorem Document.renderIn_depth (options : Options) (span : Span) (initial : List Tag) :
    let n := (engine options).renderIn span initial
    (∀ path m, n.follow? path = some m → path.length ≤ 2 * options.maxDepth) ∧
      Node.leavesPass.run? (2 * options.maxDepth) { } n = some n.leaves ∧
      Node.textPass.run? (2 * options.maxDepth) true n = some n.plainText ∧
      Node.emptyPass.run? (2 * options.maxDepth) () n = some n.isEmpty ∧
      (∀ stack ∈ span.handed options.maxDepth initial,
        initial <+: stack ∧ stack.length ≤ initial.length + options.maxDepth) ∧
      ∀ other : Engine, other.maxDepth = options.maxDepth →
        (∀ stack ∈ span.handed options.maxDepth initial, (engine options).Agrees other stack) →
          other.renderIn span initial = n := by
  intro n
  have bounded : n.DepthAtMost (2 * options.maxDepth) := by
    rw [show n = _ from Engine.renderIn_eq _ span initial]
    exact depthAtMost_render options options.maxDepth initial span
  refine ⟨fun path m leads => bounded.length_le leads, ?_, ?_, ?_, ?_, ?_⟩
  · exact computes_leaves.run?_eq bounded { }
  · exact computes_text.run?_eq bounded true
  · exact computes_empty.run?_eq bounded ()
  · exact fun stack called => Span.mem_handed called
  · intro other same agrees
    rw [Engine.renderIn_eq, same]
    exact (Engine.render_congr_handed agrees).symm.trans (Engine.renderIn_eq _ span initial).symm

/-- The other handlers do something else for longer stacks. -/
theorem Document.renderIn_depth_quoted :
    let options : Options := { maxDepth := 2 }
    let span : Span := .withChildren (.ofTag .strong)
      [.ofText "a", { tag := some .emphasis, text := some "b" }]
    let muted : Strategy := .quoted { }
    let other : Engine :=
      { engine options with
        quoteStrategy := some
          { muted with text := fun s stack =>
              if stack.length ≤ 3 then muted.text s stack else .empty } }
    let n := (engine options).renderIn span [.quote]
    (∃ m, n.follow? [1, 0] = some m ∧ [1, 0].length ≤ 4) ∧
      (∀ stack ∈ span.handed 2 [.quote], (engine options).Agrees other stack) ∧
      other.renderIn span [.quote] = n := by
  intro options span muted other n
  obtain ⟨depth, -, -, -, handed, same⟩ := renderIn_depth options span [.quote]
  have agrees : ∀ stack ∈ span.handed 2 [.quote], (engine options).Agrees other stack := by
    intro stack member
    have short : stack.length ≤ 3 := (handed stack member).2
    have quoted (inside : stack.contains .quote) : (engine options).Agrees other stack := by
      have base : (engine options).strategyFor stack = muted := if_pos inside
      have changed : other.strategyFor stack = { muted with text := _ } := if_pos inside
      constructor
      · intro s
        rw [base, changed]
        exact (if_pos short).symm
      · intro tag data key children
        rw [base, changed]
        rfl
    have unquoted (outside : ¬ stack.contains .quote) : (engine options).Agrees other stack := by
      have base : (engine options).strategyFor stack = .full := if_neg outside
      have unchanged : other.strategyFor stack = .full := if_neg outside
      constructor
      · intro s
        rw [base, unchanged]
      · intro tag data key children
        rw [base, unchanged]
    by_cases inside : stack.contains .quote
    · exact quoted inside
    · exact unquoted inside
  obtain ⟨m, leads⟩ : ∃ m, n.follow? [1, 0] = some m := ⟨_, rfl⟩
  exact ⟨⟨m, leads, depth [1, 0] m leads⟩, agrees, same other rfl agrees⟩

end RichText
