import Mathlib.Data.List.Forall2
import RichText.Proofs.Rendering.Shape
import RichText.Proofs.Span.FlatText

/-!
# Conservation of text

Main statement (`plainText_renderIn`): the plain text of a rendered document is the flat text of its
spans, if the document has only spans that show their content as it is, or if the strategy keeps
nothing but the structure. So neither the limit to the depth nor the strategies, the tags around the
document, its data or its keys make a difference.
-/
namespace RichText

/-- The tags of spans that show the text of their content as it is, or a line break. -/
def Tag.isTextual : Tag → Bool
  | image => false
  | file => false
  | button => false
  | quote => false
  | form => false
  | _ => true

theorem Span.Within.every {p : Span → Bool} {root span : Span} (inside : root.Within span)
    (all : root.every p) : p span := by
  have below : span.every p := by
    induction inside with
    | root => exact all
    | child _ below ih => exact (every_iff.mp ih).2 _ below
  exact (every_iff.mp below).1

namespace Node

structure Shows (n : Node) (s : String) : Prop where
  bare : n.attachment = none
  text : n.plainText = s

theorem Shows.innerText {n : Node} {s : String} (shows' : n.Shows s) : n.innerText = s := by
  rw [← plainText_eq_innerText shows'.bare, shows'.text]

theorem shows_ofText (s : String) : (ofText s).Shows s := ⟨rfl, rfl⟩

theorem innerTexts_of_shows {ns : List Node} {texts : List String}
    (each : List.Forall₂ Shows ns texts) : innerTexts ns = String.join texts := by
  induction each with
  | nil => rfl
  | cons first _ ih => rw [innerTexts, String.join_cons, first.innerText, ih]

end Node

open Node

/-! ## Strategies -/

namespace Strategy

/-- A strategy that keeps the text of all spans with tags of some kind. -/
structure Conserves (s : Strategy) (kind : Tag → Bool) : Prop where
  text : ∀ run enclosing, (s.text run enclosing).Shows run
  lineBreak : ∀ c children, c.tag = some .lineBreak → (s.node c children).Shows "\n"
  node : ∀ c children, c.tag ≠ some .lineBreak → c.tag.all kind →
    (s.node c children).Shows (innerTexts children)

theorem conserves_structural : structural.Conserves fun _ => true := by
  refine ⟨fun run enclosing => ⟨rfl, rfl⟩, ?_, ?_⟩
  · rintro ⟨tag, data, key, enclosing⟩ children ⟨⟩
    exact ⟨rfl, rfl⟩
  · rintro ⟨tag, data, key, enclosing⟩ children other -
    cases tag with
    | none => exact ⟨rfl, rfl⟩
    | some t =>
        cases t with
        | lineBreak => exact absurd rfl other
        | _ => exact ⟨rfl, rfl⟩

theorem shows_withProperty? (children : List Node) (p : Option Style.Property) :
    (withProperty? (.group children) p).Shows (innerTexts children) := by
  cases p <;> exact ⟨rfl, rfl⟩

theorem conserves_full : full.Conserves Tag.isTextual := by
  refine ⟨fun run enclosing => ⟨rfl, rfl⟩, ?_, ?_⟩
  · rintro ⟨tag, data, key, enclosing⟩ children ⟨⟩
    exact ⟨rfl, rfl⟩
  · rintro ⟨tag, data, key, enclosing⟩ children other textual
    cases tag with
    | none => exact ⟨rfl, rfl⟩
    | some t =>
        cases t with
        | lineBreak => exact absurd rfl other
        | mention | link => exact shows_withProperty? children _
        | strong | emphasis | strikethrough | highlight | code | hashtag | row | other =>
            exact ⟨rfl, rfl⟩
        | image | file | button | quote | form => cases textual

/-- Of the spans that show their content, a policy changes only the style of mentions and links. -/
theorem conserves_under (policy : Option QuotePolicy) :
    (under policy).Conserves Tag.isTextual := by
  cases policy with
  | none => exact conserves_full
  | some rules =>
      refine ⟨fun run enclosing => ⟨rfl, rfl⟩, ?_, ?_⟩
      · rintro ⟨tag, data, key, enclosing⟩ children ⟨⟩
        exact ⟨rfl, rfl⟩
      · rintro ⟨tag, data, key, enclosing⟩ children other textual
        have whole := conserves_full.node ⟨tag, data, key, enclosing⟩ children other textual
        cases tag with
        | none => exact whole
        | some t =>
            cases t with
            | mention =>
                change Node.Shows (if rules.mentionColor then _ else _) _
                split
                · exact whole
                · exact ⟨rfl, rfl⟩
            | link =>
                change Node.Shows (if rules.links then _ else _) _
                split
                · exact whole
                · exact ⟨rfl, rfl⟩
            | image | file | button | quote | form => cases textual
            | _ => exact whole

end Strategy

/-! ## Runs -/

namespace Engine

/-- What both strategies of an engine have, the one that it follows at a place has. -/
theorem strategyFor_of {P : Strategy → Prop} {e : Engine} (base : P e.strategy)
    (quoted : ∀ s ∈ e.quoteStrategy, P s) (enclosing : List Tag) : P (e.strategyFor enclosing) := by
  unfold strategyFor
  split
  · rename_i s isQuoted
    split
    · exact quoted s isQuoted
    · exact base
  · exact base

/-- A relation of nodes to texts that the steps hand on holds of what a document becomes and its flat
text. -/
theorem render_flatText {e : Engine} {P : Node → String → Prop} {root : Span}
    (flat : ∀ s, P (.ofText s) s)
    (text : ∀ enclosing s, P ((e.strategyFor enclosing).text s enclosing) s)
    (lineBreak : ∀ enclosing c children, c.tag = some .lineBreak →
      P ((e.strategyFor enclosing).node c children) "\n")
    (node : ∀ span enclosing children texts, root.Within span → span.tag ≠ some .lineBreak →
      List.Forall₂ P children texts → P ((e.strategyFor enclosing).node
        ⟨span.tag, span.data, span.key, enclosing⟩ children) (String.join texts))
    (limit : Nat) (enclosing : List Tag) {span : Span} (inside : root.Within span) :
    P (e.render limit enclosing span) span.flatText := by
  induction limit generalizing enclosing span with
  | zero => exact flat _
  | succ limit ih =>
      by_cases plain : span.isText
      · rw [render_text plain, Span.flatText_of_isText plain]
        exact text enclosing _
      · rw [render_node plain, span.flatText_eq]
        by_cases isBreak : span.tag = some .lineBreak
        · rw [if_pos isBreak]
          exact lineBreak enclosing _ _ isBreak
        · rw [if_neg isBreak]
          apply node span enclosing _ _ inside isBreak
          unfold content Span.texts
          split
          · rw [List.forall₂_map_left_iff]
            exact List.forall₂_same.mpr fun s _ => text _ s
          · rw [List.forall₂_map_left_iff, List.forall₂_map_right_iff]
            exact List.forall₂_same.mpr fun child below => ih _ (inside.child below)

theorem shows_render {e : Engine} {kind : Tag → Bool}
    (conserves : ∀ enclosing, (e.strategyFor enclosing).Conserves kind) (limit : Nat)
    (enclosing : List Tag) {span : Span} (tags : span.every (·.tag.all kind)) :
    (e.render limit enclosing span).Shows span.flatText := by
  refine render_flatText (P := Node.Shows) shows_ofText ?_ ?_ ?_ limit enclosing .root
  · exact fun enclosing s => (conserves enclosing).text s enclosing
  · exact fun enclosing c children => (conserves enclosing).lineBreak c children
  · intro inner enclosing children texts inside other each
    rw [← innerTexts_of_shows each]
    exact (conserves enclosing).node _ _ other (inside.every tags)

/-! ## The statement -/

theorem plainText_renderIn (span : Span) (enclosing : List Tag) (maxDepth : Nat) :
    (({ strategy := .structural, maxDepth } : Engine).renderIn span enclosing).plainText =
        span.flatText ∧
      (span.every (·.tag.all Tag.isTextual) →
        ∀ (policy : Option QuotePolicy) (quotePolicy : Option (Option QuotePolicy)) (other : Span),
          other.bare = span.bare →
            (({ strategy := .under policy, quoteStrategy := quotePolicy.map .under, maxDepth } :
              Engine).renderIn other enclosing).plainText = span.flatText) ∧
      ∀ other : Span, other.bare = span.bare → other.flatText = span.flatText := by
  have payload (other : Span) (same : other.bare = span.bare) : other.flatText = span.flatText := by
    rw [← Span.flatText_bare, same, Span.flatText_bare]
  refine ⟨?_, ?_, payload⟩
  · let e : Engine := { strategy := .structural, maxDepth }
    have conserves (enclosing : List Tag) : (e.strategyFor enclosing).Conserves fun _ => true :=
      Strategy.conserves_structural
    rw [renderIn_eq]
    exact (shows_render conserves maxDepth enclosing
      (Span.every_of_forall (fun _ => Option.all_true) span)).text
  · intro textual policy quotePolicy other same
    let e : Engine :=
      { strategy := .under policy, quoteStrategy := quotePolicy.map .under, maxDepth }
    have conserves (enclosing : List Tag) : (e.strategyFor enclosing).Conserves Tag.isTextual := by
      refine strategyFor_of (P := (·.Conserves Tag.isTextual)) ?_ ?_ enclosing
      · exact Strategy.conserves_under policy
      · intro s isQuoted
        obtain ⟨rules, -, rfl⟩ := Option.map_eq_some_iff.mp isQuoted
        exact Strategy.conserves_under rules
    have otherTextual : other.every (·.tag.all Tag.isTextual) := by
      rw [← Span.every_tag_bare, same, Span.every_tag_bare]
      exact textual
    rw [renderIn_eq, ← payload other same]
    exact (shows_render conserves maxDepth enclosing otherTextual).text

/-- A mention and a link in strong text, cut before a line break, and with other data. -/
theorem plainText_renderIn_mention :
    let content : List Span := [.withChildren (.ofTag .mention) [.ofText "@a", .ofTag .lineBreak],
      { tag := some (.other "XX"), text := some "b", key := some 3 }]
    let span : Span := .withChildren (.ofTag .strong) content
    let other : Span := .withData span (.object [("val", .bool true)])
    span.every (·.tag.all Tag.isTextual) ∧ other.bare = span.bare ∧
      (({ strategy := .under none, quoteStrategy := some (.under (some { })), maxDepth := 2 } :
        Engine).renderIn other [.quote]).plainText = span.flatText := by
  intro content span other
  have textual : span.every (·.tag.all Tag.isTextual) := by decide
  have same : other.bare = span.bare := rfl
  exact ⟨textual, same, (plainText_renderIn span [.quote] 2).2.1 textual none (some (some { })) other
    same⟩

end Engine

end RichText
