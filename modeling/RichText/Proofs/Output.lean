import RichText.Proofs.CommandLine
import RichText.Proofs.Rendering.Reduction
import RichText.Proofs.Style.Text
import RichText.Proofs.Text.Quoted

/-!
# What the output tells

Main statement (`run_determines`): two documents of texts and quotes have the same output only if
their leaves are the same, up to the keys of the quotes, which are not printed. A line is taken apart
from the left: the marks of the quotes around the leaf, its text up to the closing quotes, and the
style up to the bracket at the end.
-/
namespace RichText

namespace Leaf

def isTextOrQuote (leaf : Leaf) : Bool :=
  match leaf.content with
  | .text _ => true
  | .attachment a => a.kind = .quote

def Content.unkeyed : Content → Content
  | text s => text s
  | attachment a => attachment (a.withKey none)

def unkeyed (leaf : Leaf) : Leaf := { leaf with content := leaf.content.unkeyed }

/-- A text, or a quote as documents have them, with nothing but a key. -/
inductive Content.Plain : Content → Prop
  | text (s : String) : Plain (text s)
  | quote (key : Option UInt64) : Plain (attachment { kind := .quote, key })

theorem not_broken {leaf : Leaf} (plain : leaf.content.Plain) : ¬ leaf.Broken := by
  obtain ⟨content, style, quoteDepth⟩ := leaf
  cases plain <;> exact nofun

end Leaf

theorem Document.plain_render {root : Span} {options : Options} {leaf : Leaf}
    (member : leaf ∈ (render root options).leaves) (only : leaf.isTextOrQuote) :
    leaf.content.Plain := by
  unfold Leaf.isTextOrQuote at only
  cases has : leaf.content with
  | text s => exact .text s
  | attachment a =>
      rw [has] at only
      have kind : a.kind = .quote := of_decide_eq_true only
      obtain ⟨n, inside, attached⟩ := Node.attachment_of_leaf member has
      rw [render_eq] at inside
      have suits := ((sound_render options _ [] root).1 n inside).suits a attached
      rw [Attachment.Suits, kind] at suits
      rw [suits.2]
      exact .quote a.key

namespace CommandLine

/-! ## Lines -/

theorem toList_indent_succ (n : Nat) :
    (indent (n + 1)).toList = '>' :: ' ' :: (indent n).toList := by
  rw [indent, List.replicate_succ, String.join_cons, String.toList_append, indent]
  rfl

theorem indent_append_inj {m n : Nat} {xs ys : List Char} (start : xs.head? ≠ some '>')
    (start' : ys.head? ≠ some '>')
    (same : (indent m).toList ++ xs = (indent n).toList ++ ys) : m = n ∧ xs = ys := by
  induction m generalizing n with
  | zero =>
      cases n with
      | zero => exact ⟨rfl, same⟩
      | succ n =>
          rw [toList_indent_succ] at same
          change xs = _ at same
          rw [same] at start
          exact absurd rfl start
  | succ m ih =>
      cases n with
      | zero =>
          rw [toList_indent_succ] at same
          change _ = ys at same
          rw [← same] at start'
          exact absurd rfl start'
      | succ n =>
          rw [toList_indent_succ, toList_indent_succ] at same
          obtain ⟨rfl, rests⟩ := ih (List.cons.inj (List.cons.inj same).2).2
          exact ⟨rfl, rests⟩

theorem toList_describe_text (s : String) :
    (describe (.text s)).toList = '"' :: (Text.Quoted.encode s.toList ++ ['"']) := by
  rw [describe, Text.Quoted.quote, String.toList_ofList]

theorem toList_describe_quote (key : Option UInt64) :
    (describe (.attachment { kind := .quote, key })).toList = '<' :: "Quote ->".toList := by
  change "<Quote ->".toList = _
  decide

theorem describe_append_inj {content content' : Leaf.Content} (plain : content.Plain)
    (plain' : content'.Plain) {rest rest' : List Char}
    (same : (describe content).toList ++ rest = (describe content').toList ++ rest') :
    content.unkeyed = content'.unkeyed ∧ rest = rest' := by
  cases plain with
  | text s =>
      rw [toList_describe_text] at same
      cases plain' with
      | text s' =>
          rw [toList_describe_text, List.cons_append, List.cons_append, List.append_assoc,
            List.append_assoc] at same
          -- Reading stops at the closing quotes, so what follows them is the same too.
          have read := congrArg (Text.Quoted.readFrom none) (List.cons.inj same).2
          rw [List.singleton_append, List.singleton_append, Text.Quoted.readFrom_encode,
            Text.Quoted.readFrom_encode] at read
          obtain ⟨texts, rests⟩ := Prod.mk.inj (Option.some.inj read)
          rw [String.toList_inj.mp texts]
          exact ⟨rfl, rests⟩
      | quote key =>
          rw [toList_describe_quote] at same
          cases (List.cons.inj same).1
  | quote key =>
      rw [toList_describe_quote] at same
      cases plain' with
      | text s' =>
          rw [toList_describe_text] at same
          cases (List.cons.inj same).1
      | quote key' =>
          rw [toList_describe_quote] at same
          exact ⟨rfl, List.append_cancel_left same⟩

theorem head?_describe {content : Leaf.Content} (plain : content.Plain) (rest : List Char) :
    ((describe content).toList ++ rest).head? ≠ some '>' := by
  cases plain with
  | text s =>
      rw [toList_describe_text]
      exact nofun
  | quote key =>
      rw [toList_describe_quote]
      exact nofun

theorem toList_line (leaf : Leaf) :
    (line leaf).toList = (indent leaf.quoteDepth).toList ++
      ((describe leaf.content).toList ++ (" [".toList ++ (leaf.style.text.toList ++ [']']))) := by
  simp only [line, String.toList_append, List.append_assoc]
  rfl

theorem unkeyed_of_line {leaf other : Leaf} (plain : leaf.content.Plain)
    (plain' : other.content.Plain) (same : line leaf = line other) :
    leaf.unkeyed = other.unkeyed := by
  have lists := congrArg String.toList same
  rw [toList_line, toList_line] at lists
  obtain ⟨depths, rest⟩ :=
    indent_append_inj (head?_describe plain _) (head?_describe plain' _) lists
  obtain ⟨contents, rest⟩ := describe_append_inj plain plain' rest
  have texts := List.append_cancel_right (List.append_cancel_left rest)
  have styles := Style.eq_of_text (String.toList_inj.mp texts)
  rw [Leaf.unkeyed, Leaf.unkeyed, depths, contents, styles]

theorem line_unkeyed (leaf : Leaf) : line leaf.unkeyed = line leaf := by
  obtain ⟨content, style, quoteDepth⟩ := leaf
  cases content <;> rfl

/-! ## Outputs -/

def leaves? (input : List UInt8) : Option (List Leaf) := do
  let text ← Text.ofUtf8? input
  let n ← (Document.renderJson (String.ofList text)).toOption
  return n.leaves

theorem map_line_eq_iff {xs ys : List Leaf} (plain : ∀ leaf ∈ xs, leaf.content.Plain)
    (plain' : ∀ leaf ∈ ys, leaf.content.Plain) :
    xs.map line = ys.map line ↔ xs.map Leaf.unkeyed = ys.map Leaf.unkeyed := by
  constructor
  · intro same
    induction xs generalizing ys with
    | nil =>
        cases ys with
        | nil => rfl
        | cons y ys => cases same
    | cons x xs ih =>
        cases ys with
        | nil => cases same
        | cons y ys =>
            obtain ⟨first, others⟩ := List.forall_mem_cons.mp plain
            obtain ⟨first', others'⟩ := List.forall_mem_cons.mp plain'
            obtain ⟨one, more⟩ := List.cons.inj same
            rw [List.map_cons, List.map_cons, unkeyed_of_line first first' one,
              ih others others' more]
  · intro same
    have lines (leaves : List Leaf) : leaves.map line = (leaves.map Leaf.unkeyed).map line := by
      rw [List.map_map]
      exact List.map_congr_left fun leaf _ => (line_unkeyed leaf).symm
    rw [lines xs, same, ← lines]

theorem join_lines_inj {texts texts' : List String} (clean : ∀ s ∈ texts, '\n' ∉ s.toList)
    (clean' : ∀ s ∈ texts', '\n' ∉ s.toList) :
    String.join (texts.map (· ++ "\n")) = String.join (texts'.map (· ++ "\n")) ↔
      texts = texts' := by
  refine ⟨fun same => ?_, fun same => by rw [same]⟩
  have lines := congrArg linesOf same
  rw [linesOf_join, linesOf_join, flatMap_linesOf_eq_self.mpr clean,
    flatMap_linesOf_eq_self.mpr clean'] at lines
  exact List.append_cancel_right lines

theorem leaves_of_succeeds {input : List UInt8} (succeeds : (run input).exitCode = 0) :
    ∃ leaves, leaves? input = some leaves ∧
      (run input).output = String.join ((leaves.map line).map (· ++ "\n")) ∧
      (leaves.all Leaf.isTextOrQuote →
        (∀ leaf ∈ leaves, leaf.content.Plain) ∧ ∀ l ∈ leaves.map line, '\n' ∉ l.toList) := by
  obtain ⟨text, root, read, parsed, printed⟩ := output_of_succeeds succeeds
  refine ⟨(Document.render root).leaves, ?_, ?_, fun only => ?_⟩
  · simp [leaves?, read, Document.renderJson, parsed, Except.map, Except.toOption]
  · rw [printed, print, List.map_map]
    rfl
  · have plain : ∀ leaf ∈ (Document.render root).leaves, leaf.content.Plain :=
      fun leaf member => Document.plain_render member (List.all_eq_true.mp only leaf member)
    have unlinked : ∀ rules ∈ ({} : Options).quotePolicy, rules.textStyle.link = none := by
      rintro rules ⟨⟩
      rfl
    refine ⟨plain, List.forall_mem_map.mpr fun leaf member => ?_⟩
    rw [newline_mem_line (Document.sourced_render root unlinked leaf member).style]
    exact Leaf.not_broken (plain leaf member)

/-! ## The statement -/

theorem run_determines (input other : List UInt8) (succeeds : (run input).exitCode = 0)
    (succeeds' : (run other).exitCode = 0) :
    (∃ xs ys, leaves? input = some xs ∧ leaves? other = some ys ∧
      (xs.all Leaf.isTextOrQuote → ys.all Leaf.isTextOrQuote →
        ((run input).output = (run other).output ↔
          xs.map Leaf.unkeyed = ys.map Leaf.unkeyed))) ∧
      ∀ s, '\n' ∉ (Text.Quoted.quote s).toList ∧
        Text.Quoted.unquote? (Text.Quoted.quote s) = some s := by
  refine ⟨?_, fun s => ⟨Text.newline_not_mem_quote s, Text.Quoted.unquote?_quote s⟩⟩
  obtain ⟨xs, given, printed, clean⟩ := leaves_of_succeeds succeeds
  obtain ⟨ys, given', printed', clean'⟩ := leaves_of_succeeds succeeds'
  refine ⟨xs, ys, given, given', fun only only' => ?_⟩
  obtain ⟨plain, unbroken⟩ := clean only
  obtain ⟨plain', unbroken'⟩ := clean' only'
  rw [printed, printed', join_lines_inj unbroken unbroken', map_line_eq_iff plain plain']

theorem run_determines_quote :
    let input := "\x7b\"tp\":\"QQ\",\"key\":1,\"text\":\"\\n\"\x7d".toUTF8.toList
    let other := "\x7b\"tp\":\"QQ\",\"key\":2,\"text\":\"\\n\"\x7d".toUTF8.toList
    (run input).exitCode = 0 ∧ (run other).exitCode = 0 ∧
      ∃ xs ys, leaves? input = some xs ∧ leaves? other = some ys ∧
        xs.map Leaf.unkeyed = ys.map Leaf.unkeyed := by
  intro input other
  have succeeds : (run input).exitCode = 0 := by decide +kernel
  have succeeds' : (run other).exitCode = 0 := by decide +kernel
  have only : (leaves? input).all (·.all Leaf.isTextOrQuote) := by decide +kernel
  have only' : (leaves? other).all (·.all Leaf.isTextOrQuote) := by decide +kernel
  have same : (run input).output = (run other).output := by decide +kernel
  obtain ⟨⟨xs, ys, given, given', told⟩, -⟩ := run_determines input other succeeds succeeds'
  rw [given] at only
  rw [given'] at only'
  exact ⟨succeeds, succeeds', xs, ys, given, given', (told only only').mp same⟩

end CommandLine

end RichText
