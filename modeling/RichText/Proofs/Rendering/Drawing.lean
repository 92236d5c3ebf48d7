import RichText.Proofs.Rendering.Shape

/-!
# Drawing without nodes

The leaves of a document drawn from its spans in one pass, from the top down. Main statement
(`leaves_render`): they are the leaves of the tree of nodes that rendering builds from the bottom
up.
-/
namespace RichText

/-- Where something is drawn: the style and the number of quotes around it. -/
structure Place where
  style : Style := .empty
  quoteDepth : Nat := 0

namespace Place

def styled (place : Place) (style : Style) : Place :=
  { place with style := place.style.merge style }

def having (place : Place) (p : Style.Property) : Place :=
  { place with style := place.style.insert p }

def having? (place : Place) : Option Style.Property → Place
  | none => place
  | some p => place.having p

def quoted (place : Place) : Place := { place with quoteDepth := place.quoteDepth + 1 }

def attachment (place : Place) (a : Attachment) : List Leaf :=
  [⟨.attachment a, place.style, place.quoteDepth⟩]

def run (place : Place) (s : String) : List Leaf :=
  if s.isEmpty then [] else [⟨.text s, place.style, place.quoteDepth⟩]

/-- A run of text of the document, in the style for quoted text if a policy is in force. -/
def words (place : Place) (policy : Option QuotePolicy) (s : String) : List Leaf :=
  match policy with
  | none => place.run s
  | some rules => (place.styled rules.textStyle).run s

def label (place : Place) (rules : QuotePolicy) (kind : String) (name : Option String) :
    List Leaf :=
  ((place.styled rules.textStyle).having .italic).run <|
    match name with
    | none => "[" ++ kind ++ "]"
    | some name =>
      if name.isEmpty then "[" ++ kind ++ "]" else "[" ++ kind ++ ": " ++ name ++ "]"

end Place

namespace Span

def property? (span : Span) (policy : Option QuotePolicy) : Option Style.Property :=
  match span.tag with
  | none => none
  | some .mention =>
    if policy.all (·.mentionColor) then
      (span.data.bind (·.scalar? "val")).map fun id => .foreground (Palette.mention id)
    else some .bold
  | some .link =>
    if policy.all (·.links) then
      ((span.data.bind (·.text? "url")).bind Strategy.linkTarget?).map .link
    else none
  | some tag => tag.property?

/-- What a rule of the policy leaves: all, a substitute, or nothing. -/
def reduced (policy : Option QuotePolicy) (rule : QuotePolicy → Reduction) (whole : List Leaf)
    (substitute : QuotePolicy → List Leaf) : List Leaf :=
  match policy with
  | none => whole
  | some rules =>
    match rule rules with
    | .keep => whole
    | .placeholder => substitute rules
    | .drop => []

def drawImage (span : Span) (policy : Option QuotePolicy) (place : Place) : List Leaf :=
  reduced policy (·.images)
    (place.attachment { span.data.elim { kind := .image } Attachment.image with key := span.key })
    (place.label · "image" (span.data.bind (·.scalar? "name")))

def drawFile (span : Span) (policy : Option QuotePolicy) (place : Place) : List Leaf :=
  let a : Attachment := { span.data.elim { kind := .empty } Attachment.file with key := span.key }
  if span.data.bind (·.text? "mime") = some Strategy.machineType then []
  else reduced policy (·.files) (place.attachment a)
    (place.label · "file" (if a.kind = .empty then none else a.name))

/-- The leaves of a span, given those of each child at any place. -/
def drawAround (span : Span) (policy : Option QuotePolicy) (content : Place → List (List Leaf))
    (place : Place) : List Leaf :=
  match span.tag with
  | some .lineBreak => place.run "\n"
  | some .image => span.drawImage policy place
  | some .file => span.drawFile policy place
  | some .button =>
    let face := (content place).flatten
    let label := Leaf.textOf face
    reduced policy (·.buttons)
      (match span.data.bind (Action.address? label) with
        | none => face
        | some address => place.attachment { Attachment.button address label with key := span.key })
      fun _ => face
  | some .form => ((content place).intersperse (place.run "\n")).flatten
  | some .quote =>
    reduced policy (·.nestedQuotes)
      (place.attachment { kind := .quote, key := span.key } ++
        ((content place.quoted).flatten ++ place.run "\n"))
      fun _ => (content place).flatten ++ place.run "\n"
  | _ => (content (place.having? (span.property? policy))).flatten

/-- The leaves of a span; `limit` levels of spans are drawn, and what is below them is plain text.
`quoted` says whether a quote is around the span. -/
def draw (options : Options) : Nat → Bool → Place → Span → List Leaf
  | 0, _, place, span => place.run span.flatText
  | limit + 1, quoted, place, span =>
    let within := quoted || span.tag == some .quote
    span.drawAround (options.policyFor quoted)
      (fun place =>
        if span.children.isEmpty then
          span.text.toList.map (place.words (options.policyFor within))
        else span.children.map (draw options limit within place))
      place

end Span

/-! ## Leaves of nodes -/

namespace Node

def drawn (n : Node) (place : Place) : List Leaf := n.leavesIn place.style place.quoteDepth

theorem drawn_text (s : String) (own : Style) (place : Place) :
    (text s own none).drawn place = (place.styled own).run s := by
  rw [drawn, leavesIn]
  rfl

theorem drawn_ofText (s : String) (place : Place) : (ofText s).drawn place = place.run s := by
  rw [ofText, drawn_text, Place.styled, Style.merge_empty]

theorem drawn_container (ns : List Node) (own : Style) (place : Place) :
    (container ns own none).drawn place = (ns.map (·.drawn (place.styled own))).flatten := by
  rw [drawn, leavesIn, leavesOfAll_eq_flatMap, List.flatMap_def]
  rfl

theorem drawn_group (ns : List Node) (place : Place) :
    (group ns).drawn place = (ns.map (·.drawn place)).flatten := by
  rw [group, drawn_container, Place.styled, Style.merge_empty]

theorem drawn_withProperty (ns : List Node) (p : Style.Property) (place : Place) :
    ((group ns).withProperty p).drawn place = (ns.map (·.drawn (place.having p))).flatten := by
  change (container ns (Style.empty.insert p) none).drawn place = _
  rw [drawn_container, Place.styled, Style.merge_insert, Style.merge_empty, Place.having]

theorem drawn_ofAttachment (a : Attachment) (place : Place) :
    (ofAttachment a).drawn place = place.attachment a := by
  change leavesIn _ _ (container [] .empty (some a)) = _
  rw [leavesIn, Style.merge_empty, leavesOfAll]
  split <;> rfl

theorem drawn_hidden (ns : List Node) {a : Attachment} (kind : a.kind ≠ .quote) (place : Place) :
    ((group ns).withAttachment a).drawn place = place.attachment a := by
  change leavesIn _ _ (container ns .empty (some a)) = _
  rw [leavesIn, Style.merge_empty, if_neg kind]
  rfl

theorem drawn_quote (ns : List Node) {a : Attachment} (kind : a.kind = .quote) (place : Place) :
    ((group ns).withAttachment a).drawn place =
      place.attachment a ++ (ns.map (·.drawn place.quoted)).flatten := by
  change leavesIn _ _ (container ns .empty (some a)) = _
  rw [leavesIn, Style.merge_empty, if_pos kind, leavesOfAll_eq_flatMap, List.flatMap_def]
  rfl

theorem plainText_group {ns : List Node} (sound : ∀ n ∈ ns, n.Sound) (place : Place) :
    (group ns).plainText = Leaf.textOf (ns.map (·.drawn place)).flatten := by
  rw [← drawn_group, drawn, textOf_leavesIn (group ns) (sound_container sound).1,
    plainText_eq_innerText rfl]

end Node

open Node

/-! ## Steps -/

namespace Strategy

theorem drawn_underText (policy : Option QuotePolicy) (s : String) (enclosing : List Tag)
    (place : Place) : ((under policy).text s enclosing).drawn place = place.words policy s := by
  rw [underText_eq]
  cases policy with
  | none => exact drawn_ofText s place
  | some rules => exact drawn_text s rules.textStyle place

theorem drawn_placeholder (rules : QuotePolicy) (kind : String) (name : Option String)
    (place : Place) : (placeholder rules kind name).drawn place = place.label rules kind name := by
  change (Node.text _ ((Style.empty.merge rules.textStyle).insert .italic) none).drawn place = _
  rw [drawn_text, Place.styled, Style.empty_merge, Style.merge_insert]
  cases name <;> rfl

theorem drawn_withProperty? (ns : List Node) (p : Option Style.Property) (place : Place) :
    (withProperty? (.group ns) p).drawn place = (ns.map (·.drawn (place.having? p))).flatten := by
  cases p with
  | none => exact drawn_group ns place
  | some p => exact drawn_withProperty ns p place

theorem map_drawn_onLines (ns : List Node) (place : Place) :
    (onLines ns).map (·.drawn place) = (ns.map (·.drawn place)).intersperse (place.run "\n") := by
  unfold onLines
  induction ns with
  | nil => rfl
  | cons first rest ih =>
      cases rest with
      | nil => rfl
      | cons second rest =>
          rw [List.intersperse_cons_cons, List.map_cons, List.map_cons, ih, Node.lineBreak,
            drawn_ofText]
          rfl

variable (span : Span) (enclosing : List Tag) {children : List Node}
  {content : Place → List (List Leaf)}

theorem drawn_imageNode (place : Place) :
    (imageNode ⟨span.tag, span.data, span.key, enclosing⟩).drawn place =
      span.drawImage none place := by
  unfold imageNode
  cases h : span.data with
  | none => rw [drawn_ofAttachment, Span.drawImage, h]; rfl
  | some data => rw [drawn_ofAttachment, Span.drawImage, h]; rfl

theorem drawn_fileNode (place : Place) :
    (fileNode ⟨span.tag, span.data, span.key, enclosing⟩).drawn place =
      span.drawFile none place := by
  rw [fileNode_eq, Span.drawFile]
  split
  · exact drawn_group [] place
  · exact drawn_ofAttachment _ place

/-- A button hides its content, and what it says is the text of the leaves of its content. -/
theorem drawn_buttonNode (sound : ∀ n ∈ children, n.Sound)
    (same : ∀ place, children.map (·.drawn place) = content place) (place : Place) :
    (buttonNode ⟨span.tag, span.data, span.key, enclosing⟩ children).drawn place =
      match span.data.bind (Action.address? (Leaf.textOf (content place).flatten)) with
      | none => (content place).flatten
      | some address => place.attachment
          { Attachment.button address (Leaf.textOf (content place).flatten) with
            key := span.key } := by
  unfold buttonNode
  simp only [plainText_group sound place, same]
  cases span.data.bind (Action.address? (Leaf.textOf (content place).flatten)) with
  | none => simp only [drawn_group, same]
  | some address =>
      refine drawn_hidden children ?_ place
      exact nofun

theorem drawn_quoteNode (same : ∀ place, children.map (·.drawn place) = content place)
    (place : Place) :
    (quoteNode ⟨span.tag, span.data, span.key, enclosing⟩ children).drawn place =
      place.attachment { kind := .quote, key := span.key } ++
        ((content place.quoted).flatten ++ place.run "\n") := by
  have inner := drawn_quote children (a := { kind := .quote, key := span.key }) rfl place
  unfold quoteNode
  simp only [drawn_group, List.map_cons, List.map_nil, List.flatten_cons, List.flatten_nil,
    List.append_nil, Node.lineBreak, drawn_ofText, inner, same, List.append_assoc]

theorem drawn_full (sound : ∀ n ∈ children, n.Sound)
    (same : ∀ place, children.map (·.drawn place) = content place) (place : Place) :
    (full.node ⟨span.tag, span.data, span.key, enclosing⟩ children).drawn place =
      span.drawAround none content place := by
  have plain : (Node.group children).drawn place = (content place).flatten := by
    rw [drawn_group, same]
  have styled : (withProperty? (.group children) (span.property? none)).drawn place =
      (content (place.having? (span.property? none))).flatten := by
    rw [drawn_withProperty?, same]
  have image := drawn_imageNode span enclosing place
  have file := drawn_fileNode span enclosing place
  have button := drawn_buttonNode span enclosing sound same place
  have quote := drawn_quoteNode span enclosing same place
  obtain ⟨tag, data, key, text, spans⟩ := span
  cases tag with
  | none => exact plain
  | some t =>
      cases t with
      | lineBreak => exact drawn_ofText "\n" place
      | strong | emphasis | strikethrough | highlight | code => exact styled
      | mention | link => exact styled
      | image => exact image
      | file => exact file
      | button => exact button
      | form =>
          change (Node.group (onLines children)).drawn place = _
          rw [drawn_group, map_drawn_onLines, same]
          rfl
      | quote => exact quote
      | hashtag | row | other => exact plain

theorem drawn_reduction (r : Reduction) {whole substitute : Node} {leaves others : List Leaf}
    {place : Place} (kept : whole.drawn place = leaves) (replaced : substitute.drawn place = others) :
    (match r with | .keep => whole | .placeholder => substitute | .drop => Node.empty).drawn place =
      match r with | .keep => leaves | .placeholder => others | .drop => [] := by
  cases r with
  | keep => exact kept
  | placeholder => exact replaced
  | drop => exact drawn_group [] place

theorem drawn_reducedFile (rules : QuotePolicy) (place : Place) :
    ((quoted rules).file ⟨span.tag, span.data, span.key, enclosing⟩ children).drawn place =
      span.drawFile (some rules) place := by
  have whole := drawn_fileNode span enclosing place
  rw [quotedFile_eq]
  rw [Span.drawFile] at whole ⊢
  split
  · exact drawn_group [] place
  · rename_i shown
    rw [if_neg shown] at whole
    exact drawn_reduction rules.files whole (drawn_placeholder rules _ _ place)

/-- A policy changes the reduced kinds, mentions and links; all else is drawn in full. -/
theorem drawn_quoted (rules : QuotePolicy) (sound : ∀ n ∈ children, n.Sound)
    (same : ∀ place, children.map (·.drawn place) = content place) (place : Place) :
    ((quoted rules).node ⟨span.tag, span.data, span.key, enclosing⟩ children).drawn place =
      span.drawAround (some rules) content place := by
  have whole := drawn_full span enclosing sound same place
  have file : ((quoted rules).file ⟨span.tag, span.data, span.key, enclosing⟩ children).drawn place =
      span.drawFile (some rules) place := drawn_reducedFile span enclosing rules place
  have plain : (Node.group children).drawn place = (content place).flatten := by
    rw [drawn_group, same]
  have unframed : (Node.group [.group children, .lineBreak]).drawn place =
      (content place).flatten ++ place.run "\n" := by
    simp only [drawn_group, List.map_cons, List.map_nil, List.flatten_cons, List.flatten_nil,
      List.append_nil, Node.lineBreak, drawn_ofText, same]
  obtain ⟨tag, data, key, text, spans⟩ := span
  cases tag with
  | none => exact whole
  | some t =>
      cases t with
      | mention =>
          change (if rules.mentionColor then _ else _ : Node).drawn place =
            (content (place.having? (if rules.mentionColor then _ else _))).flatten
          split
          · exact whole
          · rw [drawn_withProperty, same]
            rfl
      | link =>
          change (if rules.links then _ else _ : Node).drawn place =
            (content (place.having? (if rules.links then _ else _))).flatten
          split
          · exact whole
          · exact plain
      | image => exact drawn_reduction rules.images whole (drawn_placeholder rules _ _ place)
      | file => exact file
      | button => exact drawn_reduction rules.buttons whole plain
      | quote => exact drawn_reduction rules.nestedQuotes whole unframed
      | lineBreak | strong | emphasis | strikethrough | highlight | code | hashtag | form | row
      | other => exact whole

theorem drawn_node (policy : Option QuotePolicy) (sound : ∀ n ∈ children, n.Sound)
    (same : ∀ place, children.map (·.drawn place) = content place) (place : Place) :
    ((under policy).node ⟨span.tag, span.data, span.key, enclosing⟩ children).drawn place =
      span.drawAround policy content place := by
  cases policy with
  | none => exact drawn_full span enclosing sound same place
  | some rules => exact drawn_quoted span enclosing rules sound same place

end Strategy

/-! ## Runs -/

theorem Place.words_empty (place : Place) (policy : Option QuotePolicy) :
    place.words policy "" = [] := by
  cases policy <;> rfl

theorem Span.draw_text {span : Span} (isText : span.isText) (options : Options) (limit : Nat)
    (quoted : Bool) (place : Place) :
    span.draw options (limit + 1) quoted place =
      place.words (options.policyFor quoted) (span.text.getD "") := by
  obtain ⟨tag, data, key, text, children⟩ := span
  simp only [Span.isText, Bool.and_eq_true, Option.isNone_iff_eq_none, List.isEmpty_iff] at isText
  obtain ⟨rfl, rfl⟩ := isText
  have within : (quoted || (none : Option Tag) == some .quote) = quoted := Bool.or_false quoted
  rw [Span.draw]
  simp only [within, List.isEmpty_nil, if_true]
  cases text with
  | none => exact (place.words_empty _).symm
  | some s => exact List.append_nil _

theorem Document.drawn_render (options : Options) (limit : Nat) (enclosing : List Tag)
    (span : Span) (place : Place) :
    ((Document.engine options).render limit enclosing span).drawn place =
      span.draw options limit (enclosing.contains .quote) place := by
  induction limit generalizing enclosing span place with
  | zero => rw [Engine.render, Span.draw, drawn_ofText]
  | succ limit ih =>
      by_cases plain : span.isText
      · rw [Engine.render_text plain, strategyFor_engine, Strategy.drawn_underText,
          Span.draw_text plain]
      · rw [Engine.render_node plain, strategyFor_engine, Span.draw]
        apply Strategy.drawn_node _ _ _ (sound_content options limit _ span)
        intro place
        rw [← Span.contains_quote_inside]
        unfold Engine.content
        split
        · rw [List.map_map, strategyFor_engine]
          exact List.map_congr_left fun s _ => Strategy.drawn_underText _ s _ place
        · rw [List.map_map]
          exact List.map_congr_left fun child _ => ih _ child place

/-! ## The statement -/

theorem Document.leaves_render (span : Span) (options : Options) :
    (Document.render span options).leaves = span.draw options options.maxDepth false { } := by
  rw [Document.render_eq]
  exact Document.drawn_render options options.maxDepth [] span { }

end RichText
