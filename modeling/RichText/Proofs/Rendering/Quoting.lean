import RichText.Proofs.Rendering.Steps

/-!
# Rendering of quoted content

Main statement (`render_keepAll`): under the policy that keeps everything, quoted content is rendered
as without any policy, to the same tree of nodes.
-/
namespace RichText

/-- Two engines render alike at two places if they make the same of every text and every span there.
How the places are related has to stay so when the same tags are around both. -/
theorem Engine.render_congr_related {e e' : Engine} {R : List Tag → List Tag → Prop}
    (stays : ∀ enclosing enclosing' tags, R enclosing enclosing' →
      R (enclosing ++ tags) (enclosing' ++ tags))
    (text : ∀ enclosing enclosing' s, R enclosing enclosing' →
      (e.strategyFor enclosing).text s enclosing = (e'.strategyFor enclosing').text s enclosing')
    (node : ∀ enclosing enclosing' tag data key children, R enclosing enclosing' →
      (e.strategyFor enclosing).node ⟨tag, data, key, enclosing⟩ children =
        (e'.strategyFor enclosing').node ⟨tag, data, key, enclosing'⟩ children)
    (limit : Nat) {enclosing enclosing' : List Tag} (related : R enclosing enclosing') (span : Span) :
    e.render limit enclosing span = e'.render limit enclosing' span := by
  induction limit generalizing enclosing enclosing' span with
  | zero => rfl
  | succ limit ih =>
      have inner := stays enclosing enclosing' span.tag.toList related
      by_cases plain : span.isText
      · rw [Engine.render_text plain, Engine.render_text plain, text _ _ _ related]
      · have content : e.content limit (enclosing ++ span.tag.toList) span =
            e'.content limit (enclosing' ++ span.tag.toList) span := by
          unfold Engine.content
          split
          · exact List.map_congr_left fun s _ => text _ _ s inner
          · exact List.map_congr_left fun child _ => ih inner child
        rw [Engine.render_node plain, Engine.render_node plain, content, node _ _ _ _ _ _ related]

/-- Two engines that follow the same strategies from some place on render alike there. What they
agree at has to stay so when more tags are around. -/
theorem Engine.render_congr_inside {e e' : Engine} {P : List Tag → Prop}
    (stays : ∀ enclosing tags, P enclosing → P (enclosing ++ tags))
    (same : ∀ enclosing, P enclosing → e.strategyFor enclosing = e'.strategyFor enclosing)
    (limit : Nat) {enclosing : List Tag} (holds : P enclosing) (span : Span) :
    e.render limit enclosing span = e'.render limit enclosing span := by
  refine Engine.render_congr_related
    (R := fun enclosing enclosing' => enclosing = enclosing' ∧ P enclosing) ?_ ?_ ?_ limit
    ⟨rfl, holds⟩ span
  · rintro enclosing _ tags ⟨rfl, holds⟩
    exact ⟨rfl, stays enclosing tags holds⟩
  · rintro enclosing _ s ⟨rfl, holds⟩
    rw [same enclosing holds]
  · rintro enclosing _ tag data key children ⟨rfl, holds⟩
    rw [same enclosing holds]

theorem Engine.render_congr {e e' : Engine}
    (same : ∀ enclosing, e.strategyFor enclosing = e'.strategyFor enclosing)
    (limit : Nat) (enclosing : List Tag) (span : Span) :
    e.render limit enclosing span = e'.render limit enclosing span :=
  Engine.render_congr_inside (P := fun _ => True) (fun _ _ holds => holds) (fun _ _ => same _) limit
    trivial span

theorem Strategy.quoted_keepAll : quoted .keepAll = full := by
  have text : (quoted .keepAll).text = full.text := by
    funext s enclosing
    change Node.text s (Style.empty.merge .empty) none = _
    rw [Style.merge_empty]
    rfl
  have file : (quoted .keepAll).file = full.file := by
    funext c children
    rw [quotedFile_eq]
    split
    case isTrue machine =>
      change Node.empty = fileNode c
      rw [fileNode_eq, if_pos machine]
    case isFalse => rfl
  -- All other handlers hand on to the full strategy as they stand.
  calc quoted .keepAll
      = { full with text := (quoted .keepAll).text, file := (quoted .keepAll).file } := rfl
    _ = full := by rw [text, file]

theorem Engine.strategyFor_same (strategy : Strategy) (maxDepth : Nat) (enclosing : List Tag) :
    ({ strategy, quoteStrategy := some strategy, maxDepth } : Engine).strategyFor enclosing =
      ({ strategy, maxDepth } : Engine).strategyFor enclosing := by
  change (if enclosing.contains .quote then strategy else strategy) = strategy
  exact ite_self strategy

/-- A quote strategy that is the strategy itself changes nothing. -/
theorem Engine.renderIn_same (strategy : Strategy) (maxDepth : Nat) (span : Span)
    (enclosing : List Tag) :
    ({ strategy, quoteStrategy := some strategy, maxDepth } : Engine).renderIn span enclosing =
      ({ strategy, maxDepth } : Engine).renderIn span enclosing := by
  rw [Engine.renderIn_eq, Engine.renderIn_eq]
  exact Engine.render_congr (Engine.strategyFor_same strategy maxDepth) _ _ _

/-! ## The statement -/

theorem Document.render_keepAll (span : Span) (enclosing : List Tag) (maxDepth : Nat) :
    ({ strategy := .full, quoteStrategy := some (.quoted .keepAll), maxDepth } : Engine).renderIn
        span enclosing =
      ({ strategy := .full, maxDepth } : Engine).renderIn span enclosing ∧
    Document.render span { quotePolicy := some .keepAll, maxDepth } =
      Document.render span { quotePolicy := none, maxDepth } := by
  have everywhere (enclosing : List Tag) :
      ({ strategy := .full, quoteStrategy := some (.quoted .keepAll), maxDepth } : Engine).renderIn
          span enclosing =
        ({ strategy := .full, maxDepth } : Engine).renderIn span enclosing := by
    rw [Strategy.quoted_keepAll]
    exact Engine.renderIn_same .full maxDepth span enclosing
  exact ⟨everywhere enclosing, everywhere []⟩

end RichText
