import Literate.Proofs.Assembly.Ending
import Literate.Proofs.Buffer.Clamp

/-! Segments and comments that name positions no text reaches. As long as none of them runs backward,
and no two of their ends lie past the end of one line, the buffer is read from front to back: the text
of the listings is found in it in order, and no character is taken twice. -/

namespace Literate

/-- Wherever it starts, a step forward in front of the end leads to a position of the buffer. -/
theorem Buffer.holds_advance {lines : Buffer} {p : Position} (hne : lines ≠ []) (hp : p.Natural) :
    lines.Holds (lines.advance lines.last p) := by
  rw [advance_eq_following]
  split
  · exact holds_last hne
  · next hin =>
    push Not at hin
    obtain ⟨hin, -⟩ := hin
    unfold following at hin ⊢
    rw [if_neg hp.1.not_gt] at hin ⊢
    cases hline : lines[p.line.toNat]? with
    | none =>
      have hpast := List.getElem?_eq_none_iff.mp hline
      have hrow := hp.1
      rw [hline] at hin
      simp only at hin
      omega
    | some line =>
      have hget : lines.getD p.line.toNat [] = line := by simp [hline]
      rw [hline] at hin
      simp only at hin ⊢
      split at hin
      · next hend =>
        rw [if_pos hend]
        exact ⟨by simp only; have := hp.1; omega, hin, le_rfl, by simp⟩
      · next hend =>
        rw [if_neg hend]
        exact ⟨hp.1, hin, by simp only; have := hp.2; omega, by simp only [hget]; omega⟩

namespace Assembly

/-- What is still to come: the ends of all spans are among `ps`, of which no two lie past the end of one
line, segments have a length, and no comment leads back in the text. -/
structure Forward (lines : Buffer) (ps : List Position) (xs : List Segment) (cs : List Comment) :
    Prop where
  natural : ∀ p ∈ ps, p.Natural
  near : ∀ p ∈ ps, ∀ q ∈ ps, p < q → ¬ lines.Astray ⟨p, q⟩
  segment : ∀ x ∈ xs, x.span.start ∈ ps ∧ x.span.stop ∈ ps ∧ x.span.start < x.span.stop
  comment : ∀ c ∈ cs, c.span.start ∈ ps ∧ c.span.stop ∈ ps ∧
    lines.clamp c.span.start ≤ lines.clamp c.span.stop

/-- What is taken so far stands in front of the cursor. -/
structure Reading (lines : Buffer) (ps : List Position) (s : Assembly) : Prop where
  ahead : Forward lines ps s.segments s.comments
  cursor : s.cursor ∈ ps ∨ lines.Holds s.cursor
  text : (s.built.items.flatMap Item.code).Sublist
    (lines.slice ⟨⟨0, 0⟩, lines.clamp s.cursor⟩)

section

variable {lines : Buffer} {ps : List Position} {xs ys : List Segment} {cs ds : List Comment}
  {s t : Assembly}

theorem Forward.mono (h : Forward lines ps xs cs) (hx : ys ⊆ xs) (hc : ds ⊆ cs) :
    Forward lines ps ys ds where
  natural := h.natural
  near := h.near
  segment := fun x hm => h.segment x (hx hm)
  comment := fun c hm => h.comment c (hc hm)

theorem Reading.natural (h : Reading lines ps s) : s.cursor.Natural := by
  rcases h.cursor with hc | hc
  · exact h.ahead.natural _ hc
  · exact hc.natural

theorem Reading.holds (hne : lines ≠ []) (h : Reading lines ps s) :
    lines.Holds (lines.clamp s.cursor) :=
  Buffer.holds_clamp hne h.natural

/-- The text read goes on up to where the cursor goes. -/
theorem Reading.extend (hne : lines ≠ []) (h : Reading lines ps s) {p : Position} {u : List Char}
    (hp : p.Natural) (hle : lines.clamp s.cursor ≤ lines.clamp p)
    (hu : u.Sublist (lines.slice ⟨lines.clamp s.cursor, lines.clamp p⟩)) :
    (s.built.items.flatMap Item.code ++ u).Sublist (lines.slice ⟨⟨0, 0⟩, lines.clamp p⟩) := by
  have hcur := h.holds hne
  rw [← Buffer.slice_append (Buffer.holds_zero hne) hcur (Buffer.holds_clamp hne hp) hcur.zero_le hle]
  exact h.text.append hu

theorem Reading.skip (hne : lines ≠ []) (h : Reading lines ps s) {p : Position} (hp : p.Natural)
    (hle : lines.clamp s.cursor ≤ lines.clamp p) :
    (s.built.items.flatMap Item.code).Sublist (lines.slice ⟨⟨0, 0⟩, lines.clamp p⟩) := by
  have grown := h.extend hne hp hle (List.nil_sublist _)
  rwa [List.append_nil] at grown

/-- A gap goes up to the end, or to an end of a span. -/
theorem Reading.gapEnd (h : Reading lines ps s) :
    s.gapEnd lines.last = lines.last ∨ s.gapEnd lines.last ∈ ps := by
  rcases gapEnd_eq lines.last s with k | k | k
  · exact .inl k
  · obtain ⟨x, ys, hs, hx⟩ := nextSegment_eq_some.mp k
    exact .inr (hx ▸ (h.ahead.segment x (by simp [hs])).1)
  · obtain ⟨c, ds, hs, hc⟩ := nextComment_eq_some.mp k
    exact .inr (hc ▸ (h.ahead.comment c (by simp [hs])).1)

theorem Reading.gap_near (hne : lines ≠ []) (h : Reading lines ps s)
    (hlt : s.cursor < s.gapEnd lines.last) :
    ¬ lines.Astray ⟨s.cursor, s.gapEnd lines.last⟩ := by
  intro ha
  have past := ha.past
  rcases h.cursor with hc | hc
  · rcases h.gapEnd with k | k
    · -- nothing on the last line is both past its end and in front of the end
      have line := ha.line
      rw [k, Buffer.last_eq hne] at hlt line
      have hline : s.cursor.line.toNat = lines.length - 1 := by
        simp only at line
        omega
      simp only [hline] at past
      rcases hlt with hlt | ⟨-, hlt⟩
      · simp only at line hlt
        omega
      · exact absurd hlt past.not_gt
    · exact h.ahead.near _ hc _ k hlt ha
  · exact absurd hc.column_le past.not_ge

theorem Reading.fillGap (hne : lines ≠ []) (h : Reading lines ps s) :
    Reading lines ps (s.fillGap lines lines.last) := by
  have hlast := Buffer.holds_last hne
  have hend : s.gapEnd lines.last ∈ ps ∨ lines.Holds (s.gapEnd lines.last) := by
    rcases h.gapEnd with k | k
    · rw [k]
      exact .inr hlast
    · exact .inl k
  have natural : (s.gapEnd lines.last).Natural := by
    rcases hend with k | k
    · exact h.ahead.natural _ k
    · exact k.natural
  unfold Assembly.fillGap
  simp only
  split
  · next hlt =>
    have hle := Buffer.clamp_mono hne h.natural hlt.le
    refine ⟨h.ahead, hend, ?_⟩
    simp only
    split
    · exact h.skip hne natural hle
    · rw [Builder.items_addRun, List.flatMap_append]
      apply h.extend hne natural hle
      have found := Buffer.slice_prefix_clamp hne h.natural natural hlt.le (h.gap_near hne hlt)
      have part := gapText_infix s.built.isOpen (s.nextComment = some (s.gapEnd lines.last))
        (lines.slice ⟨s.cursor, s.gapEnd lines.last⟩)
      simpa [Item.code, Run.content] using part.sublist.trans found.sublist
  · exact h

theorem Reading.takeComment (hne : lines ≠ []) (h : Reading lines ps s) {c : Comment}
    (hs : s.comments = c :: ds) (hat : c.span.start = s.cursor) :
    Reading lines ps (s.takeComment c ds) := by
  obtain ⟨-, hstop, hle⟩ := h.ahead.comment c (by simp [hs])
  rw [hat] at hle
  refine ⟨h.ahead.mono (List.dropWhile_suffix _).subset (by simp [Assembly.takeComment, hs]),
    .inl hstop, ?_⟩
  have same : (s.takeComment c ds).built.items.flatMap Item.code =
      s.built.items.flatMap Item.code := by
    rw [Assembly.takeComment, Builder.items_addProse, List.flatMap_append]
    simp [Item.code]
  rw [same]
  exact h.skip hne (h.ahead.natural _ hstop) hle

theorem Reading.takeSegment (hne : lines ≠ []) (h : Reading lines ps s) {x : Segment}
    (hs : s.segments = x :: ys) (hat : x.span.start = s.cursor) :
    Reading lines ps (s.takeSegment lines x ys) := by
  obtain ⟨hstart, hstop, hlt⟩ := h.ahead.segment x (by simp [hs])
  have near := h.ahead.near _ hstart _ hstop hlt
  have hle := Buffer.clamp_mono hne (h.ahead.natural _ hstart) hlt.le
  have found := Buffer.slice_prefix_clamp hne (h.ahead.natural _ hstart)
    (h.ahead.natural _ hstop) hlt.le near
  refine ⟨h.ahead.mono (by simp [Assembly.takeSegment, hs]) (List.Subset.refl _), .inl hstop, ?_⟩
  rw [Assembly.takeSegment, Builder.items_addRun, List.flatMap_append]
  rw [hat] at hle found
  apply h.extend hne (h.ahead.natural _ hstop) hle
  have spelled : x.span = ⟨s.cursor, x.span.stop⟩ := Span.ext_iff'.mpr ⟨hat, rfl⟩
  simp only [List.flatMap_singleton, Item.code, Run.content, Buffer.extract, String.toList_ofList]
  rw [spelled]
  exact found.sublist

theorem Reading.forceAdvance (hne : lines ≠ []) (h : Reading lines ps s)
    (hlt : s.cursor < lines.last) : Reading lines ps (s.forceAdvance lines lines.last) := by
  have next := Buffer.holds_advance hne h.natural
  have ahead : s.cursor < lines.advance lines.last s.cursor := (Buffer.lt_advance hlt).1
  have hle := Buffer.clamp_mono hne h.natural ahead.le
  exact ⟨h.ahead, .inr next, h.skip hne next.natural hle⟩

theorem Reading.step (hne : lines ≠ []) (h : Reading lines ps s) :
    Reading lines ps (s.step lines lines.last).state := by
  have hg := h.fillGap hne
  rw [step_eq]
  rcases takeEvent_cases lines lines.last (s.fillGap lines lines.last) with
    ⟨c, ds, hs, hat, he⟩ | ⟨-, x, ys, hs, hat, he⟩ | ⟨-, -, -, he⟩ | ⟨-, -, hlt, he⟩
  · rw [he]
    exact hg.takeComment hne hs hat
  · rw [he]
    exact hg.takeSegment hne hs hat
  · rw [he]
    exact hg
  · rw [he]
    exact hg.forceAdvance hne hlt

theorem Reading.run (hne : lines ≠ []) (h : Reading lines ps s) (n : Nat) :
    Reading lines ps (s.run lines lines.last n) :=
  run_invariant (fun _ ht => ht.step hne) n h

end

end Assembly

/-- The listings are read off the buffer from front to back. -/
theorem Assembly.Forward.listing_sublist {lines : Buffer} {ps : List Position} {xs : List Segment}
    {cs : List Comment} (hne : lines ≠ []) (h : Assembly.Forward lines ps xs cs) :
    (listing (assemble lines xs cs).1).Sublist lines.whole := by
  have hzero := Buffer.holds_zero hne
  have start : Assembly.Reading lines ps { segments := xs, comments := cs } :=
    ⟨h, .inr hzero, List.nil_sublist _⟩
  have final := start.run hne (Assembly.enough lines { segments := xs, comments := cs })
  have holds := final.holds hne
  rw [listing_eq, assemble, assembleUpTo]
  simp only [Builder.items_close]
  refine final.text.trans ?_
  rw [Buffer.slice_eq_between hzero holds holds.zero_le, Text.between]
  exact (List.drop_sublist _ _).trans (List.take_sublist _ _)

end Literate
