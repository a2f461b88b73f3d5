import Literate.Proofs.Buffer.Clamp

/-! What a span takes out of a buffer. Between two positions of the buffer that come in order it is a
slice of the source, from the offset of the one to the offset of the other. A span that does not run
forward takes nothing, unless its columns lie outside their line: moved to the ends of the line, as
columns outside always are, they can come to run forward. -/

namespace Literate.Buffer

/-! Spans that run forward inside the buffer. -/

section

variable {lines : Buffer} {p q r : Position}

theorem extract_eq_between (hp : lines.Holds p) (hq : lines.Holds q) (h : p ≤ q) :
    lines.extract ⟨p, q⟩ =
      String.ofList (Text.between lines.whole (lines.offset p) (lines.offset q)) := by
  rw [extract, slice_eq_between hp hq h]

theorem extract_append (hp : lines.Holds p) (hq : lines.Holds q) (hr : lines.Holds r) (hpq : p ≤ q)
    (hqr : q ≤ r) : lines.extract ⟨p, q⟩ ++ lines.extract ⟨q, r⟩ = lines.extract ⟨p, r⟩ := by
  rw [extract, extract, extract, ← slice_append hp hq hr hpq hqr, String.ofList_append]

theorem extract_all (h : lines ≠ []) :
    lines.extract ⟨⟨0, 0⟩, lines.last⟩ = String.ofList lines.whole := by
  have first := holds_zero h
  have last := holds_last h
  rw [extract_eq_between first last last.zero_le, offset_zero, offset_last h, Text.between_all]

end

/-- The text between two positions of a source is the slice of the source between their offsets. So the
texts of adjacent spans add up, the span from the first position to the last has the whole source, and
offsets are in the order of positions. -/
theorem extract_ofText (source : String) :
    (∀ p q, (ofText source).Holds p → (ofText source).Holds q → p ≤ q →
      (ofText source).extract ⟨p, q⟩ = String.ofList
        (Text.between source.toList ((ofText source).offset p) ((ofText source).offset q))) ∧
    (∀ p q r, (ofText source).Holds p → (ofText source).Holds q → (ofText source).Holds r →
      p ≤ q → q ≤ r →
      (ofText source).extract ⟨p, q⟩ ++ (ofText source).extract ⟨q, r⟩ =
        (ofText source).extract ⟨p, r⟩) ∧
    (ofText source).extract ⟨⟨0, 0⟩, (ofText source).last⟩ = source ∧
    ∀ p q, (ofText source).Holds p → (ofText source).Holds q →
      ((ofText source).offset p < (ofText source).offset q ↔ p < q) := by
  refine ⟨?_, ?_, ?_, ?_⟩
  · intro p q hp hq h
    rw [extract_eq_between hp hq h, whole_ofText]
  · intro p q r hp hq hr hpq hqr
    exact extract_append hp hq hr hpq hqr
  · rw [extract_all (ofText_ne_nil source), whole_ofText, String.ofList_toList]
  · intro p q hp hq
    exact offset_lt_iff hp hq

/-- From the end of a line, over an empty one, into the next. -/
theorem extract_ofText_empty_line :
    (ofText "né\n\nab\n").Holds ⟨0, 2⟩ ∧ (ofText "né\n\nab\n").Holds ⟨2, 1⟩ ∧
      (ofText "né\n\nab\n").offset ⟨0, 2⟩ = 2 ∧ (ofText "né\n\nab\n").offset ⟨2, 1⟩ = 5 ∧
      (ofText "né\n\nab\n").extract ⟨⟨0, 2⟩, ⟨2, 1⟩⟩ =
        String.ofList (Text.between "né\n\nab\n".toList 2 5) :=
  ⟨by decide, by decide, by decide, by decide,
    (extract_ofText "né\n\nab\n").1 ⟨0, 2⟩ ⟨2, 1⟩ (by decide) (by decide) (by decide)⟩

/-! Spans that do not run forward. -/

/-- The span lies on one line, which is not empty, and its columns run forward once they are moved to
the ends of the line: it stops in front of the line without starting at the end of it, or it starts past
the end of the line without stopping at its start. -/
structure Turned (lines : Buffer) (s : Span) : Prop where
  line_nonneg : 0 ≤ s.start.line
  line_lt : s.start.line < lines.length
  same : s.stop.line = s.start.line
  full : lines.getD s.start.line.toNat [] ≠ []
  outside : s.stop.column < 0 ∧ s.start.column ≠ (lines.getD s.start.line.toNat []).length ∨
    (lines.getD s.start.line.toNat []).length < s.start.column ∧ s.stop.column ≠ 0

instance (lines : Buffer) (s : Span) : Decidable (lines.Turned s) :=
  decidable_of_iff (0 ≤ s.start.line ∧ s.start.line < lines.length ∧ s.stop.line = s.start.line ∧
      lines.getD s.start.line.toNat [] ≠ [] ∧
      (s.stop.column < 0 ∧ s.start.column ≠ (lines.getD s.start.line.toNat []).length ∨
        (lines.getD s.start.line.toNat []).length < s.start.column ∧ s.stop.column ≠ 0))
    ⟨fun ⟨h₁, h₂, h₃, h₄, h₅⟩ => ⟨h₁, h₂, h₃, h₄, h₅⟩,
      fun ⟨h₁, h₂, h₃, h₄, h₅⟩ => ⟨h₁, h₂, h₃, h₄, h₅⟩⟩

section

variable {lines : Buffer} {s : Span}

theorem cut_eq_nil_iff (line : List Char) (a b : Int) :
    cut line a b = [] ↔ (if b < 0 ∨ line.length < b then line.length else b.toNat) ≤
      if a < 0 ∨ line.length < a then 0 else a.toNat := by
  unfold cut
  simp only [List.drop_eq_nil_iff, List.length_take]
  split <;> split <;> omega

/-- Columns in the wrong order cut nothing, as long as both lie on the line. -/
theorem cut_backward_iff {line : List Char} {a b : Int} (h : b ≤ a) :
    cut line a b = [] ↔
      ¬ (line ≠ [] ∧ (b < 0 ∧ a ≠ line.length ∨ line.length < a ∧ b ≠ 0)) := by
  rw [cut_eq_nil_iff, ← List.length_pos_iff]
  by_cases hb : b < 0 ∨ line.length < b
  · rw [if_pos hb]
    split <;> omega
  · rw [if_neg hb]
    split <;> omega

theorem slice_of_line_lt (h : s.stop.line < s.start.line) : lines.slice s = [] := by
  unfold slice
  simp only
  by_cases hout : s.start.line < 0 ∨ s.stop.line < 0 ∨ (lines.length : Int) ≤ s.start.line
  · rw [if_pos hout]
  · rw [if_neg hout, if_neg (by omega), if_pos (by omega)]

theorem slice_eq_nil_iff (h : s.stop ≤ s.start) : lines.slice s = [] ↔ ¬ lines.Turned s := by
  rcases h with hline | ⟨hline, hcol⟩
  · have apart : ¬ lines.Turned s := by
      intro turned
      exact absurd turned.same hline.ne
    exact iff_of_true (slice_of_line_lt hline) apart
  by_cases hout : s.start.line < 0 ∨ (lines.length : Int) ≤ s.start.line
  · have astray : ¬ lines.Turned s := by
      intro turned
      have h₁ := turned.line_nonneg
      have h₂ := turned.line_lt
      omega
    exact iff_of_true (slice_of_no_line hout) astray
  · have on_line : lines.slice s =
        cut (lines.getD s.start.line.toNat []) s.start.column s.stop.column := by
      apply slice_eq_cut <;> omega
    rw [on_line, cut_backward_iff hcol, not_iff_not]
    constructor
    · rintro ⟨full, outside⟩
      exact ⟨by omega, by omega, hline, full, outside⟩
    · intro turned
      exact ⟨turned.full, turned.outside⟩

end

/-- A span that does not run forward takes nothing, unless it is turned around. -/
theorem extract_backward {lines : Buffer} {s : Span} (h : s.stop ≤ s.start) :
    lines.extract s = "" ↔ ¬ lines.Turned s := by
  rw [← slice_eq_nil_iff h]
  exact String.ofList_eq_empty_iff

/-- Columns outside their lines are of no account when the stop is on an earlier line. -/
theorem extract_backward_earlier_line :
    (⟨1, -3⟩ : Position) ≤ ⟨2, 50⟩ ∧ ¬ Turned ["ab".toList, "cd".toList, "ef".toList] ⟨⟨2, 50⟩, ⟨1, -3⟩⟩ ∧
      extract ["ab".toList, "cd".toList, "ef".toList] ⟨⟨2, 50⟩, ⟨1, -3⟩⟩ = "" :=
  ⟨by decide, by decide, (extract_backward (by decide)).mpr (by decide)⟩

/-- Past the end of a line an empty span takes the whole line, and one that runs backward the start of
it. -/
theorem backward_span_past_end :
    (⟨0, 5⟩ : Position) ≤ ⟨0, 5⟩ ∧ extract ["ab".toList] ⟨⟨0, 5⟩, ⟨0, 5⟩⟩ = "ab" ∧
      (⟨0, 1⟩ : Position) ≤ ⟨0, 5⟩ ∧ extract ["ab".toList] ⟨⟨0, 5⟩, ⟨0, 1⟩⟩ = "a" :=
  ⟨by decide, rfl, by decide, rfl⟩

end Literate.Buffer
