import Literate.Proofs.Buffer.Offset

/-! Positions that no text reaches. A column past the end of its line stands for that end, and a line
past the last one for the end of the buffer; moved back there, positions keep their order. The text of
a span is then found between its ends, unless the span starts past the end of a line and stops on the
same line: what is cut in that case is the line from its start. -/

namespace Literate

theorem Position.line_le {p q : Position} (h : p ≤ q) : p.line ≤ q.line := by
  rcases h with h | ⟨h, -⟩
  · exact h.le
  · exact h.le

namespace Buffer

/-- the nearest position of the buffer that is not behind `p` -/
def clamp (lines : Buffer) (p : Position) : Position :=
  if p.line < lines.length then ⟨p.line, min p.column (lines.getD p.line.toNat []).length⟩
  else lines.last

/-- The span starts past the end of a line that is not empty, and stops on that line, or anywhere behind
it if it is the last one. -/
structure Astray (lines : Buffer) (s : Span) : Prop where
  line : s.start.line = min s.stop.line (lines.length - 1)
  past : (lines.getD s.start.line.toNat []).length < s.start.column
  full : lines.getD s.start.line.toNat [] ≠ []

instance (lines : Buffer) (s : Span) : Decidable (lines.Astray s) :=
  decidable_of_iff (s.start.line = min s.stop.line (lines.length - 1) ∧
      (lines.getD s.start.line.toNat []).length < s.start.column ∧
      lines.getD s.start.line.toNat [] ≠ [])
    ⟨fun ⟨h₁, h₂, h₃⟩ => ⟨h₁, h₂, h₃⟩, fun ⟨h₁, h₂, h₃⟩ => ⟨h₁, h₂, h₃⟩⟩

variable {lines : Buffer} {p q : Position}

theorem Holds.natural (h : lines.Holds p) : p.Natural := ⟨h.line_nonneg, h.column_nonneg⟩

theorem holds_clamp (hne : lines ≠ []) (h : p.Natural) : lines.Holds (lines.clamp p) := by
  unfold clamp
  split
  · next hlt => exact ⟨h.1, hlt, le_min h.2 (Int.natCast_nonneg _), min_le_right _ _⟩
  · exact holds_last hne

theorem clamp_mono (hne : lines ≠ []) (hp : p.Natural) (h : p ≤ q) :
    lines.clamp p ≤ lines.clamp q := by
  by_cases hq : q.line < lines.length
  · rw [clamp, clamp, if_pos hq, if_pos ((Position.line_le h).trans_lt hq)]
    rcases h with h | ⟨h, hcol⟩
    · exact .inl h
    · rw [h]
      exact .inr ⟨rfl, min_le_min_right _ hcol⟩
  · have past : lines.clamp q = lines.last := by rw [clamp, if_neg hq]
    rw [past]
    exact (holds_clamp hne hp).le_last

theorem last_eq (hne : lines ≠ []) :
    lines.last = ⟨lines.length - 1, (lines.getD (lines.length - 1) []).length⟩ := by
  obtain ⟨pre, line, rfl⟩ : ∃ pre line, lines = pre ++ [line] :=
    ⟨_, _, (List.dropLast_append_getLast hne).symm⟩
  rw [last_append]
  simp

theorem line_clamp (hne : lines ≠ []) : (lines.clamp p).line = min p.line (lines.length - 1) := by
  have := List.length_pos_of_ne_nil hne
  unfold clamp
  split
  · simp only
    omega
  · rw [last_eq hne]
    simp only
    omega

/-- A column goes back at most to the end of its line. -/
theorem column_clamp (hne : lines ≠ []) :
    (lines.clamp p).column ≤ (lines.getD (lines.clamp p).line.toNat []).length ∧
      min p.column (lines.getD (lines.clamp p).line.toNat []).length ≤ (lines.clamp p).column := by
  unfold clamp
  split
  · exact ⟨min_le_right _ _, le_rfl⟩
  · rw [last_eq hne]
    have hlen : ((lines.length : Int) - 1).toNat = lines.length - 1 := by omega
    simp only [hlen]
    exact ⟨le_rfl, min_le_right _ _⟩

theorem slice_eq_cut (hp : 0 ≤ p.line) (hq : 0 ≤ q.line) (hlt : p.line < lines.length)
    (h : p.line = min q.line (lines.length - 1)) :
    lines.slice ⟨p, q⟩ = cut (lines.getD p.line.toNat []) p.column q.column := by
  unfold slice
  simp only
  rw [if_neg (by omega), if_pos h, ← h]

theorem slice_eq_join (hp : p.Natural) (hq : q.Natural)
    (h : p.line < min q.line (lines.length - 1)) :
    lines.slice ⟨p, q⟩ =
      Text.closedLines ((lines.getD p.line.toNat []).drop p.column.toNat ::
        (lines.take (min q.line (lines.length - 1)).toNat).drop (p.line.toNat + 1)) ++
      (lines.getD (min q.line (lines.length - 1)).toNat []).take q.column.toNat := by
  have hp := hp.1
  have hq := hq.1
  unfold slice
  simp only
  rw [if_neg (by omega), if_neg h.ne, if_neg h.not_gt, Text.joinWith_append]
  rfl

/-- Nothing starts on a line that the buffer does not have. -/
theorem slice_of_no_line (h : p.line < 0 ∨ (lines.length : Int) ≤ p.line) :
    lines.slice ⟨p, q⟩ = [] := by
  unfold slice
  simp only
  rw [if_pos (h.imp_right .inr)]

theorem take_prefix_take {line : List Char} {i j : Nat} (h : min i line.length ≤ j) :
    line.take i <+: line.take j := by
  rw [List.take_eq_take_min]
  exact List.take_prefix_take_left h

theorem drop_min (line : List Char) (c : Int) :
    line.drop (min c line.length).toNat = line.drop c.toNat := by
  rcases le_total c line.length with h | h
  · rw [min_eq_left h]
  · rw [min_eq_right h, Int.toNat_natCast, List.drop_length, List.drop_of_length_le (by omega)]

theorem cut_prefix_cut {line : List Char} {a b c : Int} (ha : 0 ≤ a) (hb : 0 ≤ b)
    (hal : a ≤ line.length) (hc : c ≤ line.length) (hbc : min b line.length ≤ c) :
    cut line a b <+: cut line a c := by
  unfold cut
  simp only
  rw [if_neg (by omega), if_neg (by omega : ¬ (c < 0 ∨ (line.length : Int) < c))]
  apply List.IsPrefix.drop
  apply take_prefix_take
  split <;> omega

/-- What a span reads is found between its ends. -/
theorem slice_prefix_clamp (hne : lines ≠ []) (hp : p.Natural) (hq : q.Natural) (h : p ≤ q)
    (hs : ¬ lines.Astray ⟨p, q⟩) :
    lines.slice ⟨p, q⟩ <+: lines.slice ⟨lines.clamp p, lines.clamp q⟩ := by
  rcases le_or_gt (lines.length : Int) p.line with hpast | hlt
  · rw [slice_of_no_line (.inr hpast)]
    exact List.nil_prefix
  have hle := Position.line_le h
  have hcp : lines.clamp p = ⟨p.line, min p.column (lines.getD p.line.toNat []).length⟩ := by
    rw [clamp, if_pos hlt]
  have hcq := line_clamp (p := q) hne
  obtain ⟨hup, hlow⟩ := column_clamp (p := q) hne
  have natp := (holds_clamp hne hp).natural
  have natq := (holds_clamp hne hq).natural
  rw [hcp] at natp ⊢
  rw [hcq] at hup hlow
  rcases (le_min hle (by omega) : p.line ≤ min q.line (lines.length - 1)).lt_or_eq with hline | hline
  · rw [slice_eq_join hp hq hline, slice_eq_join natp natq (by rw [hcq]; simp only; omega)]
    have same : min (lines.clamp q).line (lines.length - 1) = min q.line (lines.length - 1) := by
      omega
    simp only [same, drop_min]
    rw [List.prefix_append_right_inj]
    exact take_prefix_take (by omega)
  · rw [slice_eq_cut hp.1 hq.1 hlt hline,
      slice_eq_cut natp.1 natq.1 hlt (by rw [hcq]; simp only; omega)]
    simp only
    rcases le_or_gt p.column (lines.getD p.line.toNat []).length with k | k
    · rw [min_eq_left k]
      rw [← hline] at hup hlow
      exact cut_prefix_cut hp.2 hq.2 k hup hlow
    · have bare : lines.getD p.line.toNat [] = [] := by
        by_contra hfull
        exact hs ⟨hline, k, hfull⟩
      rw [bare]
      simp [cut]

end Buffer
end Literate
