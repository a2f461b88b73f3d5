import Literate.Proofs.Partition.Coverage
import Literate.Proofs.Assembly.Layout
import Literate.Proofs.Tree.Site
import Literate.Tree.Highlight

/-! Segments of tokens that lie in the buffer are in order, and hinder no comment that starts and
stops where tokens do. The tokens of a well-formed tree lie in the buffer. -/

namespace Literate

namespace Grid

variable {lines : Buffer} {ts : List Token} {cs : List Comment}

theorem holds_point (h : ∀ t ∈ ts, lines.Within t.span) {q : Position}
    (hq : q ∈ points (tokens ts)) :
    lines.Holds q := by
  obtain ⟨t, ht, hq⟩ := mem_points.mp hq
  have hin := h t (mem_tokens.mp ht).1
  rcases hq with rfl | rfl
  · exact hin.start
  · exact hin.stop

theorem within_segment (h : ∀ t ∈ ts, lines.Within t.span) {s : Segment} (hs : s ∈ segments ts) :
    lines.Within s.span ∧ s.span.start < s.span.stop := by
  obtain ⟨h₁, h₂, hlt, -⟩ := (mem_cells (points_sorted _)).mp (mem_segments.mp hs).1
  exact ⟨⟨holds_point h h₁, holds_point h h₂, hlt.le⟩, hlt⟩

theorem ordered_segments (h : ∀ t ∈ ts, lines.Within t.span) (hc : ∀ c ∈ cs, lines.Within c.span)
    (hcs : cs.Pairwise fun a b => a.span.stop ≤ b.span.start) : Ordered lines (segments ts) cs :=
  ⟨fun _ hs => within_segment h hs, segments_sorted ts, hc, hcs⟩

/-- No segment reaches over a point. -/
theorem compatible_of_points
    (h : ∀ c ∈ cs, c.span.start ∈ points (tokens ts) ∧ c.span.stop ∈ points (tokens ts)) :
    Compatible (segments ts) cs := by
  refine compatible_of_apart_or_inside fun s hs c hc => ?_
  obtain ⟨-, -, -, hcell⟩ := (mem_cells (points_sorted _)).mp (mem_segments.mp hs).1
  obtain ⟨hstart, hstop⟩ := h c hc
  rcases le_or_gt c.span.start s.span.start with h₁ | h₁
  · rcases le_or_gt c.span.stop s.span.start with h₂ | h₂
    · exact .inl (.inr h₂)
    · exact .inr ⟨h₁, hcell _ hstop h₂⟩
  · exact .inl (.inl (hcell _ hstart h₁))

end Grid

namespace Tree

variable {s : List Char} {b : Nat} {declared : Declared} {waiting : List Tree}

theorem mem_here {t u : Tree} {c d : String}
    (h : (u, d) ∈ if c ≠ "" ∧ t.info.bytes.first < t.info.bytes.stop then [(t, c)] else []) :
    u = t ∧ t.info.bytes.first < t.info.bytes.stop := by
  split at h
  · next hlt =>
    rw [List.mem_singleton, Prod.mk.injEq] at h
    exact ⟨h.1, hlt.2⟩
  · simp at h

/-- Only nodes of the tree get a class, and only if they have bytes. -/
theorem Queue.classified (h : Queue s b waiting) :
    ∀ u d, (u, d) ∈ Tree.classified declared waiting →
      u.WellFormed s ∧ u.info.bytes.first < u.info.bytes.stop := by
  fun_induction Tree.classified declared waiting generalizing b with
  | case1 => simp
  | case2 _ t rest =>
    rename_i ih
    intro u d hu
    rcases List.mem_append.mp hu with hu | hu
    · obtain ⟨rfl, hlt⟩ := mem_here hu
      exact ⟨h.wellFormed u (by simp), hlt⟩
    · exact ih h.tail u d hu
  | case3 _ t rest =>
    rename_i ih
    intro u d hu
    rcases List.mem_append.mp hu with hu | hu
    · obtain ⟨rfl, hlt⟩ := mem_here hu
      exact ⟨h.wellFormed u (by simp), hlt⟩
    · exact ih h.expand u d hu

/-- Tokens of a well-formed tree lie in the buffer and have text. -/
theorem within_highlight {source : String} {p : Parsed} (hp : p.Reads source)
    (hw : p.root.WellFormed source.toList) :
    ∀ t ∈ highlight p, p.lines.Within t.span ∧ t.span.start < t.span.stop := by
  intro t ht
  obtain ⟨⟨u, d⟩, hu, rfl⟩ := List.mem_map.mp ht
  obtain ⟨hwu, hlt⟩ := hw.queue.classified u d hu
  exact ⟨hp.within hwu.sited, hp.start_lt_stop hwu.sited hlt⟩

/-- The ends of a node with a class are ends of a token. -/
theorem points_of_classified {source : String} {p : Parsed} (hp : p.Reads source)
    (hw : p.root.WellFormed source.toList) {u : Tree} {d : String}
    (hu : (u, d) ∈ Tree.classified {} [p.root]) :
    (p.span u).start ∈ Grid.points (Grid.tokens (highlight p)) ∧
      (p.span u).stop ∈ Grid.points (Grid.tokens (highlight p)) := by
  have hmem : (⟨p.span u, { highlight := d }⟩ : Token) ∈ highlight p :=
    List.mem_map.mpr ⟨_, hu, rfl⟩
  have hvalid := (within_highlight hp hw _ hmem).1.valid
  have htok := Grid.mem_tokens.mpr ⟨hmem, hvalid⟩
  exact ⟨Grid.mem_points.mpr ⟨_, htok, .inl rfl⟩, Grid.mem_points.mpr ⟨_, htok, .inr rfl⟩⟩

end Tree
end Literate
