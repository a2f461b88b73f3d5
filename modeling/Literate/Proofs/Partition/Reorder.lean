import Literate.Proofs.Partition.Coverage

/-! Tokens in another order. Sorting puts every token back in its place, but for those that have the
very same span: the grid is the same, and each of its segments is told by the same tokens, in an order
that differs only among tokens with one span. -/

namespace Literate

/-- The same tokens, of which only those with one span may have changed places. -/
structure Reordered (as bs : List Token) : Prop where
  perm : as.Perm bs
  spans : as.map Token.span = bs.map Token.span

/-- Tokens of one span, unless it is empty or runs backward, come in the same order. -/
def KeepsTies (ts us : List Token) : Prop :=
  ∀ s : Span, s.start < s.stop → ts.filter (fun t => t.span = s) = us.filter fun t => t.span = s

namespace Reordered

variable {as bs : List Token}

theorem filter (h : Reordered as bs) (f : Span → Bool) :
    Reordered (as.filter fun t => f t.span) (bs.filter fun t => f t.span) := by
  refine ⟨h.perm.filter _, ?_⟩
  have onSpans (ts : List Token) :
      (ts.filter fun t => f t.span).map Token.span = (ts.map Token.span).filter f :=
    List.filter_map.symm
  rw [onSpans, onSpans, h.spans]

theorem eq_nil_iff (h : Reordered as bs) : as = [] ↔ bs = [] := by
  constructor
  · intro ha
    exact List.nil_perm.mp (ha ▸ h.perm)
  · intro hb
    exact List.perm_nil.mp (hb ▸ h.perm)

theorem sortTokens {ts us : List Token} (h : ts.Perm us) :
    Reordered (sortTokens ts) (sortTokens us) := by
  have perm : (Literate.sortTokens ts).Perm (Literate.sortTokens us) :=
    (sortTokens_perm ts).trans (h.trans (sortTokens_perm us).symm)
  refine ⟨perm, ?_⟩
  -- two sorted lists of the same spans
  have sorted (vs : List Token) :
      ((Literate.sortTokens vs).map Token.span).Pairwise fun s t => s.before t = true :=
    List.pairwise_map.mpr (sortTokens_sorted vs)
  apply List.Perm.eq_of_pairwise _ (sorted ts) (sorted us) (perm.map _)
  intro s t _ _ hst hts
  exact Span.before_antisymm hst hts

end Reordered

namespace Mark

theorem lastFull_eq_empty {ss : List Wording} : lastFull ss = [] ↔ ∀ s ∈ ss, s = [] := by
  induction ss using List.reverseRecOn with
  | nil => simp [lastFull]
  | append_singleton ss s ih =>
    rw [lastFull_append]
    by_cases hs : s = []
    · rw [if_pos hs, ih, List.forall_mem_append]
      simp [hs]
    · simp [hs]

end Mark

namespace Grid

variable {ts us : List Token} {c : Span}

theorem reordered_tokens (h : ts.Perm us) : Reordered (tokens ts) (tokens us) := by
  rw [tokens_eq, tokens_eq]
  exact (Reordered.sortTokens h).filter fun s => s.Valid

theorem reordered_covering (h : Reordered ts us) (c : Span) :
    Reordered (covering ts c) (covering us c) :=
  h.filter fun s => s.Contains c

theorem points_eq_of_reordered (h : Reordered ts us) : points ts = points us := by
  have onSpans (vs : List Token) :
      ends vs = (vs.map Token.span).flatMap fun s => [s.start, s.stop] := by
    rw [List.flatMap_map, ends]
  rw [points, points, onSpans, onSpans, h.spans]

/-- Two segments at one place that the same tokens tell, those of one span perhaps in another order. So
the flags are the same and so are the pieces of documentation, up to their order. -/
structure Alike (ts us : List Token) (a b : Segment) : Prop where
  span : a.span = b.span
  isDefinition : a.mark.isDefinition = b.mark.isDefinition
  isReference : a.mark.isReference = b.mark.isReference
  doc : a.mark.doc.Perm b.mark.doc
  told : Reordered (covering (tokens ts) a.span) (covering (tokens us) b.span)
  left : a.mark = Mark.total ((covering (tokens ts) a.span).map Token.mark)
  right : b.mark = Mark.total ((covering (tokens us) b.span).map Token.mark)

theorem alike_of_perm (h : ts.Perm us) (c : Span) :
    Alike ts us ⟨c, Mark.merge ((covering (tokens ts) c).map Token.mark)⟩
      ⟨c, Mark.merge ((covering (tokens us) c).map Token.mark)⟩ := by
  have told := reordered_covering (reordered_tokens h) c
  have marks := told.perm.map Token.mark
  rw [Mark.merge_eq_total, Mark.merge_eq_total]
  exact ⟨rfl, marks.any_eq, marks.any_eq, marks.flatMap_right _, told, rfl, rfl⟩

theorem forall₂_filterMap (h : ts.Perm us) (cs : List Span) :
    List.Forall₂ (Alike ts us) (cs.filterMap (segment? (tokens ts)))
      (cs.filterMap (segment? (tokens us))) := by
  induction cs with
  | nil => exact .nil
  | cons c cs ih =>
    have empty_iff := (reordered_covering (reordered_tokens h) c).eq_nil_iff
    by_cases hc : covering (tokens ts) c = []
    · have left : segment? (tokens ts) c = none := if_pos hc
      have right : segment? (tokens us) c = none := if_pos (empty_iff.mp hc)
      rw [List.filterMap_cons_none left, List.filterMap_cons_none right]
      exact ih
    · have left : segment? (tokens ts) c = some _ := if_neg hc
      have right : segment? (tokens us) c = some _ := if_neg (mt empty_iff.mpr hc)
      rw [List.filterMap_cons_some left, List.filterMap_cons_some right]
      exact .cons (alike_of_perm h c) ih

theorem alike_segments (h : ts.Perm us) : List.Forall₂ (Alike ts us) (segments ts) (segments us) := by
  have same := forall₂_filterMap h (cells (points (tokens ts)))
  rw [segments, segments, ← points_eq_of_reordered (reordered_tokens h)]
  exact same

/-- The tokens around a cell, span by span. -/
theorem filter_span_covering (vs : List Token) (c s : Span) :
    (covering (tokens vs) c).filter (fun t => t.span = s) =
      if s.Valid ∧ s.Contains c then vs.filter (fun t => t.span = s) else [] := by
  rw [covering, tokens_eq, List.filter_comm, List.filter_comm (l := sortTokens vs),
    filter_span_sortTokens, List.filter_filter]
  by_cases hs : s.Valid ∧ s.Contains c
  · rw [if_pos hs, List.filter_eq_self]
    intro t ht
    obtain rfl := of_decide_eq_true (List.mem_filter.mp ht).2
    simp [hs]
  · rw [if_neg hs, List.filter_eq_nil_iff]
    intro t ht
    obtain rfl := of_decide_eq_true (List.mem_filter.mp ht).2
    simpa [and_comm] using hs

theorem sorted_covering (vs : List Token) (c : Span) :
    (covering (tokens vs) c).Pairwise fun a b => a.span.before b.span = true := by
  rw [covering, tokens_eq]
  exact ((sortTokens_sorted vs).filter _).filter _

/-- Around a cell stand only tokens with some length, and the order among those of each span decides. -/
theorem sameCover_of_keepsTies (h : KeepsTies ts us) : SameCover ts us := by
  intro c hc
  apply eq_of_sorted_of_classes (sorted_covering ts c) (sorted_covering us c)
  intro s
  rw [filter_span_covering, filter_span_covering]
  by_cases hs : s.Valid ∧ s.Contains c
  · rw [if_pos hs, if_pos hs, h s (hs.2.1.trans_lt (hc.trans_le hs.2.2))]
  · rw [if_neg hs, if_neg hs]

theorem segments_eq_of_sameCover (hp : points (tokens ts) = points (tokens us))
    (h : SameCover ts us) : segments ts = segments us := by
  rw [segments, segments, hp]
  apply List.filterMap_congr
  intro c hc
  obtain ⟨-, -, hlt, -⟩ := (mem_cells (points_sorted _)).mp hc
  rw [segment?, segment?, h c hlt]

end Grid

/-- Tokens in another order make the same segments, up to what wins and comes first among tokens of one
span; and the very same ones if the tokens of each span keep their order. -/
theorem partition_of_perm {ts us : List Token} (h : ts.Perm us) :
    List.Forall₂ (Grid.Alike ts us) (partition (sortTokens ts)) (partition (sortTokens us)) ∧
      (KeepsTies ts us → partition (sortTokens ts) = partition (sortTokens us)) := by
  rw [Grid.partition_eq, Grid.partition_eq]
  refine ⟨Grid.alike_segments h, fun ties => ?_⟩
  have points := Grid.points_eq_of_reordered (Grid.reordered_tokens h)
  exact Grid.segments_eq_of_sameCover points (Grid.sameCover_of_keepsTies ties)

end Literate
