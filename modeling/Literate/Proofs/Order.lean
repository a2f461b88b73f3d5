import Mathlib
import Literate.Mark

/-! Positions as a linear order, and what spans cover: a span covers the positions from its start
up to its stop, and two spans are apart when one stops before the other starts. -/

namespace Literate

instance : LinearOrder Position where
  le_refl := Position.le_refl
  le_trans _ _ _ := Position.le_trans
  le_antisymm _ _ := Position.le_antisymm
  le_total := Position.le_total
  lt_iff_le_not_ge p q := by
    simp only [Position.lt_def, Position.le_def]
    omega
  toDecidableLE := inferInstance
  compare_eq_compareOfLessAndEq p q := by
    simp only [compare, compareOfLessAndEq, Position.lt_def, Position.ext_iff']
    split_ifs <;> first | rfl | omega

/-- Line and column count from zero. -/
def Position.Natural (p : Position) : Prop := 0 ≤ p.line ∧ 0 ≤ p.column

instance (p : Position) : Decidable p.Natural := inferInstanceAs (Decidable (_ ∧ _))

namespace Span

def Natural (s : Span) : Prop := s.start.Natural ∧ s.stop.Natural

instance (s : Span) : Decidable s.Natural := inferInstanceAs (Decidable (_ ∧ _))

/-- The position lies in the span. -/
def Covers (s : Span) (p : Position) : Prop := s.start ≤ p ∧ p < s.stop

instance (s : Span) (p : Position) : Decidable (s.Covers p) := inferInstanceAs (Decidable (_ ∧ _))

/-- One of the spans stops before the other starts, or where it starts. -/
def Apart (s t : Span) : Prop := s.stop ≤ t.start ∨ t.stop ≤ s.start

instance (s t : Span) : Decidable (s.Apart t) := inferInstanceAs (Decidable (_ ∨ _))

theorem ext_iff' {s t : Span} : s = t ↔ s.start = t.start ∧ s.stop = t.stop := by
  cases s
  cases t
  simp

theorem Covers.valid {s : Span} {p : Position} (h : s.Covers p) : s.Valid :=
  le_of_lt (lt_of_le_of_lt h.1 h.2)

/-- earlier start first, then earlier stop -/
theorem before_iff {s t : Span} :
    s.before t = true ↔ s.start < t.start ∨ (s.start = t.start ∧ s.stop ≤ t.stop) := by
  simp [before]

theorem before_total (s t : Span) : (s.before t || t.before s) = true := by
  rw [Bool.or_eq_true, before_iff, before_iff]
  rcases lt_trichotomy s.start t.start with h | h | h
  · exact .inl (.inl h)
  · rcases le_total s.stop t.stop with k | k
    · exact .inl (.inr ⟨h, k⟩)
    · exact .inr (.inr ⟨h.symm, k⟩)
  · exact .inr (.inl h)

theorem before_trans {s t u : Span} (h : s.before t = true) (k : t.before u = true) :
    s.before u = true := by
  rw [before_iff] at h k ⊢
  rcases h with h | ⟨h, h'⟩
  · rcases k with k | ⟨k, -⟩
    · exact .inl (lt_trans h k)
    · exact .inl (k ▸ h)
  · rcases k with k | ⟨k, k'⟩
    · exact .inl (h ▸ k)
    · exact .inr ⟨h.trans k, le_trans h' k'⟩

theorem before_antisymm {s t : Span} (h : s.before t = true) (k : t.before s = true) : s = t := by
  rw [before_iff] at h k
  rcases h with h | ⟨h, h'⟩ <;> rcases k with k | ⟨k, k'⟩
  · exact absurd h k.not_gt
  · exact absurd h k.le.not_gt
  · exact absurd k h.le.not_gt
  · exact ext_iff'.mpr ⟨h, le_antisymm h' k'⟩

theorem start_le_of_before {s t : Span} (h : s.before t = true) : s.start ≤ t.start := by
  rcases before_iff.mp h with h | ⟨h, -⟩
  · exact le_of_lt h
  · exact le_of_eq h

end Span

theorem sortTokens_sorted (ts : List Token) :
    (sortTokens ts).Pairwise fun a b => a.span.before b.span = true := by
  unfold sortTokens
  apply List.pairwise_mergeSort
  · exact fun a b c h k => Span.before_trans h k
  · exact fun a b => Span.before_total a.span b.span

/-- Those that may stand in any order keep the one they have. -/
theorem filter_mergeSort {α : Type} {le : α → α → Bool} {f : α → Bool}
    (trans : ∀ a b c, le a b = true → le b c = true → le a c = true)
    (total : ∀ a b, (le a b || le b a) = true)
    (alike : ∀ a b, f a = true → f b = true → le a b = true) (as : List α) :
    (as.mergeSort le).filter f = as.filter f := by
  have kept : (as.filter f).Sublist (as.mergeSort le) := by
    apply List.sublist_mergeSort trans total
    · rw [List.pairwise_iff_forall_sublist]
      intro a b hab
      have ha := List.of_mem_filter (hab.subset (List.mem_cons_self ..))
      have hb := List.of_mem_filter (hab.subset (by simp : b ∈ [a, b]))
      exact alike a b ha hb
    · exact List.filter_sublist
  refine (List.Sublist.eq_of_length ?_ ?_).symm
  · simpa using kept.filter f
  · exact ((List.mergeSort_perm as le).filter f).length_eq.symm

/-- Tokens with the same span keep their order. -/
theorem filter_span_sortTokens (ts : List Token) (s : Span) :
    (sortTokens ts).filter (fun t => t.span = s) = ts.filter fun t => t.span = s := by
  apply filter_mergeSort
  · exact fun a b c h k => Span.before_trans h k
  · exact fun a b => Span.before_total a.span b.span
  · intro a b ha hb
    simp only [decide_eq_true_eq] at ha hb
    simpa [ha, hb] using Span.before_total s s

theorem sortComments_sorted (cs : List Comment) :
    (sortComments cs).Pairwise fun a b => a.span.start ≤ b.span.start := by
  have sorted : (sortComments cs).Pairwise fun a b => decide (a.span.start ≤ b.span.start) = true := by
    apply List.pairwise_mergeSort
    · exact fun a b c h k => decide_eq_true (le_trans (of_decide_eq_true h) (of_decide_eq_true k))
    · exact fun a b => by simpa using le_total a.span.start b.span.start
  exact sorted.imp of_decide_eq_true

/-- Comments with the same start keep their order. -/
theorem filter_start_sortComments (cs : List Comment) (p : Position) :
    (sortComments cs).filter (fun c => c.span.start = p) = cs.filter fun c => c.span.start = p := by
  apply filter_mergeSort
  · exact fun a b c h k => decide_eq_true (le_trans (of_decide_eq_true h) (of_decide_eq_true k))
  · exact fun a b => by simpa using le_total a.span.start b.span.start
  · intro a b ha hb
    simp only [decide_eq_true_eq] at ha hb ⊢
    exact le_of_eq (ha.trans hb.symm)

/-- Sorted tokens are determined by the order of those with the same span. -/
theorem eq_of_sorted_of_classes {us vs : List Token}
    (hu : us.Pairwise fun a b => a.span.before b.span = true)
    (hv : vs.Pairwise fun a b => a.span.before b.span = true)
    (h : ∀ s, us.filter (fun t => t.span = s) = vs.filter fun t => t.span = s) : us = vs := by
  induction us generalizing vs with
  | nil =>
    cases vs with
    | nil => rfl
    | cons v vs => simpa using h v.span
  | cons u us ih =>
    have hmem (t : Token) : t ∈ u :: us ↔ t ∈ vs := by
      have k := congrArg (t ∈ ·) (h t.span)
      simpa using k
    cases vs with
    | nil => simpa using (hmem u).mp (by simp)
    | cons v vs =>
      rw [List.pairwise_cons] at hu hv
      have span_eq : u.span = v.span := by
        rcases List.mem_cons.mp ((hmem u).mp (by simp)) with rfl | hu'
        · rfl
        · rcases List.mem_cons.mp ((hmem v).mpr (by simp)) with rfl | hv'
          · rfl
          · exact Span.before_antisymm (hu.1 v hv') (hv.1 u hu')
      have head_eq : u = v := by
        have k := h u.span
        simp only [span_eq, decide_true, List.filter_cons_of_pos] at k
        exact (List.cons.inj k).1
      subst head_eq
      congr 1
      apply ih hu.2 hv.2
      intro s
      have k := h s
      by_cases hs : u.span = s
      · simpa [hs] using k
      · simpa [hs] using k

/-- What is left out before the sort is of no account to the others. -/
theorem filter_sortTokens_congr {ts us : List Token} {f : Token → Bool}
    (h : ts.filter f = us.filter f) : (sortTokens ts).filter f = (sortTokens us).filter f := by
  apply eq_of_sorted_of_classes
  · exact (sortTokens_sorted ts).filter f
  · exact (sortTokens_sorted us).filter f
  · intro s
    rw [List.filter_comm, filter_span_sortTokens, List.filter_comm, h, List.filter_comm,
      ← filter_span_sortTokens, List.filter_comm]

end Literate
