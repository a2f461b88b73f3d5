import Literate.Proofs.Order

/-! The grid of a list of tokens: every start and stop of a token is a point, neighbouring points
bound a cell, and a cell that some token contains becomes a segment. Nothing is swept here, and
no token is ever active: this is what the partition is measured against. -/

namespace Literate.Grid

/-- by start, then by stop, then by place in the list -/
def earlier (a b : Token × Nat) : Bool :=
  a.1.span.start < b.1.span.start ||
    (a.1.span.start = b.1.span.start &&
      (a.1.span.stop < b.1.span.stop || (a.1.span.stop = b.1.span.stop && a.2 ≤ b.2)))

/-- the tokens in that order, without those that run backward -/
def tokens (ts : List Token) : List Token :=
  ((ts.zipIdx.mergeSort earlier).map Prod.fst).filter fun t => t.span.Valid

/-- all starts and stops -/
def ends (us : List Token) : List Position := us.flatMap fun t => [t.span.start, t.span.stop]

/-- each once and in order -/
def points (us : List Token) : List Position := (ends us).toFinset.sort

/-- the spans between neighbours -/
def cells (ps : List Position) : List Span := List.zipWith Span.mk ps ps.tail

/-- the tokens that contain a cell -/
def covering (us : List Token) (c : Span) : List Token := us.filter fun t => t.span.Contains c

/-- a cell with all that its tokens say, unless there are none -/
def segment? (us : List Token) (c : Span) : Option Segment :=
  if covering us c = [] then none else some ⟨c, Mark.merge ((covering us c).map Token.mark)⟩

def segments (ts : List Token) : List Segment :=
  (cells (points (tokens ts))).filterMap (segment? (tokens ts))

theorem earlier_eq (a b : Token × Nat) :
    earlier a b = List.zipIdxLE (fun t u => t.span.before u.span) a b := by
  rw [Bool.eq_iff_iff]
  simp only [earlier, List.zipIdxLE, Span.before_iff, Bool.or_eq_true, Bool.and_eq_true,
    decide_eq_true_eq]
  rcases lt_trichotomy a.1.span.start b.1.span.start with h | h | h
  · simp [h, h.not_gt, h.ne']
  · rcases lt_trichotomy a.1.span.stop b.1.span.stop with k | k | k
    · simp [h, k, k.le, k.not_ge]
    · simp [h, k]
    · simp [h, k.not_gt, k.not_ge, k.ne']
  · simp [h.not_gt, h.ne']

/-- The sort of tokens is stable: ties go by place. -/
theorem tokens_eq (ts : List Token) :
    tokens ts = (sortTokens ts).filter fun t => t.span.Valid := by
  have h : earlier = List.zipIdxLE fun t u => t.span.before u.span :=
    funext fun a => funext fun b => earlier_eq a b
  unfold tokens sortTokens
  rw [h, List.mergeSort_zipIdx]

theorem mem_tokens {ts : List Token} {t : Token} : t ∈ tokens ts ↔ t ∈ ts ∧ t.span.Valid := by
  rw [tokens_eq, List.mem_filter, (sortTokens_perm ts).mem_iff, decide_eq_true_eq]

theorem tokens_sorted (ts : List Token) :
    (tokens ts).Pairwise fun a b => a.span.start ≤ b.span.start := by
  rw [tokens_eq]
  exact ((sortTokens_sorted ts).imp Span.start_le_of_before).filter _

theorem mem_points {us : List Token} {p : Position} :
    p ∈ points us ↔ ∃ t ∈ us, t.span.start = p ∨ t.span.stop = p := by
  simp [points, ends, eq_comm]

theorem points_sorted (us : List Token) : (points us).Pairwise (· < ·) :=
  (Finset.sortedLT_sort _).pairwise

theorem cells_cons (p q : Position) (ps : List Position) :
    cells (p :: q :: ps) = ⟨p, q⟩ :: cells (q :: ps) := rfl

/-- A cell has its ends among the points, and no point inside. -/
theorem mem_cells {ps : List Position} (hs : ps.Pairwise (· < ·)) {c : Span} :
    c ∈ cells ps ↔ c.start ∈ ps ∧ c.stop ∈ ps ∧ c.start < c.stop ∧
      ∀ q ∈ ps, c.start < q → c.stop ≤ q := by
  induction ps with
  | nil => simp [cells]
  | cons p ps ih =>
    cases ps with
    | nil =>
      simp only [cells, List.tail_cons, List.zipWith_nil_right, List.not_mem_nil,
        List.mem_singleton, false_iff, not_and]
      exact fun h k hlt => absurd (h.trans k.symm) hlt.ne
    | cons q ps =>
      obtain ⟨hp, hs⟩ := List.pairwise_cons.mp hs
      rw [cells_cons, List.mem_cons, ih hs]
      constructor
      · rintro (rfl | ⟨h₁, h₂, h₃, h₄⟩)
        · refine ⟨by simp, by simp, hp q (by simp), fun r hr hlt => ?_⟩
          rcases List.mem_cons.mp hr with rfl | hr
          · exact absurd hlt (lt_irrefl _)
          · rcases List.mem_cons.mp hr with rfl | hr
            · exact le_rfl
            · exact ((List.pairwise_cons.mp hs).1 r hr).le
        · refine ⟨List.mem_cons_of_mem _ h₁, List.mem_cons_of_mem _ h₂, h₃, fun r hr hlt => ?_⟩
          rcases List.mem_cons.mp hr with rfl | hr
          · exact absurd (hp _ h₁) hlt.not_gt
          · exact h₄ r hr hlt
      · rintro ⟨h₁, h₂, h₃, h₄⟩
        have inner : c.stop ∈ q :: ps := by
          rcases List.mem_cons.mp h₂ with h | h
          · rcases List.mem_cons.mp h₁ with h' | h'
            · exact absurd (h'.trans h.symm) h₃.ne
            · exact absurd (hp _ h') (h ▸ h₃).not_gt
          · exact h
        rcases List.mem_cons.mp h₁ with h | h
        · left
          have hq : c.stop ≤ q := h₄ q (by simp) (h ▸ hp q (by simp))
          have hq' : q ≤ c.stop := by
            rcases List.mem_cons.mp inner with h' | h'
            · exact h'.ge
            · exact ((List.pairwise_cons.mp hs).1 _ h').le
          exact Span.ext_iff'.mpr ⟨h, le_antisymm hq hq'⟩
        · exact .inr ⟨h, inner, h₃, fun r hr => h₄ r (List.mem_cons_of_mem _ hr)⟩

theorem cells_sorted {ps : List Position} (hs : ps.Pairwise (· < ·)) :
    (cells ps).Pairwise fun a b => a.stop ≤ b.start := by
  induction ps with
  | nil => simp [cells]
  | cons p ps ih =>
    cases ps with
    | nil => simp [cells]
    | cons q ps =>
      have hs' := (List.pairwise_cons.mp hs).2
      rw [cells_cons, List.pairwise_cons]
      refine ⟨fun c hc => ?_, ih hs'⟩
      rcases List.mem_cons.mp ((mem_cells hs').mp hc).1 with h | h
      · exact h.ge
      · exact ((List.pairwise_cons.mp hs').1 _ h).le

/-- A position between two points lies in a cell. -/
theorem exists_cell {ps : List Position} (hs : ps.Pairwise (· < ·)) {a b p : Position}
    (ha : a ∈ ps) (hb : b ∈ ps) (hap : a ≤ p) (hpb : p < b) :
    ∃ c ∈ cells ps, c.Covers p ∧ a ≤ c.start ∧ c.stop ≤ b := by
  obtain ⟨l, hl, hl'⟩ := (ps.toFinset.filter (· ≤ p)).exists_maximal ⟨a, by simp [ha, hap]⟩
  obtain ⟨u, hu, hu'⟩ := (ps.toFinset.filter (p < ·)).exists_minimal ⟨b, by simp [hb, hpb]⟩
  simp only [Finset.mem_filter, List.mem_toFinset] at hl hl' hu hu'
  have low : ∀ q ∈ ps, q ≤ p → q ≤ l := fun q hq hqp => by
    by_contra h
    exact h (hl' ⟨hq, hqp⟩ (le_of_not_ge h))
  have high : ∀ q ∈ ps, p < q → u ≤ q := fun q hq hqp => by
    by_contra h
    exact h (hu' ⟨hq, hqp⟩ (le_of_not_ge h))
  refine ⟨⟨l, u⟩, (mem_cells hs).mpr ⟨hl.1, hu.1, hl.2.trans_lt hu.2, fun q hq hlt => ?_⟩,
    ⟨hl.2, hu.2⟩, low a ha hap, high b hb hpb⟩
  rcases le_or_gt q p with h | h
  · exact absurd (low q hq h) hlt.not_ge
  · exact high q hq h

theorem mem_segments {ts : List Token} {s : Segment} :
    s ∈ segments ts ↔ s.span ∈ cells (points (tokens ts)) ∧ covering (tokens ts) s.span ≠ [] ∧
      s.mark = Mark.merge ((covering (tokens ts) s.span).map Token.mark) := by
  simp only [segments, List.mem_filterMap, segment?]
  constructor
  · rintro ⟨c, hc, h⟩
    split at h
    · simp at h
    · next hne =>
      obtain rfl := Option.some.inj h
      exact ⟨hc, hne, rfl⟩
  · rintro ⟨hc, hne, hm⟩
    exact ⟨s.span, hc, by rw [if_neg hne, ← hm]⟩

/-- Segments start and stop where tokens do that do not run backward. -/
theorem ends_of_segment {ts : List Token} {x : Segment} (hx : x ∈ segments ts) :
    x.span.start ∈ ends (tokens ts) ∧ x.span.stop ∈ ends (tokens ts) ∧
      x.span.start < x.span.stop := by
  obtain ⟨hcell, -, -⟩ := mem_segments.mp hx
  obtain ⟨hstart, hstop, hlt, -⟩ := (mem_cells (points_sorted _)).mp hcell
  have named {p : Position} (hp : p ∈ points (tokens ts)) : p ∈ ends (tokens ts) := by
    simpa [points] using hp
  exact ⟨named hstart, named hstop, hlt⟩

theorem natural_ends {ts : List Token} (h : ∀ t ∈ ts, t.span.Natural) :
    ∀ p ∈ ends (tokens ts), p.Natural := by
  intro p hp
  obtain ⟨t, ht, hp⟩ := List.mem_flatMap.mp hp
  have hspan := h t (mem_tokens.mp ht).1
  rcases (by simpa using hp : p = t.span.start ∨ p = t.span.stop) with rfl | rfl
  · exact hspan.1
  · exact hspan.2

theorem segments_sorted (ts : List Token) :
    (segments ts).Pairwise fun a b => a.span.stop ≤ b.span.start := by
  refine (cells_sorted (points_sorted _)).filterMap _ ?_
  intro c d hcd a ha b hb
  simp only [segment?] at ha hb
  split at ha
  · simp at ha
  · split at hb
    · simp at hb
    · obtain rfl := Option.some.inj ha
      obtain rfl := Option.some.inj hb
      exact hcd

end Literate.Grid
