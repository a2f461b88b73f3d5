import Literate.Proofs.Partition.Sweep

/-! The partition of sorted tokens is the grid cut out by their spans. What is covered is covered by
one segment, a segment says what all tokens around it say, and a token without length leaves a cut
behind and nothing else. -/

namespace Literate

namespace Mark

/-- the last one that is not empty -/
def lastFull (ss : List Wording) : Wording := (ss.filter (· ≠ [])).getLastD []

/-- what several tokens say together, field by field -/
def total (as : List Mark) : Mark where
  symbol := lastFull (as.map symbol)
  isDefinition := as.any isDefinition
  isReference := as.any isReference
  highlight := lastFull (as.map highlight)
  doc := as.flatMap doc

theorem lastFull_append (ss : List Wording) (s : Wording) :
    lastFull (ss ++ [s]) = if s = [] then lastFull ss else s := by
  by_cases h : s = [] <;> simp [lastFull, List.filter_append, h]

theorem merge_eq_total (as : List Mark) : merge as = total as := by
  induction as using List.reverseRecOn with
  | nil => rfl
  | append_singleton as a ih =>
    have h : merge (as ++ [a]) = (merge as).add a := by simp [merge, List.foldl_append]
    rw [h, ih]
    simp [add, total, lastFull_append, List.any_append]

end Mark

/-- in two if the position lies inside -/
def Span.pieces (p : Position) (s : Span) : List Span :=
  if s.start < p ∧ p < s.stop then [⟨s.start, p⟩, ⟨p, s.stop⟩] else [s]

/-- each piece with the whole mark -/
def Segment.cutAt (p : Position) (s : Segment) : List Segment :=
  (s.span.pieces p).map fun c => ⟨c, s.mark⟩

theorem Span.mem_pieces {p : Position} {c s : Span} (hs : s.start < s.stop) :
    c ∈ s.pieces p ↔ (c.start = s.start ∨ c.start = p) ∧ (c.stop = s.stop ∨ c.stop = p) ∧
      s.start ≤ c.start ∧ c.start < c.stop ∧ c.stop ≤ s.stop ∧ ¬ (c.start < p ∧ p < c.stop) := by
  unfold pieces
  split
  · next h =>
    simp only [List.mem_cons, List.not_mem_nil, or_false, ext_iff']
    constructor
    · rintro (⟨h₁, h₂⟩ | ⟨h₁, h₂⟩)
      · exact ⟨.inl h₁, .inr h₂, h₁.ge, by rw [h₁, h₂]; exact h.1, h₂ ▸ h.2.le,
          fun k => k.2.ne h₂.symm⟩
      · exact ⟨.inr h₁, .inl h₂, h₁ ▸ h.1.le, by rw [h₁, h₂]; exact h.2, h₂.le,
          fun k => k.1.ne h₁⟩
    · rintro ⟨h₁ | h₁, h₂ | h₂, -, hlt, -, hin⟩
      · exact absurd ⟨h₁ ▸ h.1, h₂ ▸ h.2⟩ hin
      · exact .inl ⟨h₁, h₂⟩
      · exact .inr ⟨h₁, h₂⟩
      · exact absurd (h₁.trans h₂.symm) hlt.ne
  · next h =>
    rw [List.mem_singleton, ext_iff']
    constructor
    · rintro ⟨h₁, h₂⟩
      exact ⟨.inl h₁, .inl h₂, h₁.ge, by rw [h₁, h₂]; exact hs, h₂.le, by rw [h₁, h₂]; exact h⟩
    · rintro ⟨h₁, h₂, h₃, hlt, h₅, -⟩
      constructor
      · rcases h₁ with h₁ | h₁
        · exact h₁
        · by_contra hne
          exact h ⟨h₁ ▸ lt_of_le_of_ne h₃ (Ne.symm hne), h₁ ▸ hlt.trans_le h₅⟩
      · rcases h₂ with h₂ | h₂
        · exact h₂
        · by_contra hne
          exact h ⟨h₂ ▸ h₃.trans_lt hlt, h₂ ▸ lt_of_le_of_ne h₅ hne⟩

theorem Segment.mem_cutAt {p : Position} {r s : Segment} :
    s ∈ r.cutAt p ↔ s.span ∈ r.span.pieces p ∧ s.mark = r.mark := by
  simp only [cutAt, List.mem_map]
  constructor
  · rintro ⟨c, hc, rfl⟩
    exact ⟨hc, rfl⟩
  · rintro ⟨hc, hm⟩
    exact ⟨s.span, hc, by rw [← hm]⟩

namespace Grid

theorem partition_eq (ts : List Token) : partition (sortTokens ts) = segments ts := by
  have hr := Partition.ready_tokens ts
  unfold partition segments
  rw [← tokens_eq]
  cases hus : tokens ts with
  | nil => simp [points, ends, cells]
  | cons u us =>
    rw [hus] at hr
    have least : ∀ q ∈ points (u :: us), u.span.start ≤ q := by
      intro q hq
      obtain ⟨t, ht, hq⟩ := mem_points.mp hq
      have hu : u.span.start ≤ t.span.start := by
        rcases List.mem_cons.mp ht with rfl | h
        · exact le_rfl
        · exact (List.pairwise_cons.mp hr.sorted).1 t h
      rcases hq with rfl | rfl
      · exact hu
      · exact hu.trans (hr.valid t ht)
    have first : Partition.nextEvent (u :: us) [] = some u.span.start := rfl
    have visit := @Partition.standing_visit (u :: us) [] (u :: us) [] u.span.start hr rfl (by simp)
      (fun t ht => least _ (mem_points.mpr ⟨t, ht, .inl rfl⟩)) rfl
    change Partition.sweep u.span.start (u :: us) [] = _
    rw [Partition.sweep_visit _ first, Partition.sweep_eq hr _ _ _ visit,
      ← Partition.points_eq_cons (points_sorted _) (mem_points.mpr ⟨u, by simp, .inl rfl⟩) least]
    simp [Partition.stretch]

theorem covers_of_contains {s c : Span} {p : Position} (h : s.Contains c) (hp : c.Covers p) :
    s.Covers p :=
  ⟨h.1.trans hp.1, hp.2.trans_le h.2⟩

theorem exists_segment {ts : List Token} {t : Token} {p : Position} (ht : t ∈ ts)
    (hp : t.span.Covers p) :
    ∃ s ∈ segments ts, s.span.Covers p := by
  have ht' : t ∈ tokens ts := mem_tokens.mpr ⟨ht, hp.valid⟩
  obtain ⟨c, hc, hcp, h₁, h₂⟩ := exists_cell (points_sorted (tokens ts))
    (mem_points.mpr ⟨t, ht', .inl rfl⟩) (mem_points.mpr ⟨t, ht', .inr rfl⟩) hp.1 hp.2
  refine ⟨⟨c, Mark.merge ((covering (tokens ts) c).map Token.mark)⟩,
    mem_segments.mpr ⟨hc, ?_, rfl⟩, hcp⟩
  exact List.ne_nil_of_mem (List.mem_filter.mpr ⟨ht', decide_eq_true ⟨h₁, h₂⟩⟩)

theorem exists_token {ts : List Token} {s : Segment} {p : Position} (hs : s ∈ segments ts)
    (hp : s.span.Covers p) :
    ∃ t ∈ ts, t.span.Covers p := by
  obtain ⟨-, hne, -⟩ := mem_segments.mp hs
  obtain ⟨t, ht⟩ := List.exists_mem_of_ne_nil _ hne
  obtain ⟨ht, hc⟩ := List.mem_filter.mp ht
  exact ⟨t, (mem_tokens.mp ht).1, covers_of_contains (of_decide_eq_true hc) hp⟩

/-- Of spans one behind the other at most one covers a position. -/
theorem countP_covers_le_one {ss : List Segment} (p : Position)
    (h : ss.Pairwise fun a b => a.span.stop ≤ b.span.start) :
    ss.countP (fun s => s.span.Covers p) ≤ 1 := by
  induction ss with
  | nil => simp
  | cons s ss ih =>
    rw [List.pairwise_cons] at h
    by_cases hs : s.span.Covers p
    · have none_behind : ss.countP (fun s => s.span.Covers p) = 0 := by
        rw [List.countP_eq_zero]
        intro t ht hc
        exact absurd ((h.1 t ht).trans (of_decide_eq_true hc).1) hs.2.not_ge
      simp [hs, none_behind]
    · simpa [hs] using ih h.2

theorem countP_covers (ts : List Token) (p : Position) :
    (segments ts).countP (fun s => s.span.Covers p) =
      if ∃ t ∈ ts, t.span.Covers p then 1 else 0 := by
  have most := countP_covers_le_one p (segments_sorted ts)
  split
  · next h =>
    obtain ⟨t, ht, hp⟩ := h
    obtain ⟨s, hs, hsp⟩ := exists_segment ht hp
    have pos : 0 < (segments ts).countP fun s => s.span.Covers p :=
      List.countP_pos_iff.mpr ⟨s, hs, decide_eq_true hsp⟩
    omega
  · next h =>
    rw [List.countP_eq_zero]
    intro s hs hsp
    exact h (exists_token hs (of_decide_eq_true hsp))

section

variable {ts us : List Token} {p : Position}

/-- Two lists of tokens say the same about every cell. -/
def SameCover (ts us : List Token) : Prop :=
  ∀ c : Span, c.start < c.stop → covering (tokens ts) c = covering (tokens us) c

/-- A token without length covers no cell. -/
theorem sameCover_empty (us vs : List Token) (p : Position) (m : Mark) :
    SameCover (us ++ ⟨⟨p, p⟩, m⟩ :: vs) (us ++ vs) := by
  intro c hc
  unfold covering
  rw [tokens_eq, tokens_eq, List.filter_comm, List.filter_comm (l := sortTokens (us ++ vs))]
  congr 1
  apply filter_sortTokens_congr
  have hm : ¬ Span.Contains ⟨p, p⟩ c := fun h => absurd (h.1.trans_lt hc) h.2.not_gt
  simp [hm]

theorem mem_points_empty (us vs : List Token) (p : Position) (m : Mark) (q : Position) :
    q ∈ points (tokens (us ++ ⟨⟨p, p⟩, m⟩ :: vs)) ↔ q = p ∨ q ∈ points (tokens (us ++ vs)) := by
  have hv : (⟨p, p⟩ : Span).Valid := le_refl p
  simp only [mem_points, mem_tokens, List.mem_append, List.mem_cons]
  constructor
  · rintro ⟨t, ⟨h | rfl | h, hval⟩, hq⟩
    · exact .inr ⟨t, ⟨.inl h, hval⟩, hq⟩
    · exact .inl (by rcases hq with h | h <;> exact h.symm)
    · exact .inr ⟨t, ⟨.inr h, hval⟩, hq⟩
  · rintro (rfl | ⟨t, ⟨h, hval⟩, hq⟩)
    · exact ⟨_, ⟨.inr (.inl rfl), hv⟩, .inl rfl⟩
    · exact ⟨t, ⟨h.imp_right .inr, hval⟩, hq⟩

/-- Between neighbouring points the tokens around a piece of a cell are those around the cell. -/
theorem covering_piece {c d : Span} (hd : d ∈ cells (points us)) (hc : c.start < c.stop)
    (hs : d.start ≤ c.start) (hs' : c.stop ≤ d.stop) : covering us c = covering us d := by
  obtain ⟨-, -, -, h⟩ := (mem_cells (points_sorted us)).mp hd
  unfold covering
  apply List.filter_congr
  intro t ht
  have start_mem := mem_points.mpr ⟨t, ht, .inl rfl⟩
  have stop_mem := mem_points.mpr ⟨t, ht, .inr rfl⟩
  rw [Bool.eq_iff_iff, decide_eq_true_eq, decide_eq_true_eq]
  constructor
  · rintro ⟨h₁, h₂⟩
    constructor
    · by_contra hlt
      have := h _ start_mem (lt_of_not_ge hlt)
      exact absurd (h₁.trans_lt (hc.trans_le hs')) this.not_gt
    · exact h _ stop_mem ((hs.trans_lt hc).trans_le h₂)
  · exact fun ⟨h₁, h₂⟩ => ⟨h₁.trans hs, hs'.trans h₂⟩

/-- One more point cuts the cell that it lies in. -/
theorem mem_cells_of_mem_pieces {ps qs : List Position} (hps : ps.Pairwise (· < ·))
    (hqs : qs.Pairwise (· < ·)) (h : ∀ q, q ∈ qs ↔ q = p ∨ q ∈ ps) {c d : Span}
    (hd : d ∈ cells ps) (hc : c ∈ d.pieces p) : c ∈ cells qs := by
  obtain ⟨hd₁, hd₂, hlt, hin⟩ := (mem_cells hps).mp hd
  obtain ⟨h₁, h₂, h₃, h₄, h₅, h₆⟩ := (Span.mem_pieces hlt).mp hc
  refine (mem_cells hqs).mpr ⟨?_, ?_, h₄, fun q hq hcq => ?_⟩
  · rcases h₁ with h₁ | h₁
    · exact (h _).mpr (.inr (h₁ ▸ hd₁))
    · exact (h _).mpr (.inl h₁)
  · rcases h₂ with h₂ | h₂
    · exact (h _).mpr (.inr (h₂ ▸ hd₂))
    · exact (h _).mpr (.inl h₂)
  · rcases (h q).mp hq with rfl | hq
    · exact le_of_not_gt fun k => h₆ ⟨hcq, k⟩
    · exact h₅.trans (hin q hq (h₃.trans_lt hcq))

theorem mem_pieces_of_mem_cells {ps qs : List Position} (hps : ps.Pairwise (· < ·))
    (hqs : qs.Pairwise (· < ·)) (h : ∀ q, q ∈ qs ↔ q = p ∨ q ∈ ps) {c d : Span}
    (hd : d ∈ cells ps) (hc : c ∈ cells qs) (hdc : d.Covers c.start) : c ∈ d.pieces p := by
  obtain ⟨-, hd₂, hlt, hin⟩ := (mem_cells hps).mp hd
  obtain ⟨h₁, h₂, hclt, hcin⟩ := (mem_cells hqs).mp hc
  have hstop : c.stop ≤ d.stop := hcin _ ((h _).mpr (.inr hd₂)) hdc.2
  refine (Span.mem_pieces hlt).mpr ⟨?_, ?_, hdc.1, hclt, hstop, fun k => ?_⟩
  · rcases (h _).mp h₁ with h₁ | h₁
    · exact .inr h₁
    · refine .inl (le_antisymm (le_of_not_gt fun k => ?_) hdc.1)
      exact absurd (hin _ h₁ k) hdc.2.not_ge
  · rcases (h _).mp h₂ with h₂ | h₂
    · exact .inr h₂
    · exact .inl (le_antisymm hstop (hin _ h₂ (hdc.1.trans_lt hclt)))
  · exact absurd (hcin p ((h p).mpr (.inl rfl)) k.1) k.2.not_ge

theorem segment_nonempty {s : Segment} (hs : s ∈ segments ts) : s.span.start < s.span.stop :=
  ((mem_cells (points_sorted _)).mp (mem_segments.mp hs).1).2.2.1

theorem starts_sorted (ts : List Token) :
    (segments ts).Pairwise fun a b => a.span.start < b.span.start := by
  apply (segments_sorted ts).imp_of_mem
  exact fun ha _ h => (segment_nonempty ha).trans_le h

theorem starts_cut_sorted (ts : List Token) (p : Position) :
    ((segments ts).flatMap (Segment.cutAt p)).Pairwise fun a b => a.span.start < b.span.start := by
  rw [List.pairwise_flatMap]
  constructor
  · intro s _
    unfold Segment.cutAt Span.pieces
    split
    · next h => simpa using h.1
    · simp
  · apply (segments_sorted ts).imp_of_mem
    intro a b ha hb hab x hx y hy
    obtain ⟨-, -, -, hx, hx', -⟩ :=
      (Span.mem_pieces (segment_nonempty ha)).mp (Segment.mem_cutAt.mp hx).1
    obtain ⟨-, -, hy, -⟩ := (Span.mem_pieces (segment_nonempty hb)).mp (Segment.mem_cutAt.mp hy).1
    exact ((hx.trans_le hx').trans_le hab).trans_le hy

theorem eq_of_starts_sorted {ss rs : List Segment}
    (hs : ss.Pairwise fun a b => a.span.start < b.span.start)
    (hr : rs.Pairwise fun a b => a.span.start < b.span.start)
    (h : ∀ s, s ∈ ss ↔ s ∈ rs) : ss = rs := by
  have nodup {l : List Segment} (hl : l.Pairwise fun a b => a.span.start < b.span.start) :
      l.Nodup := hl.imp fun hab he => absurd (congrArg (·.span.start) he) hab.ne
  refine List.Perm.eq_of_pairwise ?_ hs hr
    ((List.perm_ext_iff_of_nodup (nodup hs) (nodup hr)).mpr h)
  exact fun a b _ _ hab hba => absurd hab hba.not_gt

theorem segments_cut (hc : SameCover ts us)
    (hp : ∀ q, q ∈ points (tokens ts) ↔ q = p ∨ q ∈ points (tokens us)) :
    segments ts = (segments us).flatMap (Segment.cutAt p) := by
  apply eq_of_starts_sorted (starts_sorted ts) (starts_cut_sorted us p)
  intro s
  simp only [List.mem_flatMap, Segment.mem_cutAt]
  constructor
  · intro hs
    have hlt := segment_nonempty hs
    obtain ⟨hcell, hne, hmark⟩ := mem_segments.mp hs
    rw [hc _ hlt] at hne hmark
    -- some token is around the piece, so it lies in a cell of the smaller grid
    obtain ⟨t, ht⟩ := List.exists_mem_of_ne_nil _ hne
    obtain ⟨ht, htc⟩ := List.mem_filter.mp ht
    have htc := of_decide_eq_true htc
    obtain ⟨d, hd, hdc, -, -⟩ := exists_cell (points_sorted (tokens us))
      (mem_points.mpr ⟨t, ht, .inl rfl⟩) (mem_points.mpr ⟨t, ht, .inr rfl⟩) htc.1
      (hlt.trans_le htc.2)
    have piece := mem_pieces_of_mem_cells (points_sorted _) (points_sorted _) hp hd hcell hdc
    obtain ⟨-, -, h₁, -, h₂, -⟩ :=
      (Span.mem_pieces (hdc.1.trans_lt hdc.2)).mp piece
    have cover := covering_piece hd hlt h₁ h₂
    exact ⟨⟨d, s.mark⟩, mem_segments.mpr ⟨hd, cover ▸ hne, cover ▸ hmark⟩, piece, rfl⟩
  · rintro ⟨r, hr, piece, hmark'⟩
    obtain ⟨hcell, hne, hmark⟩ := mem_segments.mp hr
    obtain ⟨-, -, h₁, hlt, h₂, -⟩ := (Span.mem_pieces (segment_nonempty hr)).mp piece
    have cover := covering_piece hcell hlt h₁ h₂
    rw [mem_segments, hc _ hlt, cover, hmark']
    exact ⟨mem_cells_of_mem_pieces (points_sorted _) (points_sorted _) hp hcell piece, hne, hmark⟩

end

end Grid

/-- The partition of sorted tokens is the grid; a position that a token covers lies in one segment,
and no other position in any; a segment says field by field what the tokens around it say, in their
order; and a token without length cuts at its place. -/
theorem partition_sortTokens (ts : List Token) :
    partition (sortTokens ts) = Grid.segments ts ∧
    (∀ p, (partition (sortTokens ts)).countP (fun s => s.span.Covers p) =
      if ∃ t ∈ ts, t.span.Covers p then 1 else 0) ∧
    (∀ s ∈ partition (sortTokens ts),
      s.mark = Mark.total ((Grid.covering (Grid.tokens ts) s.span).map Token.mark)) ∧
    (∀ n p m, partition (sortTokens (ts.take n ++ ⟨⟨p, p⟩, m⟩ :: ts.drop n)) =
      (partition (sortTokens ts)).flatMap (Segment.cutAt p)) := by
  refine ⟨Grid.partition_eq ts, fun p => ?_, fun s hs => ?_, fun n p m => ?_⟩
  · rw [Grid.partition_eq]
    exact Grid.countP_covers ts p
  · rw [Grid.partition_eq] at hs
    rw [← Mark.merge_eq_total]
    exact (Grid.mem_segments.mp hs).2.2
  · rw [Grid.partition_eq, Grid.partition_eq]
    have cover := Grid.sameCover_empty (ts.take n) (ts.drop n) p m
    have points := Grid.mem_points_empty (ts.take n) (ts.drop n) p m
    rw [List.take_append_drop] at cover points
    exact Grid.segments_cut cover points

end Literate
