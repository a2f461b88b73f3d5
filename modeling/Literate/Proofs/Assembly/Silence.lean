import Literate.Proofs.Assembly.Conservation
import Literate.Proofs.Assembly.Ending

/-! What the absence of warnings says. A comment that the cursor has passed is never taken up, and the
assembly is stuck behind it, with a warning, as soon as no segment starts at the cursor. Only where
segments follow one another up to the end of the buffer is there no warning, and the comment is lost
all the same. -/

namespace Literate

/-- Segments leave no position out from `p` to the end of the buffer. -/
def Filled (lines : Buffer) (xs : List Segment) (p : Position) : Prop :=
  ∀ q, p ≤ q → q < lines.last → ∃ x ∈ xs, x.span.Covers q

theorem Filled.mono {lines : Buffer} {xs ys : List Segment} {p : Position} (h : Filled lines ys p)
    (hsub : ys ⊆ xs) :
    Filled lines xs p := by
  intro q hq hlast
  obtain ⟨y, hy, hcov⟩ := h q hq hlast
  exact ⟨y, hsub hy, hcov⟩

/-- Something reaches over the start of a comment that comes behind it, and from there on segments
fill the buffer: a segment that is not hidden itself, or a comment. -/
inductive Overrun (lines : Buffer) (xs : List Segment) (cs : List Comment) : Prop where
  | segment {x : Segment} {c : Comment} (hx : x ∈ xs) (hc : c ∈ cs)
      (first : x.span.start < c.span.start) (reaches : c.span.start < x.span.stop)
      (bare : ¬ x.span.HiddenBy cs) (filled : Filled lines xs x.span.stop)
  | comment {c d : Comment} (hcd : [c, d].Sublist cs) (reaches : d.span.start < c.span.stop)
      (filled : Filled lines xs c.span.stop)

namespace Assembly

variable {lines : Buffer} {stop : Position} {xs : List Segment} {cs : List Comment}
  {s t : Assembly} {n : Nat}

/-- Comments become prose in their order, and none is dropped. -/
theorem prose_step (lines : Buffer) (stop : Position) (s : Assembly) :
    proseOf (s.step lines stop).state.built.blocks ++
        (s.step lines stop).state.comments.map Comment.content =
      proseOf s.built.blocks ++ s.comments.map Comment.content := by
  have hbs : (s.fillGap lines stop).built.blocks = s.built.blocks := fillGap_blocks
  have hcs : (s.fillGap lines stop).comments = s.comments := fillGap_comments
  rw [step_eq, ← hbs, ← hcs]
  generalize s.fillGap lines stop = g
  rcases takeEvent_cases lines stop g with ⟨c, cs, hs, -, he⟩ | ⟨-, x, xs, -, -, he⟩ |
    ⟨-, -, -, he⟩ | ⟨-, -, -, he⟩
  · rw [he, hs]
    simp only [Progress.state, takeComment, Builder.blocks_addProse, proseOf_append,
      proseOf_ofRuns, List.map_cons, List.append_assoc]
    rfl
  · rw [he]; rfl
  · rw [he]; rfl
  · rw [he]; rfl

/-- What is prose at the end, and what is left over, are all comments. -/
theorem Ends.prose (h : Ends lines stop n s t) :
    proseOf t.built.close.blocks ++ t.comments.map Comment.content =
      proseOf s.built.blocks ++ s.comments.map Comment.content := by
  have run := run_invariant
    (P := fun t => proseOf t.built.blocks ++ t.comments.map Comment.content =
      proseOf s.built.blocks ++ s.comments.map Comment.content)
    (fun t ht => (prose_step lines stop t).trans ht) (n + 1) rfl
  rw [h.run (Nat.lt_succ_self n)] at run
  rwa [Builder.blocks_close, proseOf_append, proseOf_ofRuns, List.append_nil]

/-- the cursor has passed the start of a comment still to come -/
def Missed (s : Assembly) : Prop := ∃ c ∈ s.comments, c.span.start < s.cursor

/-- it has, or it will when another comment is taken up -/
def Doomed (s : Assembly) : Prop :=
  s.Missed ∨ ∃ c d, [c, d].Sublist s.comments ∧ d.span.start < c.span.stop

theorem Doomed.mono (h : s.Doomed) (hcs : t.comments = s.comments) (hle : s.cursor ≤ t.cursor) :
    t.Doomed := by
  rcases h with ⟨c, hc, hlt⟩ | ⟨c, d, hcd, hlt⟩
  · exact .inl ⟨c, hcs ▸ hc, hlt.trans_le hle⟩
  · exact .inr ⟨c, d, hcs ▸ hcd, hlt⟩

/-- The comment that is taken up is not the one that is missed. -/
theorem Inside.doomed_step (h : Inside lines s) (hd : s.Doomed) :
    (s.step lines lines.last).state.Doomed := by
  obtain ⟨hle, hin⟩ := h.fillGap
  have hg := hd.mono (t := s.fillGap lines lines.last) fillGap_comments hle
  obtain ⟨hle', -⟩ := hin.takeEvent
  rw [step_eq]
  generalize s.fillGap lines lines.last = g at hin hg hle'
  rcases takeEvent_cases lines lines.last g with ⟨c, cs, hs, hat, he⟩ | ⟨-, x, xs, -, -, he⟩ |
    ⟨-, -, -, he⟩ | ⟨-, -, -, he⟩
  · rw [he] at hle' ⊢
    rcases hg with ⟨d, hd, hlt⟩ | ⟨d, e, hde, hlt⟩
    · rw [hs] at hd
      rcases List.mem_cons.mp hd with rfl | hd
      · exact absurd hat hlt.ne
      · exact .inl ⟨d, hd, hlt.trans_le hle'⟩
    · rw [hs] at hde
      rcases List.cons_sublist_cons'.mp hde with hrest | ⟨rfl, hrest⟩
      · exact .inr ⟨d, e, hrest, hlt⟩
      · exact .inl ⟨e, List.singleton_sublist.mp hrest, hlt⟩
  · rw [he] at hle' ⊢
    exact hg.mono rfl hle'
  · rw [he]
    exact hg
  · rw [he] at hle' ⊢
    exact hg.mono rfl hle'

theorem Ends.doomed (h : Ends lines lines.last n s t) (hin : Inside lines s) (hd : s.Doomed) :
    t.Doomed := by
  have run := run_invariant (P := fun t => Inside lines t ∧ t.Doomed)
    (fun t ⟨ht, hdt⟩ => ⟨ht.step.2, ht.doomed_step hdt⟩) (n + 1) ⟨hin, hd⟩
  rw [h.run (Nat.lt_succ_self n)] at run
  exact run.2

theorem Doomed.comments_ne_nil (h : s.Doomed) : s.comments ≠ [] := by
  rcases h with ⟨c, hc, -⟩ | ⟨c, d, hcd, -⟩
  · exact List.ne_nil_of_mem hc
  · exact List.ne_nil_of_mem (hcd.subset List.mem_cons_self)

theorem Ends.notices_prefix (h : Ends lines stop n s t) : s.notices <+: t.notices :=
  h.run (Nat.lt_succ_self n) ▸ notices_prefix_run (n + 1)

/-- A step that gives a warning is no step of an assembly without one. -/
theorem Ends.ne_forceAdvance (h : Ends lines stop n (s.forceAdvance lines stop) t) :
    t.notices ≠ s.notices := by
  intro heq
  have hle := h.notices_prefix.length_le
  rw [heq, forceAdvance, List.length_append, List.length_singleton] at hle
  omega

/-- In front of a missed comment there is no gap left. -/
theorem Missed.ahead (h : s.Missed)
    (hs : s.comments.Pairwise fun a b => a.span.start ≤ b.span.start) :
    s.fillGap lines stop = s ∧ ∀ c cs, s.comments = c :: cs → c.span.start < s.cursor := by
  obtain ⟨d, hd, hlt⟩ := h
  have first : ∀ c cs, s.comments = c :: cs → c.span.start < s.cursor := by
    intro c cs hcs
    rw [hcs] at hd hs
    rcases List.mem_cons.mp hd with rfl | hd
    · exact hlt
    · exact ((List.pairwise_cons.mp hs).1 d hd).trans_lt hlt
  obtain ⟨c, cs, hcs⟩ := List.exists_cons_of_ne_nil (List.ne_nil_of_mem hd)
  exact ⟨fillGap_of_le ((gapEnd_le_comment hcs).trans (first c cs hcs).le), first⟩

/-- Without a warning there are segments from the cursor, which has passed a comment, to the end. -/
theorem Ends.filled (h : Ends lines lines.last n s t) (hm : s.Missed) (hin : Inside lines s)
    (hs : s.comments.Pairwise fun a b => a.span.start ≤ b.span.start)
    (hn : t.notices = s.notices) : Filled lines s.segments s.cursor := by
  induction n using Nat.strong_induction_on generalizing s with
  | _ n ih =>
    obtain ⟨hfill, hfirst⟩ := @Missed.ahead lines lines.last s hm hs
    have hin' := hin.takeEvent.2
    rcases h.first hfill with ⟨c, cs, -, hcs, hat, -⟩ | ⟨hno, x, xs, m, hx, hat, rfl, k⟩ |
      ⟨-, -, hle, -⟩ | ⟨-, -, -, m, -, k⟩
    · exact absurd hat (hfirst c cs hcs).ne
    · have hv := (hin.segments x (by simp [hx])).valid
      obtain ⟨c, hc, hlt⟩ := hm
      rw [takeEvent_segment hno hx hat] at hin'
      have rest := ih m (Nat.lt_succ_self m) k ⟨c, hc, hlt.trans_le (hat ▸ hv)⟩ hin' hs hn
      intro q hq hlast
      rcases lt_or_ge q x.span.stop with hlt | hge
      · exact ⟨x, by simp [hx], hat ▸ hq, hlt⟩
      · obtain ⟨y, hy, hcov⟩ := rest q hge hlast
        exact ⟨y, hx ▸ List.mem_cons_of_mem _ hy, hcov⟩
    · exact fun q hq hlt => absurd (hq.trans_lt hlt) hle.not_gt
    · exact absurd hn k.ne_forceAdvance

/-- Where an assembly of `xs` and `cs` stands that has not missed a comment: the comments taken up
stop in front of the cursor, and the others start behind it. -/
structure Follows (lines : Buffer) (xs : List Segment) (cs : List Comment) (s : Assembly) : Prop where
  inside : Inside lines s
  segments : s.segments ⊆ xs
  comments : ∃ taken, cs = taken ++ s.comments ∧ ∀ c ∈ taken, c.span.stop ≤ s.cursor
  sorted : s.comments.Pairwise fun a b => a.span.start ≤ b.span.start
  reached : ¬ s.Missed

theorem Follows.le_start (h : Follows lines xs cs s) : ∀ c ∈ s.comments, s.cursor ≤ c.span.start :=
  fun c hc => le_of_not_gt fun hlt => h.reached ⟨c, hc, hlt⟩

theorem Follows.fillGap (h : Follows lines xs cs s) :
    Follows lines xs cs (s.fillGap lines lines.last) := by
  obtain ⟨hle, hin⟩ := h.inside.fillGap
  obtain ⟨taken, heq, htaken⟩ := h.comments
  have same : (s.fillGap lines lines.last).comments = s.comments := fillGap_comments
  refine ⟨hin, ?_, ⟨taken, same ▸ heq, fun c hc => (htaken c hc).trans hle⟩, same ▸ h.sorted, ?_⟩
  · rw [fillGap_segments]
    exact h.segments
  · rintro ⟨c, hc, hlt⟩
    rw [fillGap_cursor, lt_max_iff] at hlt
    rw [same] at hc
    rcases hlt with hlt | hlt
    · exact h.reached ⟨c, hc, hlt⟩
    · have sorted := h.sorted
      obtain ⟨d, ds, hd⟩ := List.exists_cons_of_ne_nil (List.ne_nil_of_mem hc)
      have hgap := hlt.trans_le (gapEnd_le_comment hd)
      rw [hd] at hc sorted
      rcases List.mem_cons.mp hc with rfl | hc
      · exact lt_irrefl _ hgap
      · exact absurd ((List.pairwise_cons.mp sorted).1 c hc) hgap.not_ge

theorem Follows.takeComment {c : Comment} {ds : List Comment} (h : Follows lines xs cs s)
    (hs : s.comments = c :: ds) (hat : c.span.start = s.cursor)
    (hm : ¬ (s.takeComment c ds).Missed) : Follows lines xs cs (s.takeComment c ds) := by
  have hin := (@Inside.takeEvent lines s h.inside).2
  rw [takeEvent_comment hs hat] at hin
  obtain ⟨taken, heq, htaken⟩ := h.comments
  have sorted := h.sorted
  rw [hs] at heq sorted
  refine ⟨hin, fun y hy => h.segments ((List.dropWhile_suffix _).subset hy),
    ⟨taken ++ [c], by simp [heq, Assembly.takeComment], ?_⟩, (List.pairwise_cons.mp sorted).2, hm⟩
  intro d hd
  rcases List.mem_append.mp hd with hd | hd
  · exact (htaken d hd).trans (hat ▸ (h.inside.comments c (by simp [hs])).valid)
  · rw [List.mem_singleton.mp hd]
    exact le_rfl

theorem Follows.takeSegment {x : Segment} {ys : List Segment} (h : Follows lines xs cs s)
    (hs : s.segments = x :: ys) (hat : x.span.start = s.cursor)
    (hno : s.nextComment ≠ some s.cursor) (hm : ¬ (s.takeSegment lines x ys).Missed) :
    Follows lines xs cs (s.takeSegment lines x ys) := by
  have hin := (@Inside.takeEvent lines s h.inside).2
  rw [takeEvent_segment hno hs hat] at hin
  obtain ⟨taken, heq, htaken⟩ := h.comments
  refine ⟨hin, fun y hy => h.segments (hs ▸ List.mem_cons_of_mem _ hy),
    ⟨taken, heq, fun c hc => (htaken c hc).trans ?_⟩, h.sorted, hm⟩
  exact hat ▸ (h.inside.segments x (by simp [hs])).valid

/-- No comment starts where a segment is taken up. -/
theorem Follows.lt_start (h : Follows lines xs cs s) (hno : s.nextComment ≠ some s.cursor) :
    ∀ c ∈ s.comments, s.cursor < c.span.start := by
  intro c hc
  have sorted := h.sorted
  obtain ⟨d, ds, hd⟩ := List.exists_cons_of_ne_nil (List.ne_nil_of_mem hc)
  have hne : s.cursor ≠ d.span.start := fun k =>
    hno (nextComment_eq_some.mpr ⟨d, ds, hd, k.symm⟩)
  have hlt := lt_of_le_of_ne (h.le_start d (by simp [hd])) hne
  rw [hd] at hc sorted
  rcases List.mem_cons.mp hc with rfl | hc
  · exact hlt
  · exact hlt.trans_le ((List.pairwise_cons.mp sorted).1 c hc)

/-- A segment that is taken up shows: its first position lies in no comment. -/
theorem Follows.bare {x : Segment} (h : Follows lines xs cs s)
    (hno : s.nextComment ≠ some s.cursor) (hat : x.span.start = s.cursor)
    (hx : x.span.start < x.span.stop) : ¬ x.span.HiddenBy cs := by
  intro hhid
  obtain ⟨c, hc, hstart, hstop⟩ := hhid x.span.start ⟨le_rfl, hx⟩
  rw [hat] at hstart hstop
  obtain ⟨taken, heq, htaken⟩ := h.comments
  rw [heq] at hc
  rcases List.mem_append.mp hc with hc | hc
  · exact absurd hstop (htaken c hc).not_gt
  · exact absurd (h.lt_start hno c hc) hstart.not_gt

/-- At the end a comment that has not been missed is taken up. -/
theorem Follows.comments_eq_nil (h : Follows lines xs cs s)
    (hno : s.nextComment ≠ some s.cursor) (hle : lines.last ≤ s.cursor) : s.comments = [] := by
  rw [List.eq_nil_iff_forall_not_mem]
  intro c hc
  exact absurd ((h.inside.comments c hc).start.le_last.trans hle) (h.lt_start hno c hc).not_ge

theorem Follows.overrun_comment {c : Comment} {ds : List Comment} (h : Follows lines xs cs s)
    (hs : s.comments = c :: ds) (hm : (s.takeComment c ds).Missed)
    (hf : Filled lines xs c.span.stop) : Overrun lines xs cs := by
  obtain ⟨d, hd, hlt⟩ := hm
  obtain ⟨taken, heq, -⟩ := h.comments
  refine .comment ?_ hlt hf
  rw [heq, hs]
  exact ((List.singleton_sublist.mpr hd).cons_cons c).trans (List.sublist_append_right _ _)

theorem Follows.overrun_segment {x : Segment} {ys : List Segment} (h : Follows lines xs cs s)
    (hs : s.segments = x :: ys) (hat : x.span.start = s.cursor)
    (hno : s.nextComment ≠ some s.cursor) (hm : (s.takeSegment lines x ys).Missed)
    (hf : Filled lines xs x.span.stop) : Overrun lines xs cs := by
  obtain ⟨d, hd, hlt⟩ := hm
  obtain ⟨taken, heq, -⟩ := h.comments
  have first : x.span.start < d.span.start := hat ▸ h.lt_start hno d hd
  exact .segment (h.segments (by simp [hs])) (heq ▸ List.mem_append_right _ hd) first hlt
    (h.bare hno hat (first.trans hlt)) hf

/-- A comment that is left over was run over, if there is no warning. -/
theorem Ends.overrun (h : Ends lines lines.last n s t) (hf : Follows lines xs cs s)
    (hn : t.notices = s.notices) (ht : t.comments ≠ []) : Overrun lines xs cs := by
  induction n using Nat.strong_induction_on generalizing s with
  | _ n ih =>
    have hg := hf.fillGap
    have hin := hg.inside.takeEvent.2
    have hn' : t.notices = (s.fillGap lines lines.last).notices := by rw [hn, fillGap_notices]
    generalize hfill : s.fillGap lines lines.last = g at hg hin hn'
    have sorted := hg.sorted
    rcases h.first hfill with ⟨c, ds, m, hs, hat, rfl, k⟩ | ⟨hno, x, ys, m, hs, hat, rfl, k⟩ |
      ⟨hno, -, hle, rfl⟩ | ⟨-, -, -, m, -, k⟩
    · rw [takeEvent_comment hs hat] at hin
      rw [hs] at sorted
      by_cases hm : (g.takeComment c ds).Missed
      · have hfilled := k.filled hm hin (List.pairwise_cons.mp sorted).2 hn'
        refine hg.overrun_comment hs hm (hfilled.mono fun y hy => ?_)
        exact hg.segments ((List.dropWhile_suffix _).subset hy)
      · exact ih m (Nat.lt_succ_self m) k (hg.takeComment hs hat hm) hn'
    · rw [takeEvent_segment hno hs hat] at hin
      by_cases hm : (g.takeSegment lines x ys).Missed
      · have hfilled := k.filled hm hin sorted hn'
        refine hg.overrun_segment hs hat hno hm (hfilled.mono fun y hy => ?_)
        exact hg.segments (hs ▸ List.mem_cons_of_mem _ hy)
      · exact ih m (Nat.lt_succ_self m) k (hg.takeSegment hs hat hno hm) hn'
    · exact absurd (hg.comments_eq_nil hno hle) ht
    · exact absurd hn' k.ne_forceAdvance

end Assembly

section

variable {lines : Buffer} {xs : List Segment} {cs : List Comment}

theorem Assembly.Ends.prose_eq_iff {stop : Position} {n : Nat} {t : Assembly}
    (h : Assembly.Ends lines stop n { segments := xs, comments := cs } t) :
    proseOf t.built.close.blocks = cs.map Comment.content ↔ t.comments = [] := by
  have hprose : proseOf t.built.close.blocks ++ t.comments.map Comment.content =
      cs.map Comment.content := h.prose
  constructor
  · intro heq
    rw [heq, List.append_right_eq_self] at hprose
    exact List.map_eq_nil_iff.mp hprose
  · intro hnil
    rw [← hprose, hnil, List.map_nil, List.append_nil]

/-- All comments become prose only if each stops in front of the next ones. -/
theorem pairwise_of_prose (hne : lines ≠ []) (hx : ∀ x ∈ xs, lines.Within x.span)
    (hc : ∀ c ∈ cs, lines.Within c.span)
    (h : proseOf (assemble lines xs cs).1 = cs.map Comment.content) :
    cs.Pairwise fun a b => a.span.stop ≤ b.span.start := by
  obtain ⟨n, t, hends, heq⟩ := assemble_ends hx hc
  rw [heq] at h
  rw [List.pairwise_iff_forall_sublist]
  intro c d hcd
  by_contra hlt
  have doomed := hends.doomed (inside_start hne hx hc) (.inr ⟨c, d, hcd, lt_of_not_ge hlt⟩)
  exact doomed.comments_ne_nil (hends.prose_eq_iff.mp h)

/-- Without a warning all comments become prose, unless one is run over. -/
theorem prose_of_not_overrun (hne : lines ≠ []) (hx : ∀ x ∈ xs, lines.Within x.span)
    (hc : ∀ c ∈ cs, lines.Within c.span)
    (hcs : cs.Pairwise fun a b => a.span.start ≤ b.span.start)
    (hn : (assemble lines xs cs).2 = []) (h : ¬ Overrun lines xs cs) :
    proseOf (assemble lines xs cs).1 = cs.map Comment.content := by
  obtain ⟨n, t, hends, heq⟩ := assemble_ends hx hc
  rw [heq] at hn ⊢
  rw [hends.prose_eq_iff]
  by_contra hleft
  refine h (hends.overrun ⟨inside_start hne hx hc, List.Subset.refl _, ⟨[], rfl, by simp⟩, hcs, ?_⟩
    hn hleft)
  rintro ⟨c, hm, hlt⟩
  exact absurd (hc c hm).start.zero_le hlt.not_ge

/-- Nothing that is run over is compatible. -/
theorem Ordered.not_overrun (h : Ordered lines xs cs) (hc : Compatible xs cs) :
    ¬ Overrun lines xs cs := by
  rintro (⟨hx, hm, first, reaches, bare, -⟩ | ⟨hcd, reaches, -⟩)
  · rcases (hc _ hx).resolve_right bare _ hm with hap | hap
    · exact absurd hap reaches.not_ge
    · exact absurd ((h.comment _ hm).valid.trans hap) first.not_ge
  · exact absurd (List.pairwise_iff_forall_sublist.mp h.comments hcd) reaches.not_ge

end

/-- Segments with text in order and disjoint, comments in the order of their starts, and no warning:
nothing is lost, unless a comment is run over up to the end of the buffer. -/
theorem assemble_silent_lossless_iff {lines : Buffer} {xs : List Segment} {cs : List Comment}
    (hx : ∀ x ∈ xs, lines.Within x.span ∧ x.span.start < x.span.stop)
    (hxs : xs.Pairwise fun a b => a.span.start ≤ b.span.start)
    (hxd : xs.Pairwise fun a b => a.span.Apart b.span)
    (hc : ∀ c ∈ cs, lines.Within c.span)
    (hcs : cs.Pairwise fun a b => a.span.start ≤ b.span.start)
    (hn : (assemble lines xs cs).2 = []) :
    Lossless lines cs (assemble lines xs cs) ↔ ¬ Overrun lines xs cs := by
  rcases eq_or_ne lines [] with rfl | hne
  · obtain rfl : xs = [] := Buffer.eq_nil_of_within fun x hm => (hx x hm).1
    obtain rfl : cs = [] := Buffer.eq_nil_of_within hc
    refine ⟨fun _ => ?_, fun _ => ⟨rfl, rfl, rfl⟩⟩
    rintro (⟨hx, -⟩ | ⟨hcd, -⟩)
    · exact absurd hx List.not_mem_nil
    · simp at hcd
  have within := fun x hm => (hx x hm).1
  have ordered (hp : proseOf (assemble lines xs cs).1 = cs.map Comment.content) :
      Ordered lines xs cs :=
    ⟨hx, pairwise_stop_le_of_lt (fun x hm => (hx x hm).2) hxs hxd, hc,
      pairwise_of_prose hne within hc hp⟩
  constructor
  · intro h
    have ho := ordered h.prose
    exact ho.not_overrun ((assemble_lossless_iff hne ho).mp h)
  · intro h
    have hp := prose_of_not_overrun hne within hc hcs hn h
    have ho := ordered hp
    rw [assemble_lossless_iff hne ho, ← ho.unhindered_iff]
    apply (ho.steady hne).unhindered_of_run (Assembly.length_lt_enough lines xs cs) hn
    rw [Assembly.due, proseOf_append, proseOf_layoutFrom]
    exact hp

/-- A segment over the end of one comment and the start of the next lies under them. -/
theorem assemble_silent_hidden :
    Lossless [['a', 'b', 'c', 'd']] [⟨⟨⟨0, 0⟩, ⟨0, 2⟩⟩, "a"⟩, ⟨⟨⟨0, 2⟩, ⟨0, 4⟩⟩, "b"⟩]
      (assemble [['a', 'b', 'c', 'd']] [⟨⟨⟨0, 1⟩, ⟨0, 3⟩⟩, {}⟩]
        [⟨⟨⟨0, 0⟩, ⟨0, 2⟩⟩, "a"⟩, ⟨⟨⟨0, 2⟩, ⟨0, 4⟩⟩, "b"⟩]) := by
  refine (assemble_silent_lossless_iff (by decide) (by decide) (by decide) (by decide) (by decide)
    (by decide)).mpr ?_
  have ordered : Ordered [['a', 'b', 'c', 'd']] [⟨⟨⟨0, 1⟩, ⟨0, 3⟩⟩, {}⟩]
      [⟨⟨⟨0, 0⟩, ⟨0, 2⟩⟩, "a"⟩, ⟨⟨⟨0, 2⟩, ⟨0, 4⟩⟩, "b"⟩] :=
    ⟨by decide, by decide, by decide, by decide⟩
  refine ordered.not_overrun fun x hx => .inr fun q hq => ?_
  rw [List.mem_singleton.mp hx] at hq
  rcases lt_or_ge q ⟨0, 2⟩ with hlt | hge
  · exact ⟨⟨⟨⟨0, 0⟩, ⟨0, 2⟩⟩, "a"⟩, by simp, le_trans (by decide) hq.1, hlt⟩
  · exact ⟨⟨⟨⟨0, 2⟩, ⟨0, 4⟩⟩, "b"⟩, by simp, hge, hq.2.trans (by decide)⟩

/-- A segment over the start of a comment and up to the end: the comment is lost without a word. -/
theorem prose_lost_at_end :
    ∃ (lines : Buffer) (xs : List Segment) (cs : List Comment),
      (∀ x ∈ xs, lines.Within x.span ∧ x.span.start < x.span.stop) ∧
      (∀ c ∈ cs, lines.Within c.span) ∧
      xs.Pairwise (fun a b => a.span.stop ≤ b.span.start) ∧
      cs.Pairwise (fun a b => a.span.stop ≤ b.span.start) ∧
      (assemble lines xs cs).2 = [] ∧
      proseOf (assemble lines xs cs).1 ≠ cs.map Comment.content :=
  ⟨[['a', 'b', 'c']], [⟨⟨⟨0, 0⟩, ⟨0, 3⟩⟩, {}⟩], [⟨⟨⟨0, 1⟩, ⟨0, 2⟩⟩, "b"⟩], by decide, by decide,
    by decide, by decide, by decide, by decide⟩

end Literate
