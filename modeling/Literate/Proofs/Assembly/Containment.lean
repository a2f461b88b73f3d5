import Literate.Proofs.Assembly.Conservation
import Literate.Proofs.Assembly.Ending

/-! What a segment that reaches over the end of a comment spoils. The assembly is stuck behind that
comment and moves on one place at a time, until it stands at the next comment; the segment is dropped
there, and all goes on as if it had not been. So one region loses its code, and no other. -/

namespace Literate

/-- A segment starts in front of the position and stops behind it. -/
def Straddled (xs : List Segment) (p : Position) : Prop :=
  ∃ x ∈ xs, x.span.start < p ∧ p < x.span.stop

instance (xs : List Segment) (p : Position) : Decidable (Straddled xs p) :=
  inferInstanceAs (Decidable (∃ x ∈ xs, _ ∧ _))

/-- the segments that do not reach over the end of a comment -/
def unbroken (cs : List Comment) (xs : List Segment) : List Segment :=
  xs.filter fun x => ∀ c ∈ cs, ¬ (x.span.start < c.span.stop ∧ c.span.stop < x.span.stop)

/-- No segment reaches over the start of a comment. -/
def Clear (xs : List Segment) (cs : List Comment) : Prop :=
  ∀ x ∈ xs, ∀ c ∈ cs, ¬ (x.span.start < c.span.start ∧ c.span.start < x.span.stop)

instance (xs : List Segment) (cs : List Comment) : Decidable (Clear xs cs) :=
  inferInstanceAs (Decidable (∀ x ∈ xs, ∀ c ∈ cs, _))

/-- The region, without its code if a segment reaches over its start. -/
def Region.salvaged (lines : Buffer) (xs : List Segment) (r : Region) : List Block :=
  (if Straddled xs r.span.start then [] else Block.ofRuns (r.runs lines xs)) ++ r.prose

namespace Assembly

variable {lines : Buffer} {s t : Assembly} {n : Nat} {x : Segment} {xs : List Segment} {c : Comment}
  {cs : List Comment}

/-- A stuck assembly creeps on to each position up to the next comment. -/
theorem Ends.creep (h : Ends lines lines.last n s t) (hin : Inside lines s)
    (hx : s.segments = x :: xs) (hlt : x.span.start < s.cursor) {e : Position} (he : lines.Holds e)
    (hle : s.cursor ≤ e) (hno : ∀ q, q < e → s.nextComment ≠ some q) :
    ∃ m ns, Ends lines lines.last m { s with cursor := e, notices := s.notices ++ ns } t := by
  -- each warning moves the cursor on by one place, so the induction is on the places up to `e`
  induction hd : lines.offset e - lines.offset s.cursor generalizing n s with
  | zero =>
    have hcur : s.cursor = e := by
      refine le_antisymm hle ((Buffer.offset_le_iff he hin.cursor).mp ?_)
      omega
    refine ⟨n, [], ?_⟩
    rw [List.append_nil, ← hcur]
    exact h
  | succ d ih =>
    have hlt' : s.cursor < e := by
      rw [← Buffer.offset_lt_iff hin.cursor he]
      omega
    have hlast : s.cursor < lines.last := hlt'.trans_le he.le_last
    have hfill : s.fillGap lines lines.last = s := fillGap_of_le ((gapEnd_le_segment hx).trans hlt.le)
    rcases h.first hfill with ⟨c, cs, -, hs, hat, -⟩ | ⟨-, y, ys, -, hy, hat, -⟩ | ⟨-, -, hend, -⟩ |
      ⟨-, -, -, m, -, k⟩
    · exact absurd (nextComment_eq_some.mpr ⟨c, cs, hs, hat⟩) (hno _ hlt')
    · obtain ⟨rfl, rfl⟩ := List.cons.inj (hx.symm.trans hy)
      exact absurd hat hlt.ne
    · exact absurd hend hlast.not_ge
    · obtain ⟨hadv, hoff⟩ := Buffer.advance_spec hin.cursor hlast
      have hin' : Inside lines (s.forceAdvance lines lines.last) :=
        ⟨hadv, hin.segments, hin.comments⟩
      have further : s.cursor ≤ (s.forceAdvance lines lines.last).cursor :=
        (Buffer.lt_advance hlast).1.le
      obtain ⟨m, ns, k'⟩ := ih k hin' hx (hlt.trans_le further)
        ((Buffer.offset_le_iff hadv he).mp (by omega)) hno
        (by simp only [forceAdvance]; omega)
      refine ⟨m, .stalled s.cursor s.nextSegment s.nextComment :: ns, ?_⟩
      simpa [forceAdvance] using k'

/-- What starts in front of the cursor comes first, and reaches over the cursor. -/
theorem Pending.straddled_iff {p : Position} (h : Pending lines p xs cs) :
    Straddled xs p ↔ ∃ x ys, xs = x :: ys ∧ x.span.start < p := by
  constructor
  · rintro ⟨x, hx, hlt, -⟩
    obtain ⟨y, ys, rfl⟩ := List.exists_cons_of_ne_nil (List.ne_nil_of_mem hx)
    refine ⟨y, ys, rfl, ?_⟩
    rcases List.mem_cons.mp hx with rfl | hx
    · exact hlt
    · have hord := (List.pairwise_cons.mp h.ordered.segments).1 x hx
      exact absurd (hord.trans hlt.le) (h.segment y (by simp)).not_ge
  · rintro ⟨x, ys, rfl, hlt⟩
    exact ⟨x, by simp, hlt, h.segment x (by simp)⟩

theorem Pending.le_start {p : Position} (h : Pending lines p xs cs) (hs : ¬ Straddled xs p) :
    ∀ x ∈ xs, p ≤ x.span.start :=
  fun x hx => le_of_not_gt fun hlt => hs ⟨x, hx, hlt, h.segment x hx⟩

/-- The assembly stands where a region starts, and no segment reaches over the start of a comment. -/
structure Fresh (lines : Buffer) (s : Assembly) : Prop where
  steady : Steady lines s
  closed : s.built.open? = []
  clear : Clear s.segments s.comments

/-- The next comment is taken up, and what stops in it is dropped. -/
structure Passed (lines : Buffer) (s : Assembly) (c : Comment) (cs : List Comment) (u : Assembly) :
    Prop where
  steady : Steady lines u
  closed : u.built.open? = []
  comments : u.comments = cs
  cursor : u.cursor = c.span.stop
  segments : u.segments = s.segments.dropWhile fun x => x.span.stop ≤ c.span.stop

theorem Fresh.of_passed {u : Assembly} (h : Fresh lines s) (hc : s.comments = c :: cs)
    (hu : Passed lines s c cs u) : Fresh lines u := by
  refine ⟨hu.steady, hu.closed, fun x hx d hd => h.clear x ?_ d ?_⟩
  · rw [hu.segments] at hx
    exact (List.dropWhile_suffix _).subset hx
  · rw [hu.comments] at hd
    exact hc ▸ List.mem_cons_of_mem _ hd

/-- What is due up to a comment and behind it does not change until the comment is taken up. -/
theorem Ends.take_region (h : Ends lines lines.last n s t) (hs : Steady lines s)
    (hc : s.comments = c :: cs) (hclear : Clear s.segments s.comments)
    (hp : ∀ x ∈ s.segments, s.cursor ≤ x.span.start) :
    ∃ m u, Ends lines lines.last m u t ∧ Passed lines s c cs u ∧ u.due lines = s.due lines := by
  -- the segments in front of the comment go one by one
  induction hl : s.segments.length using Nat.strong_induction_on generalizing n s with
  | _ l ih =>
    rcases hs.pending.next with ⟨-, hnone⟩ | ⟨d, ds, hd, hx⟩ | ⟨x, xs, hseg, hx⟩
    · rw [hnone] at hc
      cases hc
    · obtain ⟨rfl, rfl⟩ := List.cons.inj (hc.symm.trans hd)
      have taken := hs.step_comment hc hx
      obtain ⟨m, -, k⟩ := h.of_more taken.step
      exact ⟨m, _, k, ⟨taken.steady, Builder.open?_addProse _ _, rfl, rfl, rfl⟩, taken.due⟩
    · have hmem : x ∈ s.segments := by simp [hseg]
      obtain ⟨hp', hlt⟩ := hx.resolve_right fun k => absurd (hp x hmem) k.1.not_ge
      have hstop : ∀ d ∈ s.comments, x.span.stop ≤ d.span.start := fun d hd =>
        le_of_not_gt fun k => hclear x hmem d hd ⟨hlt d hd, k⟩
      have taken := hs.step_segment hseg hp' fun d hd => ⟨hlt d hd, hstop d hd⟩
      obtain ⟨m, -, k⟩ := h.of_more taken.step
      have behind := hs.pending.ordered.segments
      rw [hseg] at behind
      obtain ⟨m, u, k', hu, hdue⟩ := ih xs.length (by simp [← hl, hseg]) k taken.steady hc
        (fun y hy => hclear y (hseg ▸ List.mem_cons_of_mem _ hy))
        (List.pairwise_cons.mp behind).1 rfl
      have hle : x.span.stop ≤ c.span.stop :=
        (hstop c (by simp [hc])).trans (hs.pending.ordered.comment c (by simp [hc])).valid
      refine ⟨m, u, k', ⟨hu.steady, hu.closed, hu.comments, hu.cursor, ?_⟩, hdue.trans taken.due⟩
      rw [hu.segments, hseg, List.dropWhile_cons_of_pos (by simpa using hle)]
      rfl

end Assembly

section

variable {lines : Buffer} {p : Position} {xs ys : List Segment} {cs : List Comment} {r : Region}

theorem Region.salvaged_of_straddled (h : Straddled xs r.span.start) :
    r.salvaged lines xs = r.prose := by
  rw [salvaged, if_pos h, List.nil_append]

theorem Region.salvaged_of_not_straddled (h : ¬ Straddled xs r.span.start) :
    r.salvaged lines xs = Block.ofRuns (r.runs lines xs) ++ r.prose := by
  rw [salvaged, if_neg h]

/-- Segments that stop in front of a region neither reach over its start nor are in it. -/
theorem Region.salvaged_append_of_le
    (hy : ∀ y ∈ ys, y.span.start < y.span.stop ∧ y.span.stop ≤ r.span.start) :
    r.salvaged lines (ys ++ xs) = r.salvaged lines xs := by
  have reach : Straddled (ys ++ xs) r.span.start ↔ Straddled xs r.span.start := by
    constructor
    · rintro ⟨x, hx, hlt, hstop⟩
      rcases List.mem_append.mp hx with hx | hx
      · exact absurd (hy x hx).2 hstop.not_ge
      · exact ⟨x, hx, hlt, hstop⟩
    · rintro ⟨x, hx, h⟩
      exact ⟨x, List.mem_append_right _ hx, h⟩
  have same : inside r.span (ys ++ xs) = inside r.span xs := inside_append_of_le hy
  simp only [salvaged, runs, reach, same]

end

namespace Assembly

variable {lines : Buffer} {s t : Assembly} {n : Nat} {c : Comment} {cs : List Comment}

/-- The region in front of a comment, when nothing reaches over its start. -/
theorem Ends.whole_region (h : Ends lines lines.last n s t) (hs : Fresh lines s)
    (hc : s.comments = c :: cs) (hp : ¬ Straddled s.segments s.cursor) :
    ∃ m u, Ends lines lines.last m u t ∧ Passed lines s c cs u ∧
      u.built.blocks = s.built.blocks ++
        Region.salvaged lines s.segments ⟨⟨s.cursor, c.span.start⟩, some c⟩ := by
  obtain ⟨m, u, k, hu, hdue⟩ :=
    h.take_region hs.steady hc hs.clear (hs.steady.pending.le_start hp)
  refine ⟨m, u, k, hu, ?_⟩
  have pending : Pending lines s.cursor s.segments (c :: cs) := hc ▸ hs.steady.pending
  rw [due, due, hu.closed, hu.cursor, hu.segments, hu.comments, hs.closed, hc, layoutFrom,
    pending.ordered.layoutFrom_dropWhile, List.nil_append, ← List.singleton_append,
    ← List.append_assoc, ← List.append_assoc] at hdue
  rw [Region.salvaged_of_not_straddled hp, ← List.append_assoc]
  exact List.append_cancel_right hdue

/-- The region in front of a comment, when a segment reaches over its start: there is only the
comment. -/
theorem Ends.lost_region (h : Ends lines lines.last n s t) (hs : Fresh lines s)
    (hc : s.comments = c :: cs) (hp : Straddled s.segments s.cursor) :
    ∃ m u, Ends lines lines.last m u t ∧ Passed lines s c cs u ∧
      u.built.blocks = s.built.blocks ++
        Region.salvaged lines s.segments ⟨⟨s.cursor, c.span.start⟩, some c⟩ := by
  obtain ⟨x, ys, hx, hlt⟩ := hs.steady.pending.straddled_iff.mp hp
  have pending : Pending lines s.cursor s.segments (c :: cs) := hc ▸ hs.steady.pending
  have next : s.nextComment = some c.span.start := nextComment_eq_some.mpr ⟨c, cs, hc, rfl⟩
  obtain ⟨m, ns, k⟩ := h.creep hs.steady.inside hx hlt (pending.ordered.comment c (by simp)).start
    (pending.comment c (by simp)) fun q hq hn => hq.ne (Option.some.inj (hn.symm.trans next))
  -- at the comment no gap is left, and the comment wins
  rcases k.first (fillGap_of_le (gapEnd_le_comment hc)) with ⟨d, ds, m, hd, -, -, k⟩ |
    ⟨hno, -⟩ | ⟨hno, -⟩ | ⟨hno, -⟩
  · obtain ⟨rfl, rfl⟩ := List.cons.inj (hc.symm.trans hd)
    refine ⟨m, _, k, ⟨⟨pending.comment_taken, Builder.sound_addProse _ _⟩,
      Builder.open?_addProse _ _, rfl, rfl, rfl⟩, ?_⟩
    rw [Region.salvaged_of_straddled hp]
    simp [takeComment, Builder.blocks_addProse, hs.closed, Region.prose, Block.ofRuns]
  all_goals exact absurd next hno

/-- The last region. -/
theorem Ends.last_region (h : Ends lines lines.last n s t) (hs : Fresh lines s)
    (hc : s.comments = []) :
    t.built.close.blocks = s.built.blocks ++
      Region.salvaged lines s.segments ⟨⟨s.cursor, lines.last⟩, none⟩ := by
  by_cases hp : Straddled s.segments s.cursor
  · obtain ⟨x, ys, hx, hlt⟩ := hs.steady.pending.straddled_iff.mp hp
    have cursor := hs.steady.pending.cursor
    have none_next : s.nextComment = none := by simp [nextComment, hc]
    obtain ⟨m, ns, k⟩ := h.creep hs.steady.inside hx hlt (Buffer.holds_last cursor.ne_nil)
      cursor.le_last fun q _ hn => by simp [none_next] at hn
    rcases k.first (fillGap_of_le (gapEnd_le_stop _ _)) with ⟨d, ds, -, hd, -⟩ |
      ⟨-, y, zs, -, hy, hat, -⟩ | ⟨-, -, -, rfl⟩ | ⟨-, -, hend, -⟩
    · rw [hc] at hd
      cases hd
    · obtain ⟨rfl, rfl⟩ := List.cons.inj (hx.symm.trans hy)
      exact absurd hat (hlt.trans_le cursor.le_last).ne
    · rw [Region.salvaged_of_straddled hp]
      simp [Builder.blocks_close, hs.closed, Region.prose, Block.ofRuns]
    · exact absurd hend (lt_irrefl _)
  · have free : Unhindered s.cursor s.segments s.comments := fun x hx =>
      .inl ⟨hs.steady.pending.le_start hp x hx, by simp [hc]⟩
    have hm : n < n + s.segments.length + s.comments.length + 1 := by omega
    have hrun := (hs.steady.run free (n := n + s.segments.length + s.comments.length + 1)
      (by omega)).1
    rw [h.run hm, due, hs.closed, hc, layoutFrom_eq_regionsFrom] at hrun
    rw [hrun, Region.salvaged_of_not_straddled hp]
    simp [regionsFrom]

/-- Region by region: those that nothing reaches into are whole. -/
theorem Ends.salvaged (h : Ends lines lines.last n s t) (hs : Fresh lines s) :
    t.built.close.blocks = s.built.blocks ++
      (regionsFrom lines s.cursor s.comments).flatMap (Region.salvaged lines s.segments) := by
  induction hc : s.comments generalizing n s with
  | nil => simpa [regionsFrom] using h.last_region hs hc
  | cons c cs ih =>
    obtain ⟨m, u, k, hu, hblocks⟩ : ∃ m u, Ends lines lines.last m u t ∧ Passed lines s c cs u ∧
        u.built.blocks = s.built.blocks ++
          Region.salvaged lines s.segments ⟨⟨s.cursor, c.span.start⟩, some c⟩ := by
      by_cases hp : Straddled s.segments s.cursor
      · exact h.lost_region hs hc hp
      · exact h.whole_region hs hc hp
    have rest := ih k (hs.of_passed hc hu) hu.comments
    have ordered := hs.steady.pending.ordered
    rw [hc] at ordered
    have hcs := List.pairwise_cons.mp ordered.comments
    have hreg := (ordered.of_comment.regionsFrom_spec (ordered.comment c (by simp)).stop hcs.1).1
    -- the segments that stop in the comment make no difference to the regions behind it
    have same : ∀ r ∈ regionsFrom lines c.span.stop cs,
        r.salvaged lines (s.segments.dropWhile fun x => x.span.stop ≤ c.span.stop) =
          r.salvaged lines s.segments := by
      intro r hr
      nth_rewrite 2 [← List.takeWhile_append_dropWhile (p := fun x => x.span.stop ≤ c.span.stop)
        (l := s.segments)]
      refine (Region.salvaged_append_of_le fun x hm => ?_).symm
      have hle : x.span.stop ≤ c.span.stop := by simpa using List.mem_takeWhile_imp hm
      exact ⟨(ordered.segment x ((List.takeWhile_sublist _).subset hm)).2,
        hle.trans (hreg r hr).2⟩
    rw [rest, hblocks, hu.cursor, hu.segments, regionsFrom, List.flatMap_cons, List.append_assoc,
      List.flatMap_congr same]

end Assembly

section

variable {lines : Buffer} {xs : List Segment} {cs : List Comment}

/-- A segment that is not broken is apart from a comment, or in it. -/
theorem compatible_unbroken (h : Clear xs cs) : Compatible (unbroken cs xs) cs := by
  refine compatible_of_apart_or_inside fun x hm c hc => ?_
  obtain ⟨hmem, hends⟩ : x ∈ xs ∧
      ∀ c ∈ cs, ¬ (x.span.start < c.span.stop ∧ c.span.stop < x.span.stop) := by
    simpa [unbroken] using hm
  by_cases hap : x.span.Apart c.span
  · exact .inl hap
  · obtain ⟨hstop, hstart⟩ : c.span.start < x.span.stop ∧ x.span.start < c.span.stop := by
      simpa [Span.Apart] using hap
    exact .inr ⟨le_of_not_gt fun k => h x hmem c hc ⟨k, hstop⟩,
      le_of_not_gt fun k => hends c hc ⟨hstart, k⟩⟩

/-- A segment that lies in a region is not broken. -/
theorem Ordered.inside_unbroken (h : Ordered lines xs cs) {r : Region} (hr : r ∈ regions lines cs) :
    inside r.span (unbroken cs xs) = inside r.span xs := by
  rw [inside, inside, unbroken, List.filter_filter]
  apply List.filter_congr
  intro x hx
  rw [Bool.and_eq_left_iff_imp, decide_eq_true_eq, decide_eq_true_eq]
  rintro hin c hc ⟨hlt, hstop⟩
  have hap := ((h.exists_region h.zero_le (h.segment x hx).1).mp ⟨r, hr, hin⟩).2 c hc
  rcases hap with hap | hap
  · exact absurd (hap.trans (h.comment c hc).valid) hstop.not_ge
  · exact absurd hap hlt.not_ge

theorem Region.proseOf_salvaged (lines : Buffer) (xs : List Segment) (r : Region) :
    proseOf (r.salvaged lines xs) = proseOf r.prose := by
  rw [salvaged, proseOf_append]
  split
  · rfl
  · rw [proseOf_ofRuns, List.nil_append]

theorem proseOf_salvaged (lines : Buffer) (p : Position) (xs : List Segment) (cs : List Comment) :
    proseOf ((regionsFrom lines p cs).flatMap (Region.salvaged lines xs)) =
      cs.map Comment.content := by
  induction cs generalizing p with
  | nil =>
    rw [regionsFrom, List.flatMap_cons, proseOf_append, Region.proseOf_salvaged]
    rfl
  | cons c cs ih =>
    rw [regionsFrom, List.flatMap_cons, proseOf_append, Region.proseOf_salvaged, ih, List.map_cons]
    rfl

theorem Ordered.salvaged_assemble (h : Ordered lines xs cs) (hne : lines ≠ [])
    (hclear : Clear xs cs) :
    (assemble lines xs cs).1 = (regions lines cs).flatMap (Region.salvaged lines xs) := by
  obtain ⟨n, t, hends, heq⟩ := assemble_ends (fun x hx => (h.segment x hx).1) h.comment
  rw [heq]
  exact hends.salvaged ⟨h.steady hne, rfl, hclear⟩

end

/-- Segments with text in order and disjoint, comments in order and disjoint, and no segment reaching
over the start of a comment. All comments are prose. Without the segments that reach over the end of
a comment there is no warning, and each region is a listing; with them the regions are the same, but
those that such a segment reaches into have no code. -/
theorem assemble_contained {lines : Buffer} {xs : List Segment} {cs : List Comment}
    (hx : ∀ x ∈ xs, lines.Within x.span ∧ x.span.start < x.span.stop)
    (hxs : xs.Pairwise fun a b => a.span.start ≤ b.span.start)
    (hxd : xs.Pairwise fun a b => a.span.Apart b.span)
    (hc : ∀ c ∈ cs, lines.Within c.span)
    (hcs : cs.Pairwise fun a b => a.span.before b.span = true)
    (hcd : cs.Pairwise fun a b => a.span.Apart b.span)
    (hclear : Clear xs cs) :
    proseOf (assemble lines xs cs).1 = cs.map Comment.content ∧
    assemble lines (unbroken cs xs) cs =
      ((regions lines cs).flatMap fun r =>
        Block.ofRuns (r.runs lines (unbroken cs xs)) ++ r.prose, []) ∧
    (assemble lines xs cs).1 =
      (regions lines cs).flatMap fun r =>
        (if Straddled xs r.span.start then [] else
          Block.ofRuns (r.runs lines (unbroken cs xs))) ++ r.prose := by
  rcases eq_or_ne lines [] with rfl | hne
  · obtain rfl : xs = [] := Buffer.eq_nil_of_within fun x hm => (hx x hm).1
    obtain rfl : cs = [] := Buffer.eq_nil_of_within hc
    exact ⟨rfl, rfl, rfl⟩
  have ordered : Ordered lines xs cs :=
    ⟨hx, pairwise_stop_le_of_lt (fun x hm => (hx x hm).2) hxs hxd, hc,
      pairwise_stop_le (fun c hm => (hc c hm).valid) hcs hcd⟩
  have whole : Ordered lines (unbroken cs xs) cs :=
    ordered.sublist List.filter_sublist (List.Sublist.refl _)
  have salvaged := ordered.salvaged_assemble hne hclear
  refine ⟨salvaged ▸ proseOf_salvaged lines ⟨0, 0⟩ xs cs, ?_, ?_⟩
  · rw [assemble_eq_layout hne whole (compatible_unbroken hclear), layout,
      layoutFrom_eq_regionsFrom]
    rfl
  · rw [salvaged]
    refine List.flatMap_congr fun r hr => ?_
    rw [Region.salvaged, Region.runs, Region.runs, ordered.inside_unbroken hr]

/-- A segment over the end of a comment, which is stuck up to the next comment on the next line: what
is behind that one is whole. -/
theorem assemble_contained_next_line :
    (assemble [['a', 'b', 'c', 'd'], ['e', 'f', 'g', 'h']]
      [⟨⟨⟨0, 1⟩, ⟨0, 3⟩⟩, {}⟩, ⟨⟨⟨0, 3⟩, ⟨0, 4⟩⟩, {}⟩, ⟨⟨⟨1, 3⟩, ⟨1, 4⟩⟩, {}⟩]
      [⟨⟨⟨0, 0⟩, ⟨0, 2⟩⟩, "a"⟩, ⟨⟨⟨1, 1⟩, ⟨1, 2⟩⟩, "b"⟩]).1 =
      [.prose "a", .prose "b",
        .code [.text "g", .annotated "h" ⟨⟨⟨1, 3⟩, ⟨1, 4⟩⟩, {}⟩ .plain]] :=
  (assemble_contained (by decide) (by decide) (by decide) (by decide) (by decide) (by decide)
    (by decide)).2.2.trans (by decide)

/-- In the order of their starts only, a comment without text is lost behind a longer one, and there
is no segment at all. -/
theorem prose_lost_behind_longer :
    ∃ (lines : Buffer) (cs : List Comment), (∀ c ∈ cs, lines.Within c.span) ∧
      cs.Pairwise (fun a b => a.span.start ≤ b.span.start) ∧
      cs.Pairwise (fun a b => a.span.Apart b.span) ∧ Clear [] cs ∧
      proseOf (assemble lines [] cs).1 ≠ cs.map Comment.content :=
  ⟨[['a', 'b']], [⟨⟨⟨0, 0⟩, ⟨0, 2⟩⟩, "ab"⟩, ⟨⟨⟨0, 0⟩, ⟨0, 0⟩⟩, ""⟩], by decide, by decide, by decide,
    by decide, by decide⟩

end Literate
