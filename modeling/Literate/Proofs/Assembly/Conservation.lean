import Literate.Proofs.Assembly.Exact

/-! When a document keeps everything: no warning is given, all comments become prose, and the
listings hold every character outside them that is not blank. For segments and comments in order
that is the case when each segment is apart from all comments or lies under them, and in no other
case. -/

namespace Literate

section

variable {lines : Buffer} {p : Position} {xs : List Segment} {cs : List Comment}

theorem listing_append (as bs : List Block) : listing (as ++ bs) = listing as ++ listing bs :=
  List.flatMap_append

theorem listing_ofRuns (rs : List Run) :
    listing (Block.ofRuns rs) = rs.flatMap fun r => r.content.toList := by
  unfold Block.ofRuns
  split
  · next h => rw [h]; rfl
  · simp [listing, toList_codeText]

/-- The listings spell the texts of the regions. -/
theorem Ordered.listing_layout (h : Ordered lines xs cs) :
    listing (layout lines xs cs) = (regions lines cs).flatMap fun r => r.text lines xs := by
  rw [layout, layoutFrom_eq_regionsFrom, listing, List.flatMap_assoc]
  congr 1
  funext r
  have prose_none : listing r.prose = [] := by
    unfold Region.prose
    cases r.next <;> rfl
  change listing (_ ++ _) = _
  rw [listing_append, listing_ofRuns, prose_none, List.append_nil, h.content_runs]

theorem Region.full_tail (r : Region) (t : List Char) : Text.full (r.tail t) = Text.full t := by
  unfold Region.tail
  split
  · exact Text.full_trimRight t
  · rfl

/-- Only blanks are trimmed from a region. -/
theorem Ordered.full_text (h : Ordered lines xs cs) {r : Region} (hr : lines.Within r.span) :
    Text.full (r.text lines xs) = Text.full (lines.slice r.span) := by
  have hl := h.lined r.span
  unfold Region.text
  cases hys : inside r.span xs with
  | nil => rw [Region.full_tail, Text.full_trimLeft]
  | cons x ys =>
    rw [hys] at hl
    have hx := hl.within x (by simp)
    have hstart := hl.start x (by simp)
    obtain ⟨h₁, h₂, h₃⟩ := hl.of_cons.lastStop hx.stop (hl.stop x (by simp))
    have hmid := hx.valid.trans h₂
    simp only
    rw [Text.full_append, Text.full_append, Text.full_trimLeft, Region.full_tail,
      ← Text.full_append,
      Buffer.slice_append hr.start hx.start h₁ hstart hmid, ← Text.full_append,
      Buffer.slice_append hr.start h₁ hr.stop (hstart.trans hmid) h₃]

/-- The regions are what lies outside the comments. -/
theorem Ordered.outsideFrom_eq (h : Ordered lines xs cs) (hp : lines.Holds p)
    (hc : ∀ c ∈ cs, p ≤ c.span.start) :
    lines.outsideFrom p (cs.map Comment.span) =
      (regionsFrom lines p cs).flatMap fun r => lines.slice r.span := by
  induction cs generalizing p with
  | nil => simp [regionsFrom, Buffer.outsideFrom_nil hp]
  | cons c cs ih =>
    have hin := h.comment c (by simp)
    have hcs := List.pairwise_cons.mp h.comments
    have behind : ∀ t ∈ cs.map Comment.span, lines.Holds t.start ∧ c.span.stop ≤ t.start := by
      intro t ht
      obtain ⟨d, hd, rfl⟩ := List.mem_map.mp ht
      exact ⟨(h.comment d (by simp [hd])).start, hcs.1 d hd⟩
    rw [List.map_cons, Buffer.outsideFrom_cons hp hin.start hin.stop
      (hc c (by simp)) hin.valid behind,
      ih h.of_comment hin.stop hcs.1, regionsFrom, List.flatMap_cons]

theorem full_flatMap {α : Type} (f : α → List Char) (as : List α) :
    Text.full (as.flatMap f) = as.flatMap fun a => Text.full (f a) := List.filter_flatMap

/-- What is not blank outside the comments is in the listings. -/
theorem Ordered.full_layout (h : Ordered lines xs cs) (hne : lines ≠ []) :
    Text.full (listing (layout lines xs cs)) = Text.full (lines.outside (cs.map Comment.span)) := by
  have hzero := Buffer.holds_zero hne
  obtain ⟨hreg, -⟩ := h.regionsFrom_spec hzero h.zero_le
  rw [h.listing_layout, Buffer.outside_eq_outsideFrom, h.outsideFrom_eq hzero h.zero_le,
    full_flatMap,
    full_flatMap, List.flatMap_def, List.flatMap_def]
  congr 1
  apply List.map_congr_left
  exact fun r hr => h.full_text (hreg r hr).1

end

namespace Assembly

section

variable {lines : Buffer} {stop : Position} {x : Segment} {xs : List Segment} {c : Comment}
  {cs : List Comment} {s t : Assembly}

theorem notices_prefix_step : s.notices <+: (s.step lines stop).state.notices := by
  have fill : (s.fillGap lines stop).notices = s.notices := fillGap_notices
  rw [step_eq, ← fill]
  generalize s.fillGap lines stop = g
  rcases takeEvent_cases lines stop g with ⟨c, cs, -, -, he⟩ | ⟨-, x, xs, -, -, he⟩ |
    ⟨-, -, -, he⟩ | ⟨-, -, -, he⟩
  · exact he ▸ List.prefix_rfl
  · exact he ▸ List.prefix_rfl
  · exact he ▸ List.prefix_rfl
  · exact he ▸ List.prefix_append _ _

/-- A warning once given stays. -/
theorem notices_prefix_run (n : Nat) : s.notices <+: (s.run lines stop n).notices :=
  run_invariant (P := fun t => s.notices <+: t.notices)
    (fun _ ht => ht.trans notices_prefix_step) n List.prefix_rfl

/-- A segment cut off by the cursor, with no comment there, is a stall. -/
theorem Steady.stalls (h : Steady lines s) (hs : s.segments = x :: xs)
    (hx : x.span.start < s.cursor)
    (hc : ∀ c ∈ s.comments, s.cursor < c.span.start) (n : Nat) :
    (s.run lines lines.last (n + 1)).notices ≠ s.notices := by
  have hgap : s.gapEnd lines.last ≤ s.cursor := (gapEnd_le_segment hs).trans hx.le
  have hno : s.nextComment ≠ some s.cursor := by
    intro k
    obtain ⟨c, cs, hm, hk⟩ := nextComment_eq_some.mp k
    exact absurd hk (hc c (by simp [hm])).ne'
  have hno' : s.nextSegment ≠ some s.cursor := by
    intro k
    obtain ⟨y, ys, hm, hk⟩ := nextSegment_eq_some.mp k
    obtain ⟨rfl, rfl⟩ := List.cons.inj (hs.symm.trans hm)
    exact absurd hk hx.ne
  have hlast : s.cursor < lines.last :=
    (h.pending.segment x (by simp [hs])).trans_le
      (h.pending.ordered.segment x (by simp [hs])).1.stop.le_last
  have hstep : s.step lines lines.last = .more (s.forceAdvance lines lines.last) := by
    rw [step_eq, fillGap_of_le hgap, takeEvent_otherwise hno hno', if_neg hlast.not_ge]
  rw [run_succ_of_more hstep]
  intro heq
  have kept : (s.forceAdvance lines lines.last).notices <+:
      ((s.forceAdvance lines lines.last).run lines lines.last n).notices := notices_prefix_run n
  have hle := kept.length_le
  rw [heq, forceAdvance, List.length_append, List.length_singleton] at hle
  omega

/-- The cursor is past the next comment, which therefore is never taken up. -/
structure Late (lines : Buffer) (c : Comment) (cs : List Comment) (s : Assembly) : Prop where
  inside : Inside lines s
  comments : s.comments = c :: cs
  past : c.span.start < s.cursor

theorem Late.step (h : Late lines c cs s) :
    Late lines c cs (s.step lines lines.last).state ∧
      (s.step lines lines.last).state.built.blocks = s.built.blocks := by
  obtain ⟨hle, hin⟩ := h.inside.step
  have past := h.past.trans_le hle
  have hg := h.inside.fillGap.1
  have hcs : (s.fillGap lines lines.last).comments = c :: cs := fillGap_comments.trans h.comments
  have hbs : (s.fillGap lines lines.last).built.blocks = s.built.blocks := fillGap_blocks
  rw [step_eq] at hin past ⊢
  generalize s.fillGap lines lines.last = g at hin past hg hcs hbs ⊢
  rcases takeEvent_cases lines lines.last g with ⟨d, ds, hds, hat, -⟩ | ⟨-, x, xs, -, -, he⟩ |
    ⟨-, -, -, he⟩ | ⟨-, -, -, he⟩
  · obtain ⟨rfl, rfl⟩ := List.cons.inj (hcs.symm.trans hds)
    exact absurd hat (h.past.trans_le hg).ne
  · rw [he] at hin past ⊢
    exact ⟨⟨hin, hcs, past⟩, hbs⟩
  · rw [he] at hin past ⊢
    exact ⟨⟨hin, hcs, past⟩, hbs⟩
  · rw [he] at hin past ⊢
    exact ⟨⟨hin, hcs, past⟩, hbs⟩

theorem Late.run (h : Late lines c cs s) (n : Nat) :
    proseOf (s.run lines lines.last n).built.close.blocks = proseOf s.built.blocks := by
  have run := run_invariant (P := fun t => Late lines c cs t ∧ t.built.blocks = s.built.blocks)
    (fun t ⟨ht, hb⟩ => ⟨ht.step.1, ht.step.2.trans hb⟩) n ⟨h, rfl⟩
  rw [Builder.blocks_close, run.2, proseOf_append, proseOf_ofRuns, List.append_nil]

theorem Steady.inside (h : Steady lines s) : Inside lines s :=
  ⟨h.pending.cursor, fun x hx => (h.pending.ordered.segment x hx).1, h.pending.ordered.comment⟩

/-- A segment that runs over the start of a comment makes that comment late. -/
theorem Steady.late (h : Steady lines s) (hs : s.segments = x :: xs) (hp : s.cursor ≤ x.span.start)
    (hc : ∀ c ∈ s.comments, x.span.start < c.span.start) (hcs : s.comments = c :: cs)
    (hover : c.span.start < x.span.stop) (n : Nat) :
    proseOf (s.run lines lines.last (n + 1)).built.close.blocks = proseOf s.built.blocks := by
  have hstep := h.step_eq_segment hs hp hc
  have hin := h.inside.step.2
  rw [hstep] at hin
  have late : Late lines c cs ((s.fillTo lines x.span.start).takeSegment lines x xs) :=
    ⟨hin, hcs, hover⟩
  rw [run_succ_of_more hstep, late.run]
  simp [takeSegment, fillTo]

/-- A run that gives no warning and leaves no comment out had nothing in the way. -/
theorem Steady.unhindered_of_run (h : Steady lines s) {n : Nat}
    (hn : s.segments.length + s.comments.length < n)
    (hnot : (s.run lines lines.last n).notices = s.notices)
    (hprose : proseOf (s.run lines lines.last n).built.close.blocks = proseOf (s.due lines)) :
    Unhindered s.cursor s.segments s.comments := by
  induction n generalizing s with
  | zero => omega
  | succ n ih =>
    -- after an event that was taken up the rest of the run is of the same kind
    have taken (t : Assembly) (ht : Takes lines s t) :
        Unhindered s.cursor s.segments s.comments := by
      rw [run_succ_of_more ht.step] at hnot hprose
      rw [← ht.notices] at hnot
      rw [← ht.due] at hprose
      have := ht.shorter
      exact ht.unhindered.mp (ih ht.steady (by omega) hnot hprose)
    rcases h.pending.next with ⟨hx, -⟩ | ⟨c, cs, hs, hx⟩ | ⟨x, xs, hs, ⟨hp, hc⟩ | ⟨hlt, hc⟩⟩
    · rw [hx]
      exact fun x hm => absurd hm (List.not_mem_nil)
    · exact taken _ (h.step_comment hs hx)
    · by_cases hover : ∀ c ∈ s.comments, x.span.stop ≤ c.span.start
      · exact taken _ (h.step_segment hs hp fun c hm => ⟨hc c hm, hover c hm⟩)
      · exfalso
        push Not at hover
        obtain ⟨d, hd, hover⟩ := hover
        obtain ⟨c, cs, hcs⟩ := List.exists_cons_of_ne_nil (List.ne_nil_of_mem hd)
        have first : c.span.start < x.span.stop := by
          rw [hcs] at hd
          have hord := h.pending.ordered.comments
          rw [hcs, List.pairwise_cons] at hord
          rcases List.mem_cons.mp hd with rfl | hd
          · exact hover
          · have hv := (h.pending.ordered.comment c (by simp [hcs])).valid
            exact (hv.trans (hord.1 d hd)).trans_lt hover
        rw [h.late hs hp hc hcs first, due, proseOf_append, proseOf_layoutFrom, hcs] at hprose
        simp at hprose
    · exact absurd hnot (h.stalls hs hlt hc n)

end

end Assembly

/-- Nothing is lost: there is no warning, all comments are prose, and the listings have all
characters outside the comments that are not blank, in order. -/
structure Lossless (lines : Buffer) (cs : List Comment) (r : List Block × List Notice) : Prop where
  notices : r.2 = []
  prose : proseOf r.1 = cs.map Comment.content
  code : Text.full (listing r.1) = Text.full (lines.outside (cs.map Comment.span))

/-- Segments and comments in order lose nothing exactly when they are compatible. -/
theorem assemble_lossless_iff {lines : Buffer} {xs : List Segment} {cs : List Comment}
    (hne : lines ≠ [])
    (h : Ordered lines xs cs) : Lossless lines cs (assemble lines xs cs) ↔ Compatible xs cs := by
  constructor
  · intro hl
    rw [← h.unhindered_iff]
    apply (h.steady hne).unhindered_of_run (Assembly.length_lt_enough lines xs cs) hl.notices
    rw [Assembly.due, proseOf_append, proseOf_layoutFrom]
    exact hl.prose
  · intro hc
    rw [assemble_eq_layout hne h hc]
    exact ⟨rfl, proseOf_layoutFrom _ _ _ _ _, h.full_layout hne⟩

end Literate
