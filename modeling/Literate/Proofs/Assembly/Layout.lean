import Literate.Proofs.Assembly.Trace

/-! The document that segments and comments ask for when they do not get in each other's way.
Comments cut the buffer into regions, each region is a listing of its own, and what is in the
listing is read off the segments inside the region. The assembly builds this document, and gives no
warning. -/

namespace Literate

/-- a run of plain text, unless it is empty -/
def Run.ofText (t : List Char) : List Run := if t = [] then [] else [.text (String.ofList t)]

/-- The runs from `p` to `e`: the segments, and the text in front of them, between them and behind
them, trimmed where the listing opens, and at its end if a comment closes it. -/
def regionRuns (lines : Buffer) (opened closing : Bool) (p e : Position) : List Segment → List Run
  | [] => Run.ofText (Assembly.gapText opened closing (lines.slice ⟨p, e⟩))
  | x :: xs =>
    Run.ofText (Assembly.gapText opened false (lines.slice ⟨p, x.span.start⟩)) ++
      x.run lines :: regionRuns lines true closing x.span.stop e xs

/-- the segments in a span -/
def inside (w : Span) (xs : List Segment) : List Segment := xs.filter fun x => w.Contains x.span

/-- The blocks from `p` on, when `rs` is what the open listing holds already. -/
def layoutFrom (lines : Buffer) (rs : List Run) (p : Position) (xs : List Segment) :
    List Comment → List Block
  | [] => Block.ofRuns
      (rs ++ regionRuns lines (!rs.isEmpty) false p lines.last (inside ⟨p, lines.last⟩ xs))
  | c :: cs =>
    Block.ofRuns
        (rs ++ regionRuns lines (!rs.isEmpty) true p c.span.start (inside ⟨p, c.span.start⟩ xs)) ++
      .prose c.content :: layoutFrom lines [] c.span.stop xs cs

def layout (lines : Buffer) (xs : List Segment) (cs : List Comment) : List Block :=
  layoutFrom lines [] ⟨0, 0⟩ xs cs

/-- Segments and comments of the buffer, each list in order and without overlaps of its own. -/
structure Ordered (lines : Buffer) (xs : List Segment) (cs : List Comment) : Prop where
  segment : ∀ x ∈ xs, lines.Within x.span ∧ x.span.start < x.span.stop
  segments : xs.Pairwise fun a b => a.span.stop ≤ b.span.start
  comment : ∀ c ∈ cs, lines.Within c.span
  comments : cs.Pairwise fun a b => a.span.stop ≤ b.span.start

/-- every position of the span lies in a comment -/
def Span.HiddenBy (s : Span) (cs : List Comment) : Prop :=
  ∀ q, s.Covers q → ∃ c ∈ cs, c.span.Covers q

/-- Each segment is apart from all comments, or lies under them. -/
def Compatible (xs : List Segment) (cs : List Comment) : Prop :=
  ∀ x ∈ xs, (∀ c ∈ cs, x.span.Apart c.span) ∨ x.span.HiddenBy cs

namespace Builder

def addText (b : Builder) (t : List Char) : Builder :=
  if t = [] then b else b.addRun (.text (String.ofList t))

@[simp] theorem blocks_addText (b : Builder) (t : List Char) : (b.addText t).blocks = b.blocks := by
  unfold addText
  split <;> rfl

@[simp] theorem open?_addText (b : Builder) (t : List Char) :
    (b.addText t).open? = b.open? ++ Run.ofText t := by
  unfold addText Run.ofText
  split <;> simp

/-- an open listing has a run -/
def Sound (b : Builder) : Prop := b.runs ≠ some []

theorem sound_addRun (b : Builder) (r : Run) : (b.addRun r).Sound := by
  simp [Sound, addRun]

theorem sound_addProse (b : Builder) (s : Wording) : (b.addProse s).Sound := by
  simp [Sound]

theorem Sound.isOpen {b : Builder} (h : b.Sound) : b.isOpen = !b.open?.isEmpty := by
  cases b with
  | mk blocks runs =>
    rcases runs with _ | _ | ⟨r, rs⟩
    · rfl
    · exact absurd rfl h
    · rfl

end Builder

namespace Assembly

/-- the gap up to `e` taken up, with the cursor at `e` -/
def fillTo (lines : Buffer) (e : Position) (s : Assembly) : Assembly :=
  { s with
    cursor := e
    built := s.built.addText
      (gapText s.built.isOpen (s.nextComment = some e) (lines.slice ⟨s.cursor, e⟩)) }

@[simp] theorem gapText_nil (opened closing : Bool) : gapText opened closing [] = [] := by
  cases opened <;> cases closing <;> rfl

theorem fillTo_cursor {lines : Buffer} {s : Assembly} (hp : lines.Holds s.cursor) :
    s.fillTo lines s.cursor = s := by
  simp [fillTo, Buffer.slice_self hp, Builder.addText]

theorem fillGap_eq_fillTo {lines : Buffer} {stop : Position} {s : Assembly}
    (hp : lines.Holds s.cursor) (h : s.cursor ≤ s.gapEnd stop) :
    s.fillGap lines stop = s.fillTo lines (s.gapEnd stop) := by
  rcases h.lt_or_eq with hlt | heq
  · unfold fillGap fillTo Builder.addText
    simp only
    rw [if_pos hlt]
  · rw [← heq, fillTo_cursor hp, fillGap_of_le heq.ge]

/-- What lies ahead of the cursor: comments from there on, and segments that stop behind it. -/
structure Pending (lines : Buffer) (p : Position) (xs : List Segment) (cs : List Comment) :
    Prop where
  ordered : Ordered lines xs cs
  cursor : lines.Holds p
  segment : ∀ x ∈ xs, p < x.span.stop
  comment : ∀ c ∈ cs, p ≤ c.span.start

/-- A segment is apart from all comments and not yet started, or the rest of it lies under them. -/
def Unhindered (p : Position) (xs : List Segment) (cs : List Comment) : Prop :=
  ∀ x ∈ xs, (p ≤ x.span.start ∧ ∀ c ∈ cs, x.span.Apart c.span) ∨
    ∀ q, p ≤ q → x.span.Covers q → ∃ c ∈ cs, c.span.Covers q

end Assembly

section

variable {lines : Buffer} {p : Position} {x : Segment} {xs ys : List Segment} {c : Comment}
  {cs ds : List Comment}

/-- No segment reaches over an end of a comment. -/
theorem compatible_of_apart_or_inside
    (h : ∀ x ∈ xs, ∀ c ∈ cs, x.span.Apart c.span ∨ c.span.Contains x.span) : Compatible xs cs := by
  intro x hx
  by_cases hin : ∃ c ∈ cs, c.span.Contains x.span
  · obtain ⟨c, hc, h₁, h₂⟩ := hin
    exact .inr fun q hq => ⟨c, hc, h₁.trans hq.1, hq.2.trans_le h₂⟩
  · push Not at hin
    exact .inl fun c hc => (h x hx c hc).resolve_right (hin c hc)

theorem Ordered.sublist (h : Ordered lines xs cs) (hy : ys.Sublist xs) (hd : ds.Sublist cs) :
    Ordered lines ys ds :=
  ⟨fun x hx => h.segment x (hy.subset hx), h.segments.sublist hy,
    fun c hc => h.comment c (hd.subset hc), h.comments.sublist hd⟩

theorem Ordered.of_comment (h : Ordered lines xs (c :: cs)) : Ordered lines xs cs :=
  h.sublist (List.Sublist.refl _) (List.sublist_cons_self _ _)

theorem Ordered.zero_le (h : Ordered lines xs cs) : ∀ c ∈ cs, ⟨0, 0⟩ ≤ c.span.start :=
  fun c hc => (h.comment c hc).start.zero_le

theorem Ordered.dropWhile_stop (h : Ordered lines xs cs) :
    ∀ x ∈ xs.dropWhile (fun x => x.span.stop ≤ p), p < x.span.stop := by
  have hs := h.segments
  have hn := fun x hx => (h.segment x hx).2
  clear h
  induction xs with
  | nil => simp
  | cons x xs ih =>
    rw [List.pairwise_cons] at hs
    by_cases hx : x.span.stop ≤ p
    · rw [List.dropWhile_cons_of_pos (by simpa using hx)]
      exact ih hs.2 fun y hy => hn y (List.mem_cons_of_mem _ hy)
    · rw [List.dropWhile_cons_of_neg (by simpa using hx)]
      intro y hy
      rcases List.mem_cons.mp hy with rfl | hy
      · exact lt_of_not_ge hx
      · exact ((lt_of_not_ge hx).trans_le (hs.1 y hy)).trans (hn y (List.mem_cons_of_mem _ hy))

/-- Segments that stop before a region are not in it. -/
theorem inside_append_of_le {e : Position}
    (hy : ∀ y ∈ ys, y.span.start < y.span.stop ∧ y.span.stop ≤ p) :
    inside ⟨p, e⟩ (ys ++ xs) = inside ⟨p, e⟩ xs := by
  have none_inside : inside ⟨p, e⟩ ys = [] := by
    rw [inside, List.filter_eq_nil_iff]
    intro y hm hc
    obtain ⟨hlt, hle⟩ := hy y hm
    exact absurd ((of_decide_eq_true hc).1.trans_lt hlt) hle.not_gt
  unfold inside at none_inside ⊢
  rw [List.filter_append, none_inside, List.nil_append]

theorem layoutFrom_append_of_le {rs : List Run}
    (hc : ∀ c ∈ cs, p ≤ c.span.start ∧ c.span.start ≤ c.span.stop)
    (hs : cs.Pairwise fun a b => a.span.stop ≤ b.span.start)
    (hy : ∀ y ∈ ys, y.span.start < y.span.stop ∧ y.span.stop ≤ p) :
    layoutFrom lines rs p (ys ++ xs) cs = layoutFrom lines rs p xs cs := by
  induction cs generalizing rs p with
  | nil => rw [layoutFrom, layoutFrom, inside_append_of_le hy]
  | cons c cs ih =>
    rw [List.pairwise_cons] at hs
    obtain ⟨h₁, h₂⟩ := hc c (by simp)
    rw [layoutFrom, layoutFrom, inside_append_of_le hy, ih]
    · exact fun d hd => ⟨hs.1 d hd, (hc d (List.mem_cons_of_mem _ hd)).2⟩
    · exact hs.2
    · exact fun y hm => ⟨(hy y hm).1, (hy y hm).2.trans (h₁.trans h₂)⟩

/-- What stops in a comment is not laid out behind it. -/
theorem Ordered.layoutFrom_dropWhile (h : Ordered lines xs (c :: cs)) (rs : List Run) :
    layoutFrom lines rs c.span.stop (xs.dropWhile fun x => x.span.stop ≤ c.span.stop) cs =
      layoutFrom lines rs c.span.stop xs cs := by
  have hcs := List.pairwise_cons.mp h.comments
  nth_rewrite 2 [← List.takeWhile_append_dropWhile (p := fun x => x.span.stop ≤ c.span.stop)
    (l := xs)]
  refine (layoutFrom_append_of_le ?_ hcs.2 ?_).symm
  · exact fun d hd => ⟨hcs.1 d hd, (h.comment d (by simp [hd])).valid⟩
  · intro x hm
    have hmem := (List.takeWhile_sublist _).subset hm
    exact ⟨(h.segment x hmem).2, by simpa using List.mem_takeWhile_imp hm⟩

/-- A segment at the front of a region is its first one, and the rest starts behind it. -/
theorem inside_cons {e : Position} (hp : p ≤ x.span.start) (he : x.span.stop ≤ e)
    (hxs : ∀ y ∈ xs, x.span.stop ≤ y.span.start) (hx : x.span.start ≤ x.span.stop) :
    inside ⟨p, e⟩ (x :: xs) = x :: inside ⟨x.span.stop, e⟩ xs := by
  have rest : inside ⟨p, e⟩ xs = inside ⟨x.span.stop, e⟩ xs := by
    apply List.filter_congr
    intro y hy
    have h₁ : x.span.stop ≤ y.span.start := hxs y hy
    have h₂ : p ≤ y.span.start := (hp.trans hx).trans h₁
    simp [Span.Contains, h₁, h₂]
  have here : Span.Contains ⟨p, e⟩ x.span := ⟨hp, he⟩
  rw [inside, List.filter_cons_of_pos (by simpa using here)]
  exact congrArg _ rest

end

namespace Assembly

variable {lines : Buffer} {p : Position} {x : Segment} {xs : List Segment} {c : Comment}
  {cs : List Comment} {s : Assembly}

/-- What comes next: nothing, the first comment, or the first segment, which has started already if
the comments let it be cut off. -/
theorem Pending.next (h : Pending lines p xs cs) :
    (xs = [] ∧ cs = []) ∨
    (∃ c ds, cs = c :: ds ∧ ∀ x ∈ xs,
      c.span.start ≤ x.span.start ∨ (x.span.start < p ∧ c.span.start = p)) ∨
    ∃ x ys, xs = x :: ys ∧
      ((p ≤ x.span.start ∧ ∀ c ∈ cs, x.span.start < c.span.start) ∨
        (x.span.start < p ∧ ∀ c ∈ cs, p < c.span.start)) := by
  have hxs := h.ordered.segments
  have hcs := h.ordered.comments
  rcases xs with _ | ⟨x, ys⟩
  · rcases cs with _ | ⟨c, ds⟩
    · exact .inl ⟨rfl, rfl⟩
    · exact .inr (.inl ⟨c, ds, rfl, by simp⟩)
  rw [List.pairwise_cons] at hxs
  have hx := (h.ordered.segment x (by simp)).2
  rcases cs with _ | ⟨c, ds⟩
  · rcases le_or_gt p x.span.start with hle | hlt
    · exact .inr (.inr ⟨x, ys, rfl, .inl ⟨hle, by simp⟩⟩)
    · exact .inr (.inr ⟨x, ys, rfl, .inr ⟨hlt, by simp⟩⟩)
  rw [List.pairwise_cons] at hcs
  have behind : ∀ d ∈ c :: ds, c.span.start ≤ d.span.start := by
    intro d hd
    rcases List.mem_cons.mp hd with rfl | hd
    · exact le_rfl
    · exact (h.ordered.comment c (by simp)).valid.trans (hcs.1 d hd)
  rcases le_or_gt c.span.start x.span.start with hle | hlt
  · refine .inr (.inl ⟨c, ds, rfl, fun y hy => .inl ?_⟩)
    rcases List.mem_cons.mp hy with rfl | hy
    · exact hle
    · exact (hle.trans hx.le).trans (hxs.1 y hy)
  rcases le_or_gt p x.span.start with hle | hpx
  · exact .inr (.inr ⟨x, ys, rfl, .inl ⟨hle, fun d hd => hlt.trans_le (behind d hd)⟩⟩)
  rcases (h.comment c (by simp)).lt_or_eq with hpc | rfl
  · exact .inr (.inr ⟨x, ys, rfl, .inr ⟨hpx, fun d hd => hpc.trans_le (behind d hd)⟩⟩)
  · refine .inr (.inl ⟨c, ds, rfl, fun y hy => ?_⟩)
    rcases List.mem_cons.mp hy with rfl | hy
    · exact .inr ⟨hlt, rfl⟩
    · exact .inl ((h.segment x (by simp)).trans_le (hxs.1 y hy)).le

/-- Behind a comment lies what does not stop in it. -/
theorem Pending.comment_taken (h : Pending lines p xs (c :: cs)) :
    Pending lines c.span.stop (xs.dropWhile fun x => x.span.stop ≤ c.span.stop) cs := by
  have hcs := List.pairwise_cons.mp h.ordered.comments
  have sub : (xs.dropWhile fun x => x.span.stop ≤ c.span.stop).Sublist xs :=
    List.dropWhile_sublist _
  exact ⟨h.ordered.sublist sub (List.sublist_cons_self _ _), (h.ordered.comment c (by simp)).stop,
    h.ordered.dropWhile_stop, hcs.1⟩

theorem Pending.segment_taken (h : Pending lines p (x :: xs) cs)
    (hc : ∀ c ∈ cs, x.span.stop ≤ c.span.start) : Pending lines x.span.stop xs cs := by
  have hxs := List.pairwise_cons.mp h.ordered.segments
  refine ⟨h.ordered.sublist (List.sublist_cons_self _ _) (List.Sublist.refl _),
    (h.ordered.segment x (by simp)).1.stop, fun y hy => ?_, hc⟩
  exact (hxs.1 y hy).trans_lt (h.ordered.segment y (by simp [hy])).2

/-- A comment that comes next hides the segments it drops, and hinders no others. -/
theorem Pending.unhindered_comment (h : Pending lines p xs (c :: cs))
    (hx : ∀ x ∈ xs, c.span.start ≤ x.span.start ∨ (x.span.start < p ∧ c.span.start = p)) :
    Unhindered p xs (c :: cs) ↔
      Unhindered c.span.stop (xs.dropWhile fun x => x.span.stop ≤ c.span.stop) cs := by
  have hc := h.ordered.comment c (by simp)
  have hpc := h.comment c (by simp)
  have sub : (xs.dropWhile fun x => x.span.stop ≤ c.span.stop).Sublist xs :=
    List.dropWhile_sublist _
  have hstop := h.ordered.dropWhile_stop (p := c.span.stop)
  -- a place from `p` on in a segment is not in front of the comment
  have from_start : ∀ x ∈ xs, ∀ q, p ≤ q → x.span.Covers q → c.span.start ≤ q := by
    intro x hm q hq hcov
    rcases hx x hm with k | ⟨-, k⟩
    · exact k.trans hcov.1
    · exact k ▸ hq
  constructor
  · intro hu x hm
    rcases hu x (sub.subset hm) with ⟨-, hap⟩ | hhid
    · have hle : c.span.stop ≤ x.span.start :=
        (hap c (by simp)).resolve_left fun k => absurd (k.trans hc.valid) (hstop x hm).not_ge
      exact .inl ⟨hle, fun d hd => hap d (by simp [hd])⟩
    · refine .inr fun q hq hcov => ?_
      obtain ⟨d, hd, hdc⟩ := hhid q ((hpc.trans hc.valid).trans hq) hcov
      rcases List.mem_cons.mp hd with rfl | hd
      · exact absurd hdc.2 hq.not_gt
      · exact ⟨d, hd, hdc⟩
  · intro hu x hm
    have parts := List.takeWhile_append_dropWhile (p := fun x => x.span.stop ≤ c.span.stop)
        (l := xs)
    rw [← parts] at hm
    have hmem : x ∈ xs := parts ▸ hm
    rcases List.mem_append.mp hm with hm | hm
    · have hle : x.span.stop ≤ c.span.stop := by simpa using List.mem_takeWhile_imp hm
      exact .inr fun q hq hcov =>
        ⟨c, by simp, from_start x hmem q hq hcov, hcov.2.trans_le hle⟩
    · rcases hu x hm with ⟨hle, hap⟩ | hhid
      · refine .inl ⟨(hpc.trans hc.valid).trans hle, fun d hd => ?_⟩
        rcases List.mem_cons.mp hd with rfl | hd
        · exact .inr hle
        · exact hap d hd
      · refine .inr fun q hq hcov => ?_
        rcases lt_or_ge q c.span.stop with hlt | hge
        · exact ⟨c, by simp, from_start x hmem q hq hcov, hlt⟩
        · obtain ⟨d, hd, hdc⟩ := hhid q hge hcov
          exact ⟨d, by simp [hd], hdc⟩

/-- A whole segment in front of the comments hinders nothing. -/
theorem Pending.unhindered_segment (h : Pending lines p (x :: xs) cs) (hp : p ≤ x.span.start)
    (hc : ∀ c ∈ cs, x.span.stop ≤ c.span.start) :
    Unhindered p (x :: xs) cs ↔ Unhindered x.span.stop xs cs := by
  have hx := (h.ordered.segment x (by simp)).2
  have hxs := List.pairwise_cons.mp h.ordered.segments
  constructor
  · intro hu y hy
    rcases hu y (by simp [hy]) with ⟨-, hap⟩ | hhid
    · exact .inl ⟨hxs.1 y hy, hap⟩
    · exact .inr fun q hq hcov => hhid q ((hp.trans hx.le).trans hq) hcov
  · intro hu y hy
    rcases List.mem_cons.mp hy with rfl | hy
    · exact .inl ⟨hp, fun c hm => .inl (hc c hm)⟩
    · have behind := (hp.trans hx.le).trans (hxs.1 y hy)
      rcases hu y hy with ⟨-, hap⟩ | hhid
      · exact .inl ⟨behind, hap⟩
      · exact .inr fun q _ hcov => hhid q ((hxs.1 y hy).trans hcov.1) hcov

/-- With nothing in the way the first segment comes whole, in front of all comments. -/
theorem Pending.next_unhindered (h : Pending lines p (x :: xs) cs) (hu : Unhindered p (x :: xs) cs)
    (hx : (p ≤ x.span.start ∧ ∀ c ∈ cs, x.span.start < c.span.start) ∨
      (x.span.start < p ∧ ∀ c ∈ cs, p < c.span.start)) :
    p ≤ x.span.start ∧ ∀ c ∈ cs, x.span.start < c.span.start ∧ x.span.stop ≤ c.span.start := by
  have hlt := (h.ordered.segment x (by simp)).2
  have hp := h.segment x (by simp)
  -- no comment covers the first place of the segment from `p` on
  have bare : ¬ ∃ c ∈ cs, c.span.Covers (max p x.span.start) := by
    rintro ⟨c, hm, hcov, -⟩
    rcases hx with ⟨hle, hc⟩ | ⟨hlt, hc⟩
    · rw [max_eq_right hle] at hcov
      exact absurd (hc c hm) hcov.not_gt
    · rw [max_eq_left hlt.le] at hcov
      exact absurd (hc c hm) hcov.not_gt
  obtain ⟨hle, hap⟩ := (hu x (by simp)).resolve_right fun hhid =>
    bare (hhid _ (le_max_left _ _) ⟨le_max_right _ _, max_lt hp hlt⟩)
  have hc := (hx.resolve_right fun k => absurd k.1 hle.not_gt).2
  refine ⟨hle, fun c hm => ⟨hc c hm, (hap c hm).resolve_right fun k => ?_⟩⟩
  exact absurd (hc c hm) ((h.ordered.comment c hm).valid.trans k).not_gt

/-- In front of a comment there is only a gap. -/
theorem Pending.layoutFrom_comment (h : Pending lines p xs (c :: cs)) (rs : List Run)
    (hx : ∀ x ∈ xs, c.span.start ≤ x.span.start ∨ (x.span.start < p ∧ c.span.start = p)) :
    layoutFrom lines rs p xs (c :: cs) =
      Block.ofRuns (rs ++ Run.ofText
          (gapText (!rs.isEmpty) true (lines.slice ⟨p, c.span.start⟩))) ++
        .prose c.content :: layoutFrom lines [] c.span.stop
          (xs.dropWhile fun x => x.span.stop ≤ c.span.stop) cs := by
  have none_inside : inside ⟨p, c.span.start⟩ xs = [] := by
    rw [inside, List.filter_eq_nil_iff]
    intro x hm hin
    obtain ⟨h₁, h₂⟩ : p ≤ x.span.start ∧ x.span.stop ≤ c.span.start := of_decide_eq_true hin
    have hlt := (h.ordered.segment x hm).2
    rcases hx x hm with k | ⟨k, -⟩
    · exact absurd (hlt.trans_le h₂) k.not_gt
    · exact absurd k h₁.not_gt
  rw [layoutFrom, none_inside, regionRuns, h.ordered.layoutFrom_dropWhile]

/-- A segment in front of all comments closes its gap, and the listing goes on behind it. -/
theorem Pending.layoutFrom_segment (h : Pending lines p (x :: xs) cs) (rs : List Run)
    (hp : p ≤ x.span.start) (hc : ∀ c ∈ cs, x.span.stop ≤ c.span.start) :
    layoutFrom lines rs p (x :: xs) cs =
      layoutFrom lines
        (rs ++ Run.ofText (gapText (!rs.isEmpty) false (lines.slice ⟨p, x.span.start⟩)) ++
            [x.run lines])
        x.span.stop xs cs := by
  have hx := h.ordered.segment x (by simp)
  have hxs := h.ordered.segments
  rw [List.pairwise_cons] at hxs
  have opened (ts : List Run) : (!(ts ++ [x.run lines]).isEmpty) = true := by
    rw [List.isEmpty_eq_false_iff.mpr (List.concat_ne_nil _ _), Bool.not_false]
  cases cs with
  | nil =>
    rw [layoutFrom, layoutFrom, inside_cons hp hx.1.stop.le_last hxs.1 hx.2.le, regionRuns, opened]
    simp only [List.append_assoc, List.singleton_append]
  | cons c cs =>
    have behind : layoutFrom lines [] c.span.stop (x :: xs) cs =
        layoutFrom lines [] c.span.stop xs cs := by
      have hcs := h.ordered.comments
      rw [List.pairwise_cons] at hcs
      have hcv := (h.ordered.comment c (by simp)).valid
      rw [← List.singleton_append]
      apply layoutFrom_append_of_le _ hcs.2
      · intro y hy
        rw [List.mem_singleton.mp hy]
        exact ⟨hx.2, (hc c (by simp)).trans hcv⟩
      · exact fun d hd => ⟨hcs.1 d hd, (h.ordered.comment d (by simp [hd])).valid⟩
    rw [layoutFrom, layoutFrom, inside_cons hp (hc c (by simp)) hxs.1 hx.2.le, regionRuns, opened,
      behind]
    simp only [List.append_assoc, List.singleton_append]

/-- the blocks built, and those that the rest asks for -/
def due (lines : Buffer) (s : Assembly) : List Block :=
  s.built.blocks ++ layoutFrom lines s.built.open? s.cursor s.segments s.comments

/-- A state of an assembly that is not stuck. -/
structure Steady (lines : Buffer) (s : Assembly) : Prop where
  pending : Pending lines s.cursor s.segments s.comments
  sound : s.built.Sound

theorem Steady.fillGap_comment (h : Steady lines s) (hs : s.comments = c :: cs)
    (hx : ∀ x ∈ s.segments,
      c.span.start ≤ x.span.start ∨ (x.span.start < s.cursor ∧ c.span.start = s.cursor)) :
    s.fillGap lines lines.last = s.fillTo lines c.span.start := by
  have hcur := h.pending.comment c (by simp [hs])
  by_cases hstuck : ∃ x ∈ s.segments, x.span.start < s.cursor ∧ c.span.start = s.cursor
  · obtain ⟨-, -, -, hat⟩ := hstuck
    rw [hat, fillTo_cursor h.pending.cursor]
    exact fillGap_of_le (hat ▸ gapEnd_le_comment hs)
  · have hgap : s.gapEnd lines.last = c.span.start := by
      apply le_antisymm (gapEnd_le_comment hs)
      rcases gapEnd_eq lines.last s with k | k | k
      · rw [k]
        exact (h.pending.ordered.comment c (by simp [hs])).start.le_last
      · obtain ⟨x, xs, hm, hk⟩ := nextSegment_eq_some.mp k
        rw [← hk]
        have hmem : x ∈ s.segments := by simp [hm]
        exact (hx x hmem).resolve_right fun hr => hstuck ⟨x, hmem, hr⟩
      · obtain ⟨d, ds, hm, hk⟩ := nextComment_eq_some.mp k
        obtain ⟨rfl, rfl⟩ := List.cons.inj (hs.symm.trans hm)
        exact hk.le
    rw [fillGap_eq_fillTo h.pending.cursor (hgap ▸ hcur), hgap]

theorem Steady.fillGap_segment (h : Steady lines s) (hs : s.segments = x :: xs)
    (hp : s.cursor ≤ x.span.start) (hc : ∀ c ∈ s.comments, x.span.start < c.span.start) :
    s.fillGap lines lines.last = s.fillTo lines x.span.start := by
  have hgap : s.gapEnd lines.last = x.span.start := by
    apply le_antisymm (gapEnd_le_segment hs)
    rcases gapEnd_eq lines.last s with k | k | k
    · rw [k]
      exact (h.pending.ordered.segment x (by simp [hs])).1.start.le_last
    · obtain ⟨y, ys, hm, hk⟩ := nextSegment_eq_some.mp k
      obtain ⟨rfl, rfl⟩ := List.cons.inj (hs.symm.trans hm)
      exact hk.le
    · obtain ⟨d, ds, hm, hk⟩ := nextComment_eq_some.mp k
      rw [← hk]
      exact (hc d (by simp [hm])).le
  rw [fillGap_eq_fillTo h.pending.cursor (hgap ▸ hp), hgap]

theorem Steady.step_done (h : Steady lines s) (hx : s.segments = []) (hc : s.comments = []) :
    ∃ t, s.step lines lines.last = .done t ∧ t.built.close.blocks = s.due lines ∧
      t.notices = s.notices := by
  have hgap : s.gapEnd lines.last = lines.last := by
    rw [gapEnd_eq_min]
    simp [nextSegment, nextComment, hx, hc]
  have hfill : s.fillGap lines lines.last = s.fillTo lines lines.last := by
    rw [fillGap_eq_fillTo h.pending.cursor (h.pending.cursor.le_last.trans_eq hgap.symm), hgap]
  have hlast : (s.fillTo lines lines.last).takeEvent lines lines.last =
      .done (s.fillTo lines lines.last) := by
    rw [takeEvent_otherwise (by simp [nextComment, fillTo, hc]) (by simp [nextSegment, fillTo, hx])]
    exact if_pos le_rfl
  refine ⟨s.fillTo lines lines.last, by rw [step_eq, hfill, hlast], ?_, rfl⟩
  rw [Builder.blocks_close, due, hx, hc, layoutFrom]
  simp [fillTo, nextComment, hc, inside, regionRuns, h.sound.isOpen]

/-- A step that takes up an event: what is due stays the same, and so does what is in the way. -/
structure Takes (lines : Buffer) (s t : Assembly) : Prop where
  step : s.step lines lines.last = .more t
  steady : t.Steady lines
  due : t.due lines = s.due lines
  notices : t.notices = s.notices
  shorter : t.segments.length + t.comments.length < s.segments.length + s.comments.length
  unhindered : Unhindered t.cursor t.segments t.comments ↔ Unhindered s.cursor s.segments s.comments

theorem Steady.step_comment (h : Steady lines s) (hs : s.comments = c :: cs)
    (hx : ∀ x ∈ s.segments,
      c.span.start ≤ x.span.start ∨ (x.span.start < s.cursor ∧ c.span.start = s.cursor)) :
    Takes lines s ((s.fillTo lines c.span.start).takeComment c cs) := by
  have pending : Pending lines s.cursor s.segments (c :: cs) := hs ▸ h.pending
  refine ⟨?_, ⟨pending.comment_taken, Builder.sound_addProse _ _⟩, ?_, rfl, ?_, ?_⟩
  · rw [step_eq, h.fillGap_comment hs hx]
    exact takeEvent_comment hs rfl
  · rw [due, due, hs, pending.layoutFrom_comment _ hx]
    simp [takeComment, fillTo, Builder.blocks_addProse, nextComment, hs, h.sound.isOpen]
  · have hle := (List.dropWhile_sublist
        (l := s.segments) fun x => x.span.stop ≤ c.span.stop).length_le
    rw [hs, List.length_cons]
    simp only [takeComment, fillTo]
    omega
  · rw [hs, pending.unhindered_comment hx]
    rfl

/-- A segment that starts before the comments is taken up, however far it reaches. -/
theorem Steady.step_eq_segment (h : Steady lines s) (hs : s.segments = x :: xs)
    (hp : s.cursor ≤ x.span.start) (hc : ∀ c ∈ s.comments, x.span.start < c.span.start) :
    s.step lines lines.last = .more ((s.fillTo lines x.span.start).takeSegment lines x xs) := by
  have hno : s.nextComment ≠ some x.span.start := by
    intro k
    obtain ⟨d, ds, hm, hk⟩ := nextComment_eq_some.mp k
    exact absurd hk (hc d (by simp [hm])).ne'
  rw [step_eq, h.fillGap_segment hs hp hc]
  exact takeEvent_segment hno hs rfl

theorem Steady.step_segment (h : Steady lines s) (hs : s.segments = x :: xs)
    (hp : s.cursor ≤ x.span.start)
    (hc : ∀ c ∈ s.comments, x.span.start < c.span.start ∧ x.span.stop ≤ c.span.start) :
    Takes lines s ((s.fillTo lines x.span.start).takeSegment lines x xs) := by
  have pending : Pending lines s.cursor (x :: xs) s.comments := hs ▸ h.pending
  have hstop : ∀ c ∈ s.comments, x.span.stop ≤ c.span.start := fun c hm => (hc c hm).2
  have hno : s.nextComment ≠ some x.span.start := by
    intro k
    obtain ⟨d, ds, hm, hk⟩ := nextComment_eq_some.mp k
    exact absurd hk (hc d (by simp [hm])).1.ne'
  refine ⟨h.step_eq_segment hs hp fun c hm => (hc c hm).1,
    ⟨pending.segment_taken hstop, Builder.sound_addRun _ _⟩, ?_, rfl, ?_, ?_⟩
  · rw [due, due, hs, pending.layoutFrom_segment _ hp hstop]
    simp [takeSegment, fillTo, Segment.run, hno, h.sound.isOpen]
  · simp [takeSegment, fillTo, hs]
  · rw [hs, pending.unhindered_segment hp hstop]
    rfl

/-- With nothing in the way there is an event to take up as long as there is one. -/
theorem Steady.event (h : Steady lines s) (hu : Unhindered s.cursor s.segments s.comments) :
    (s.segments = [] ∧ s.comments = []) ∨ ∃ t, Takes lines s t := by
  rcases h.pending.next with hnone | ⟨c, cs, hs, hx⟩ | ⟨x, xs, hs, hx⟩
  · exact .inl hnone
  · exact .inr ⟨_, h.step_comment hs hx⟩
  · have pending : Pending lines s.cursor (x :: xs) s.comments := hs ▸ h.pending
    obtain ⟨hp, hc⟩ := pending.next_unhindered (hs ▸ hu) hx
    exact .inr ⟨_, h.step_segment hs hp hc⟩

/-- A run with enough steps builds what is due, and gives no warning. -/
theorem Steady.run (h : Steady lines s) (hu : Unhindered s.cursor s.segments s.comments) {n : Nat}
    (hn : s.segments.length + s.comments.length < n) :
    (s.run lines lines.last n).built.close.blocks = s.due lines ∧
      (s.run lines lines.last n).notices = s.notices := by
  induction n generalizing s with
  | zero => omega
  | succ n ih =>
    rcases h.event hu with ⟨hx, hc⟩ | ⟨t, ht⟩
    · obtain ⟨t, hstep, hb, hnot⟩ := h.step_done hx hc
      rw [run_succ_of_done hstep]
      exact ⟨hb, hnot⟩
    · rw [run_succ_of_more ht.step, ← ht.due, ← ht.notices]
      have := ht.shorter
      exact ih ht.steady (ht.unhindered.mpr hu) (by omega)

end Assembly

section

variable {lines : Buffer} {xs : List Segment} {cs : List Comment}

theorem Ordered.steady (h : Ordered lines xs cs) (hne : lines ≠ []) :
    Assembly.Steady lines { segments := xs, comments := cs } := by
  refine ⟨⟨h, Buffer.holds_zero hne, fun x hx => ?_, h.zero_le⟩, by simp [Builder.Sound]⟩
  exact (h.segment x hx).1.start.zero_le.trans_lt (h.segment x hx).2

theorem Ordered.unhindered_iff (h : Ordered lines xs cs) :
    Assembly.Unhindered ⟨0, 0⟩ xs cs ↔ Compatible xs cs := by
  refine forall₂_congr fun x hx => ?_
  have hzero : ⟨0, 0⟩ ≤ x.span.start := (h.segment x hx).1.start.zero_le
  constructor
  · rintro (⟨-, hap⟩ | hhid)
    · exact .inl hap
    · exact .inr fun q hq => hhid q (hzero.trans hq.1) hq
  · rintro (hap | hhid)
    · exact .inl ⟨hzero, hap⟩
    · exact .inr fun q _ hq => hhid q hq

theorem Assembly.length_lt_enough (lines : Buffer) (xs : List Segment) (cs : List Comment) :
    xs.length + cs.length < Assembly.enough lines { segments := xs, comments := cs } := by
  unfold enough
  simp only
  nlinarith

/-- Segments and comments that do not get in each other's way are laid out without a warning. -/
theorem assemble_eq_layout (hne : lines ≠ []) (h : Ordered lines xs cs) (hc : Compatible xs cs) :
    assemble lines xs cs = (layout lines xs cs, []) := by
  obtain ⟨hb, hnot⟩ :=
    (h.steady hne).run (h.unhindered_iff.mpr hc) (Assembly.length_lt_enough lines xs cs)
  rw [assemble, assembleUpTo]
  simp only [hb, hnot]
  rfl

end

end Literate
