import Literate.Assembly
import Literate.Proofs.Buffer.Outside

/-! One step of the assembly: the gap in front of the cursor is filled, and then one thing happens.
A comment at the cursor becomes prose, or else a segment there becomes a run; with neither, the
assembly ends at the end of the buffer and is stuck before it. -/

namespace Literate

namespace Builder

/-- the runs of the open listing -/
def open? (b : Builder) : List Run := b.runs.getD []

@[simp] theorem open?_addRun (b : Builder) (r : Run) : (b.addRun r).open? = b.open? ++ [r] := rfl

@[simp] theorem open?_addProse (b : Builder) (s : Wording) : (b.addProse s).open? = [] := by
  simp [open?]

@[simp] theorem blocks_addRun (b : Builder) (r : Run) : (b.addRun r).blocks = b.blocks := rfl

end Builder

/-- a listing of runs, if there are any -/
def Block.ofRuns (rs : List Run) : List Block := if rs = [] then [] else [.code rs]

namespace Builder

theorem blocks_close (b : Builder) : b.close.blocks = b.blocks ++ Block.ofRuns b.open? := by
  cases b with
  | mk blocks runs =>
    rcases runs with _ | _ | ⟨r, rs⟩ <;> simp [close, open?, Block.ofRuns]

theorem blocks_addProse (b : Builder) (s : Wording) :
    (b.addProse s).blocks = b.blocks ++ Block.ofRuns b.open? ++ [.prose s] := by
  simp [addProse, blocks_close]

end Builder

namespace Assembly

/-- the state that a step leads to -/
def Progress.state : Progress → Assembly
  | .done s => s
  | .more s => s

variable {lines : Buffer} {stop : Position} {s : Assembly}

theorem nextComment_eq_some {p : Position} :
    s.nextComment = some p ↔ ∃ c cs, s.comments = c :: cs ∧ c.span.start = p := by
  cases h : s.comments <;> simp [nextComment, h]

theorem nextSegment_eq_some {p : Position} :
    s.nextSegment = some p ↔ ∃ x xs, s.segments = x :: xs ∧ x.span.start = p := by
  cases h : s.segments <;> simp [nextSegment, h]

theorem gapEnd_eq_min (stop : Position) (s : Assembly) :
    s.gapEnd stop = min (min stop (s.nextSegment.getD stop)) (s.nextComment.getD stop) := by
  have upTo (e p : Position) : (if p < e then p else e) = min e p := by
    split
    · next h => exact (min_eq_right h.le).symm
    · next h => exact (min_eq_left (le_of_not_gt h)).symm
  have capped (p : Position) : min (min stop p) stop = min stop p := min_eq_left (min_le_left _ _)
  cases hx : s.nextSegment <;> cases hc : s.nextComment <;>
    simp only [gapEnd, hx, hc, upTo, capped, Option.getD_none, Option.getD_some, min_self]

theorem gapEnd_le_stop (stop : Position) (s : Assembly) : s.gapEnd stop ≤ stop := by
  rw [gapEnd_eq_min]
  exact (min_le_left _ _).trans (min_le_left _ _)

theorem gapEnd_le_comment {c : Comment} {cs : List Comment} (h : s.comments = c :: cs) :
    s.gapEnd stop ≤ c.span.start := by
  have hc : s.nextComment = some c.span.start := nextComment_eq_some.mpr ⟨c, cs, h, rfl⟩
  rw [gapEnd_eq_min, hc]
  exact min_le_right _ _

theorem gapEnd_le_segment {x : Segment} {xs : List Segment} (h : s.segments = x :: xs) :
    s.gapEnd stop ≤ x.span.start := by
  have hx : s.nextSegment = some x.span.start := nextSegment_eq_some.mpr ⟨x, xs, h, rfl⟩
  rw [gapEnd_eq_min, hx]
  exact (min_le_left _ _).trans (min_le_right _ _)

/-- The gap ends at an event, or at the end. -/
theorem gapEnd_eq (stop : Position) (s : Assembly) :
    s.gapEnd stop = stop ∨ s.nextSegment = some (s.gapEnd stop) ∨
      s.nextComment = some (s.gapEnd stop) := by
  rw [gapEnd_eq_min]
  rcases min_choice (min stop (s.nextSegment.getD stop)) (s.nextComment.getD stop) with h | h
  · rw [h]
    rcases min_choice stop (s.nextSegment.getD stop) with k | k
    · exact .inl k
    · rw [k]
      cases hx : s.nextSegment <;> simp
  · rw [h]
    cases hc : s.nextComment <;> simp

@[simp] theorem fillGap_segments : (s.fillGap lines stop).segments = s.segments := by
  unfold fillGap
  simp only
  split <;> rfl

@[simp] theorem fillGap_comments : (s.fillGap lines stop).comments = s.comments := by
  unfold fillGap
  simp only
  split <;> rfl

@[simp] theorem fillGap_notices : (s.fillGap lines stop).notices = s.notices := by
  unfold fillGap
  simp only
  split <;> rfl

@[simp] theorem fillGap_blocks : (s.fillGap lines stop).built.blocks = s.built.blocks := by
  unfold fillGap
  simp only
  split
  · split <;> rfl
  · rfl

theorem fillGap_cursor : (s.fillGap lines stop).cursor = max s.cursor (s.gapEnd stop) := by
  unfold fillGap
  simp only
  split
  · next h => exact (max_eq_right h.le).symm
  · next h => exact (max_eq_left (le_of_not_gt h)).symm

theorem fillGap_of_le (h : s.gapEnd stop ≤ s.cursor) : s.fillGap lines stop = s := by
  unfold fillGap
  simp only
  rw [if_neg h.not_gt]

theorem takeEvent_comment {c : Comment} {cs : List Comment} (h : s.comments = c :: cs)
    (hc : c.span.start = s.cursor) : s.takeEvent lines stop = .more (s.takeComment c cs) := by
  unfold takeEvent
  split
  · next heq =>
    obtain ⟨rfl, rfl⟩ := List.cons.inj (h.symm.trans heq)
    rw [if_pos hc]
  · next heq => simp [h] at heq

/-- with no comment at the cursor the segments are looked at -/
theorem takeEvent_of_no_comment (h : s.nextComment ≠ some s.cursor) :
    s.takeEvent lines stop = takeEvent.ofSegments lines stop s s.segments := by
  unfold takeEvent
  split
  · next c cs heq =>
    rw [if_neg]
    exact fun hc => h (nextComment_eq_some.mpr ⟨c, cs, heq, hc⟩)
  · rfl

theorem takeEvent_segment {x : Segment} {xs : List Segment} (h : s.nextComment ≠ some s.cursor)
    (hx : s.segments = x :: xs) (hc : x.span.start = s.cursor) :
    s.takeEvent lines stop = .more (s.takeSegment lines x xs) := by
  rw [takeEvent_of_no_comment h, hx, takeEvent.ofSegments, if_pos hc]

theorem takeEvent_otherwise (h : s.nextComment ≠ some s.cursor)
    (h' : s.nextSegment ≠ some s.cursor) :
    s.takeEvent lines stop =
      if stop ≤ s.cursor then .done s else .more (s.forceAdvance lines stop) := by
  rw [takeEvent_of_no_comment h]
  cases hx : s.segments with
  | nil => rfl
  | cons x xs =>
    rw [takeEvent.ofSegments, if_neg]
    · rfl
    · exact fun hc => h' (nextSegment_eq_some.mpr ⟨x, xs, hx, hc⟩)

/-- What happens at the cursor. -/
theorem takeEvent_cases (lines : Buffer) (stop : Position) (s : Assembly) :
    (∃ c cs, s.comments = c :: cs ∧ c.span.start = s.cursor ∧
      s.takeEvent lines stop = .more (s.takeComment c cs)) ∨
    (s.nextComment ≠ some s.cursor ∧ ∃ x xs, s.segments = x :: xs ∧ x.span.start = s.cursor ∧
      s.takeEvent lines stop = .more (s.takeSegment lines x xs)) ∨
    (s.nextComment ≠ some s.cursor ∧ s.nextSegment ≠ some s.cursor ∧ stop ≤ s.cursor ∧
      s.takeEvent lines stop = .done s) ∨
    (s.nextComment ≠ some s.cursor ∧ s.nextSegment ≠ some s.cursor ∧ s.cursor < stop ∧
      s.takeEvent lines stop = .more (s.forceAdvance lines stop)) := by
  by_cases hc : s.nextComment = some s.cursor
  · obtain ⟨c, cs, h, hc⟩ := nextComment_eq_some.mp hc
    exact .inl ⟨c, cs, h, hc, takeEvent_comment h hc⟩
  by_cases hx : s.nextSegment = some s.cursor
  · obtain ⟨x, xs, h, hx⟩ := nextSegment_eq_some.mp hx
    exact .inr (.inl ⟨hc, x, xs, h, hx, takeEvent_segment hc h hx⟩)
  have h : s.takeEvent lines stop = _ := takeEvent_otherwise hc hx
  rcases le_or_gt stop s.cursor with hle | hlt
  · rw [if_pos hle] at h
    exact .inr (.inr (.inl ⟨hc, hx, hle, h⟩))
  · rw [if_neg hlt.not_ge] at h
    exact .inr (.inr (.inr ⟨hc, hx, hlt, h⟩))

/-- The early end is no case of its own: there is no gap to fill and nothing to take. -/
theorem step_eq (lines : Buffer) (stop : Position) (s : Assembly) :
    s.step lines stop = (s.fillGap lines stop).takeEvent lines stop := by
  unfold step
  split
  · next h =>
    simp only [finished, Bool.and_eq_true, List.isEmpty_iff, decide_eq_true_eq] at h
    obtain ⟨⟨hle, hx⟩, hc⟩ := h
    rw [fillGap_of_le ((gapEnd_le_stop stop s).trans hle), takeEvent_otherwise, if_pos hle]
    · simp [nextComment, hc]
    · simp [nextSegment, hx]
  · rfl

theorem run_succ_of_more {t : Assembly} {n : Nat} (h : s.step lines stop = .more t) :
    s.run lines stop (n + 1) = t.run lines stop n := by
  simp [run, h]

theorem run_succ_of_done {t : Assembly} {n : Nat} (h : s.step lines stop = .done t) :
    s.run lines stop (n + 1) = t := by
  simp [run, h]

/-- What a step preserves a run preserves. -/
theorem run_invariant {P : Assembly → Prop} (h : ∀ s, P s → P (s.step lines stop).state) (n : Nat)
    (hs : P s) : P (s.run lines stop n) := by
  induction n generalizing s with
  | zero => exact hs
  | succ n ih =>
    have hp := h s hs
    cases ht : s.step lines stop with
    | done t =>
      rw [run_succ_of_done ht]
      rw [ht] at hp
      exact hp
    | more t =>
      rw [run_succ_of_more ht]
      rw [ht] at hp
      exact ih hp

end Assembly
end Literate
