import Mathlib.Data.List.Iterate
import Literate.Proofs.Assembly.Ending
import Literate.Proofs.Buffer.Clamp

/-! Where a forced advance leads. From a position of the buffer it is the next position, so repeated
advances pass every position up to the end, each of them once. From anywhere it leads no further than
the next position of the buffer: no comment that starts in the buffer is stepped over. -/

namespace Literate

namespace Buffer

variable {lines : Buffer} {stop p q : Position}

/-- No position of the buffer lies between a position and the one that follows it. -/
theorem following_le (hq : lines.Holds q) (h : p < q) : lines.following p ≤ q := by
  have column : (⟨p.line, p.column + 1⟩ : Position) ≤ q := by
    rw [Position.le_def]
    rw [Position.lt_def] at h
    simp only
    omega
  unfold following
  split
  · next line hline =>
    split
    · next hend =>
      -- behind the end of its line there is no position, so `q` stands on a later one
      have later : p.line < q.line := by
        rcases h with h | ⟨same, h⟩
        · exact h
        · have hrow := hq.line_nonneg
          have hcol := hq.column_le
          rw [← same] at hrow hcol
          rw [if_neg hrow.not_gt] at hline
          rw [List.getD_eq_getElem?_getD, hline, Option.getD_some] at hcol
          omega
      have hcol := hq.column_nonneg
      rw [Position.le_def]
      simp only
      omega
    · exact column
  · exact column

/-- A step forward leads no further than any position of the buffer that is ahead. -/
theorem advance_le (hq : lines.Holds q) (h : p < q) : lines.advance lines.last p ≤ q := by
  have hle := following_le hq h
  have hline : (lines.following p).line < lines.length := (Position.line_le hle).trans_lt hq.line_lt
  have hlast := hle.trans hq.le_last
  rw [advance_eq_following, if_neg]
  · exact hle
  · rintro (k | k)
    · exact absurd hline k.not_gt
    · exact absurd hlast k.not_ge

theorem isLeast_advance (hp : lines.Holds p) (h : p < lines.last) :
    IsLeast {q | lines.Holds q ∧ p < q} (lines.advance lines.last p) :=
  ⟨⟨(advance_spec hp h).1, (lt_advance h).1⟩, fun _ hq => advance_le hq.1 hq.2⟩

theorem advance_stop (lines : Buffer) (stop : Position) : lines.advance stop stop = stop := by
  rw [advance_eq_following, if_pos (.inr (lt_following lines stop))]

theorem eq_of_offset_eq (hp : lines.Holds p) (hq : lines.Holds q)
    (h : lines.offset p = lines.offset q) : p = q :=
  le_antisymm ((offset_le_iff hp hq).mp h.le) ((offset_le_iff hq hp).mp h.ge)

/-- So many steps forward are so many characters further in the text. -/
theorem iterate_advance (hp : lines.Holds p) {k : Nat}
    (hk : lines.offset p + k ≤ lines.offset lines.last) :
    lines.Holds ((lines.advance lines.last)^[k] p) ∧
      lines.offset ((lines.advance lines.last)^[k] p) = lines.offset p + k := by
  induction k with
  | zero => exact ⟨hp, rfl⟩
  | succ k ih =>
    obtain ⟨holds, offset⟩ := ih (by omega)
    have hlt : (lines.advance lines.last)^[k] p < lines.last := by
      rw [← offset_lt_iff holds (holds_last hp.ne_nil), offset]
      omega
    obtain ⟨holds', offset'⟩ := advance_spec holds hlt
    rw [Function.iterate_succ_apply']
    exact ⟨holds', by rw [offset', offset, Nat.add_assoc]⟩

/-- The steps from a position up to the end pass the positions of the buffer in order. -/
theorem iterate_advance_sorted (hp : lines.Holds p) {n : Nat}
    (hn : lines.offset p + n = lines.offset lines.last) :
    (List.iterate (lines.advance lines.last) p (n + 1)).Pairwise (· < ·) := by
  rw [List.pairwise_iff_getElem]
  intro i j hi hj hij
  rw [List.length_iterate] at hi hj
  obtain ⟨holds, offset⟩ := iterate_advance hp (k := i) (by omega)
  obtain ⟨holds', offset'⟩ := iterate_advance hp (k := j) (by omega)
  rw [List.getElem_iterate, List.getElem_iterate, ← offset_lt_iff holds holds', offset, offset']
  omega

theorem mem_iterate_advance (hp : lines.Holds p) {n : Nat}
    (hn : lines.offset p + n = lines.offset lines.last) :
    q ∈ List.iterate (lines.advance lines.last) p (n + 1) ↔
      lines.Holds q ∧ p ≤ q ∧ q ≤ lines.last := by
  rw [List.mem_iterate]
  constructor
  · rintro ⟨k, hk, rfl⟩
    obtain ⟨holds, offset⟩ := iterate_advance hp (k := k) (by omega)
    refine ⟨holds, ?_, holds.le_last⟩
    rw [← offset_le_iff hp holds, offset]
    omega
  · rintro ⟨hq, hle, hend⟩
    have hpq := (offset_le_iff hp hq).mpr hle
    have hqn := (offset_le_iff hq (holds_last hp.ne_nil)).mpr hend
    obtain ⟨holds, offset⟩ := iterate_advance hp (k := lines.offset q - lines.offset p) (by omega)
    exact ⟨lines.offset q - lines.offset p, by omega, eq_of_offset_eq hq holds (by omega)⟩

end Buffer

namespace Assembly

variable {lines : Buffer} {stop : Position} {s t : Assembly}

/-- A step that warns of a stall is a forced advance from the place of the stall, where the next comment
does not start. -/
theorem step_of_stalled {p : Position} {x y : Option Position} (h : s.step lines stop = .more t)
    (hn : t.notices = s.notices ++ [.stalled p x y]) :
    p = max s.cursor (s.gapEnd stop) ∧ t.cursor = lines.advance stop p ∧ t.comments = s.comments ∧
      s.nextComment ≠ some p := by
  have quiet : t.notices ≠ s.notices := by simp [hn]
  rw [step_eq] at h
  rcases takeEvent_cases lines stop (s.fillGap lines stop) with
    ⟨c, cs, -, -, he⟩ | ⟨-, z, zs, -, -, he⟩ | ⟨-, -, -, he⟩ | ⟨hc, -, -, he⟩
  · obtain rfl := Progress.more.inj (he.symm.trans h)
    exact absurd fillGap_notices quiet
  · obtain rfl := Progress.more.inj (he.symm.trans h)
    exact absurd fillGap_notices quiet
  · cases he.symm.trans h
  · obtain rfl := Progress.more.inj (he.symm.trans h)
    rw [forceAdvance, fillGap_notices] at hn
    obtain ⟨rfl, -, -⟩ := Notice.stalled.inj (List.singleton_inj.mp (List.append_cancel_left hn))
    rw [nextComment, fillGap_comments] at hc
    exact ⟨fillGap_cursor, rfl, fillGap_comments, hc⟩

end Assembly

/-- In front of the end of a buffer a forced advance leads to the least position of the buffer that is
further on, and at the end it stays. So the advances from a position on pass the positions from there up
to the end, each once. A step of the assembly that is stuck keeps its comments, steps over the start of
none of them that starts in the buffer, and the next one, unless it was behind, is still ahead. -/
theorem advance_successor (lines : Buffer) :
    (∀ p, lines.Holds p → p < lines.last →
      IsLeast {q | lines.Holds q ∧ p < q} (lines.advance lines.last p)) ∧
    lines.advance lines.last lines.last = lines.last ∧
    (∀ p, lines.Holds p → ∃ n, (lines.advance lines.last)^[n] p = lines.last ∧
      (List.iterate (lines.advance lines.last) p (n + 1)).Pairwise (· < ·) ∧
      ∀ q, q ∈ List.iterate (lines.advance lines.last) p (n + 1) ↔
        lines.Holds q ∧ p ≤ q ∧ q ≤ lines.last) ∧
    ∀ (s t : Assembly) (p : Position) (x y : Option Position), s.step lines lines.last = .more t →
      t.notices = s.notices ++ [.stalled p x y] → t.comments = s.comments ∧
        (∀ c ∈ s.comments, lines.Holds c.span.start → p < c.span.start → t.cursor ≤ c.span.start) ∧
        ∀ c ∈ s.comments.head?, s.cursor ≤ c.span.start → p < c.span.start := by
  refine ⟨fun p => Buffer.isLeast_advance, lines.advance_stop _, ?_, ?_⟩
  · intro p hp
    have hlast := Buffer.holds_last hp.ne_nil
    obtain ⟨n, hn⟩ := Nat.exists_eq_add_of_le ((Buffer.offset_le_iff hp hlast).mpr hp.le_last)
    obtain ⟨holds, offset⟩ := Buffer.iterate_advance hp hn.ge
    exact ⟨n, Buffer.eq_of_offset_eq holds hlast (offset.trans hn.symm),
      Buffer.iterate_advance_sorted hp hn.symm, fun q => Buffer.mem_iterate_advance hp hn.symm⟩
  · intro s t p x y hstep hnotices
    obtain ⟨place, cursor, comments, apart⟩ := Assembly.step_of_stalled hstep hnotices
    refine ⟨comments, fun c _ holds hlt => cursor ▸ Buffer.advance_le holds hlt, fun c hc hle => ?_⟩
    -- the gap goes no further than the comment, and the comment is not where the step is stuck
    obtain ⟨cs, hcs⟩ : ∃ cs, s.comments = c :: cs := by
      cases hs : s.comments with
      | nil => simp [hs] at hc
      | cons d ds =>
        rw [hs, List.head?_cons, Option.mem_some_iff] at hc
        exact ⟨ds, by rw [hc]⟩
    have reach : p ≤ c.span.start := place ▸ max_le hle (Assembly.gapEnd_le_comment hcs)
    refine reach.lt_of_ne fun same => apart ?_
    rw [Assembly.nextComment_eq_some]
    exact ⟨c, cs, hcs, same.symm⟩

/-- past the end of a line and over an empty one -/
example : List.iterate (Buffer.advance [['a'], [], ['b']] ⟨2, 1⟩) ⟨0, 0⟩ 6 =
    [⟨0, 0⟩, ⟨0, 1⟩, ⟨1, 0⟩, ⟨2, 0⟩, ⟨2, 1⟩, ⟨2, 1⟩] := by decide

end Literate
