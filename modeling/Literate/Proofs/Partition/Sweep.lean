import Literate.Partition
import Literate.Proofs.Partition.Grid

/-! The sweep walks the grid: between two visits the active tokens are the tokens that contain the
cell, in the order in which they are sorted. -/

namespace Literate.Partition

open Grid

theorem foldl_min_le (ts : List Token) (p : Position) :
    ts.foldl (fun p u => min p u.span.stop) p ≤ p ∧
      ∀ t ∈ ts, ts.foldl (fun p u => min p u.span.stop) p ≤ t.span.stop := by
  induction ts generalizing p with
  | nil => simp
  | cons t ts ih =>
    obtain ⟨h, k⟩ := ih (min p t.span.stop)
    refine ⟨h.trans (min_le_left _ _), fun u hu => ?_⟩
    rcases List.mem_cons.mp hu with rfl | hu
    · exact h.trans (min_le_right _ _)
    · exact k u hu

theorem earliestStop_le {ts : List Token} {p : Position} (h : earliestStop ts = some p) :
    ∀ t ∈ ts, p ≤ t.span.stop := by
  cases ts with
  | nil => simp
  | cons u us =>
    simp only [earliestStop, Option.some.injEq] at h
    obtain ⟨h₁, h₂⟩ := foldl_min_le us u.span.stop
    intro t ht
    rcases List.mem_cons.mp ht with rfl | ht
    · exact h ▸ h₁
    · exact h ▸ h₂ t ht

theorem earliestStop_eq_none {ts : List Token} : earliestStop ts = none ↔ ts = [] := by
  cases ts <;> simp [earliestStop]

theorem nextEvent_eq_none {pending active : List Token} :
    nextEvent pending active = none ↔ pending = [] ∧ active = [] := by
  cases pending <;> cases active <;> simp [nextEvent, earliestStop]

theorem nextEvent_le_stop {pending active : List Token} {p : Position}
    (h : nextEvent pending active = some p) : ∀ t ∈ active, p ≤ t.span.stop := by
  intro t ht
  unfold nextEvent at h
  split at h
  · exact earliestStop_le h t ht
  · next hn => rw [earliestStop_eq_none.mp hn] at ht; simp at ht
  · next he =>
    rw [← Option.some.inj h]
    exact (min_le_right _ _).trans (earliestStop_le he t ht)

theorem nextEvent_le_start {t : Token} {ts active : List Token} {p : Position}
    (h : nextEvent (t :: ts) active = some p) : p ≤ t.span.start := by
  cases he : earliestStop active with
  | none => simp only [nextEvent, he, Option.some.injEq] at h; exact h.ge
  | some e =>
    simp only [nextEvent, he, Option.some.injEq] at h
    exact h ▸ min_le_left _ _

@[simp] theorem startsAt_iff {p : Position} {t : Token} : startsAt p t = true ↔ t.span.start = p :=
  decide_eq_true_iff

@[simp] theorem lasts_iff {p : Position} {t : Token} : lasts p t = true ↔ t.span.stop ≠ p :=
  decide_eq_true_iff

/-- Where a sweep over sorted tokens stands: those in `passed` have started, and the active ones are
those of them that go on. -/
structure Standing (us passed pending active : List Token) (cur : Position) : Prop where
  split : us = passed ++ pending
  started : ∀ t ∈ passed, t.span.start ≤ cur
  waiting : ∀ t ∈ pending, cur < t.span.start
  active : active = passed.filter fun t => cur < t.span.stop

section

variable {us passed pending active : List Token} {cur next : Position}

/-- tokens in the order of the sweep, none of which runs backward -/
structure Ready (us : List Token) : Prop where
  sorted : us.Pairwise fun a b => a.span.start ≤ b.span.start
  valid : ∀ t ∈ us, t.span.Valid

theorem ready_tokens (ts : List Token) : Ready (tokens ts) :=
  ⟨tokens_sorted ts, fun _ ht => (mem_tokens.mp ht).2⟩

theorem waiting_dropWhile {ts : List Token}
    (hs : ts.Pairwise fun a b => a.span.start ≤ b.span.start)
    (h : ∀ t ∈ ts, next ≤ t.span.start) :
    ∀ t ∈ ts.dropWhile (startsAt next), next < t.span.start := by
  induction ts with
  | nil => simp
  | cons u us ih =>
    rw [List.pairwise_cons] at hs
    by_cases hu : u.span.start = next
    · rw [List.dropWhile_cons_of_pos (by simpa using hu)]
      exact ih hs.2 fun t ht => h t (List.mem_cons_of_mem _ ht)
    · rw [List.dropWhile_cons_of_neg (by simpa using hu)]
      have hlt : next < u.span.start := lt_of_le_of_ne (h u (by simp)) (Ne.symm hu)
      intro t ht
      rcases List.mem_cons.mp ht with rfl | ht
      · exact hlt
      · exact hlt.trans_le (hs.1 t ht)

/-- A visit takes up the tokens that start there and lets go those that stop there. -/
theorem standing_visit (hr : Ready us) (split : us = passed ++ pending)
    (started : ∀ t ∈ passed, t.span.start ≤ next) (ahead : ∀ t ∈ pending, next ≤ t.span.start)
    (hactive : active = passed.filter fun t => next ≤ t.span.stop) :
    Standing us (passed ++ pending.takeWhile (startsAt next)) (pending.dropWhile (startsAt next))
      ((active ++ pending.takeWhile (startsAt next)).filter (lasts next)) next := by
  have taken : ∀ t ∈ pending.takeWhile (startsAt next), t.span.start = next ∧ t ∈ us := by
    intro t ht
    refine ⟨startsAt_iff.mp (List.mem_takeWhile_imp ht), ?_⟩
    rw [split]
    exact List.mem_append_right _ ((List.takeWhile_prefix _).subset ht)
  refine ⟨?_, ?_, ?_, ?_⟩
  · rw [List.append_assoc, List.takeWhile_append_dropWhile, split]
  · intro t ht
    rcases List.mem_append.mp ht with h | h
    · exact started t h
    · exact (taken t h).1.le
  · apply waiting_dropWhile _ ahead
    have h := hr.sorted
    rw [split] at h
    exact (List.pairwise_append.mp h).2.1
  · rw [hactive, List.filter_append, List.filter_append, List.filter_filter]
    congr 1
    · apply List.filter_congr
      intro t _
      rw [Bool.eq_iff_iff, Bool.and_eq_true, lasts_iff, decide_eq_true_eq, decide_eq_true_eq]
      exact ⟨fun h => lt_of_le_of_ne h.2 h.1.symm, fun h => ⟨h.ne', h.le⟩⟩
    · apply List.filter_congr
      intro t ht
      have hv : t.span.start ≤ t.span.stop := hr.valid t (taken t ht).2
      rw [(taken t ht).1] at hv
      rw [Bool.eq_iff_iff, lasts_iff, decide_eq_true_eq]
      exact ⟨fun h => lt_of_le_of_ne hv h.symm, fun h => h.ne'⟩

/-- The next visit is to the first point after this one. -/
theorem standing_next (hr : Ready us) (h : Standing us passed pending active cur)
    (hn : nextEvent pending active = some next) :
    next ∈ points us ∧ cur < next ∧ ∀ q ∈ points us, cur < q → next ≤ q := by
  have hstop : ∀ t ∈ passed, cur < t.span.stop → t ∈ active := by
    intro t ht hc
    rw [h.active]
    exact List.mem_filter.mpr ⟨ht, by simpa using hc⟩
  refine ⟨?_, ?_, ?_⟩
  · rw [mem_points, h.split]
    rcases nextEvent_mem hn with ⟨t, ts, rfl, ht⟩ | ⟨t, ht, hs⟩
    · exact ⟨t, by simp, .inl ht⟩
    · rw [h.active] at ht
      exact ⟨t, List.mem_append_left _ (List.mem_filter.mp ht).1, .inr hs⟩
  · rcases nextEvent_mem hn with ⟨t, ts, rfl, ht⟩ | ⟨t, ht, hs⟩
    · exact ht ▸ h.waiting t (by simp)
    · rw [h.active, List.mem_filter] at ht
      exact hs ▸ by simpa using ht.2
  · -- a point ahead is a stop of an active token, or belongs to a pending one, none of which
    -- starts before the first of them
    intro q hq hc
    obtain ⟨t, ht, hq⟩ := mem_points.mp hq
    rw [h.split, List.mem_append] at ht
    rcases ht with ht | ht
    · rcases hq with rfl | rfl
      · exact absurd hc (h.started t ht).not_gt
      · exact nextEvent_le_stop hn t (hstop t ht hc)
    · have hle : t.span.start ≤ q := by
        rcases hq with rfl | rfl
        · exact le_rfl
        · exact hr.valid t (h.split ▸ List.mem_append_right _ ht)
      refine le_trans ?_ hle
      have hs := hr.sorted
      rw [h.split] at hs
      cases pending with
      | nil => simp at ht
      | cons u us' =>
        have hu := nextEvent_le_start hn
        rcases List.mem_cons.mp ht with rfl | ht
        · exact hu
        · exact hu.trans ((List.pairwise_cons.mp (List.pairwise_append.mp hs).2.1).1 t ht)

/-- Until the next visit the active tokens contain the cell, and no others do. -/
theorem covering_eq_active (h : Standing us passed pending active cur) (hlt : cur < next)
    (hl : ∀ q ∈ points us, cur < q → next ≤ q) : covering us ⟨cur, next⟩ = active := by
  have hpend : pending.filter (fun t => decide (t.span.Contains ⟨cur, next⟩)) = [] := by
    rw [List.filter_eq_nil_iff]
    intro t ht hc
    exact absurd (h.waiting t ht) ((of_decide_eq_true hc).1.not_gt)
  unfold covering
  rw [h.active, h.split, List.filter_append, hpend, List.append_nil]
  apply List.filter_congr
  intro t ht
  rw [Bool.eq_iff_iff, decide_eq_true_eq, decide_eq_true_eq]
  refine ⟨fun hc => hlt.trans_le hc.2, fun hc => ⟨h.started t ht, hl _ ?_ hc⟩⟩
  exact mem_points.mpr ⟨t, h.split ▸ List.mem_append_left _ ht, .inr rfl⟩

theorem stretch_eq (h : Standing us passed pending active cur) (hlt : cur < next)
    (hl : ∀ q ∈ points us, cur < q → next ≤ q) :
    stretch cur next active = (segment? us ⟨cur, next⟩).toList := by
  unfold stretch segment?
  rw [covering_eq_active h hlt hl]
  by_cases ha : active = [] <;> simp [ha, hlt]

end

section

variable {ps : List Position} {p q : Position}

theorem points_eq_cons (hs : ps.Pairwise (· < ·)) (hp : p ∈ ps) (hl : ∀ q ∈ ps, p ≤ q) :
    ps = p :: ps.filter (p < ·) := by
  cases ps with
  | nil => simp at hp
  | cons r rs =>
    rw [List.pairwise_cons] at hs
    have hr : p = r := by
      rcases List.mem_cons.mp hp with h | h
      · exact h
      · exact absurd (hs.1 p h) (hl r (by simp)).not_gt
    subst hr
    have hrs : rs.filter (p < ·) = rs := List.filter_eq_self.mpr (by simpa using hs.1)
    simp [hrs]

theorem filter_points_eq_cons (hs : ps.Pairwise (· < ·)) (hp : p ∈ ps) (hq : q < p)
    (hl : ∀ r ∈ ps, q < r → p ≤ r) : ps.filter (q < ·) = p :: ps.filter (p < ·) := by
  have h := points_eq_cons (hs.filter (q < ·)) (p := p) (by simp [hp, hq]) (by simpa using hl)
  rw [h, List.filter_filter]
  congr 1
  apply List.filter_congr
  intro r _
  simpa using fun hr => hq.trans hr

end

/-- One visit hands out the stretch behind it and goes on with the tokens that then are active. -/
theorem sweep_visit {pending active : List Token} {next : Position} (cur : Position)
    (h : nextEvent pending active = some next) :
    sweep cur pending active = stretch cur next active ++
      sweep next (pending.dropWhile (startsAt next))
        ((active ++ pending.takeWhile (startsAt next)).filter (lasts next)) := by
  rw [sweep]
  split
  · next hn => exact absurd (hn.symm.trans h) (by simp)
  · next e he =>
    obtain rfl : next = e := Option.some.inj (h.symm.trans he)
    rfl

theorem sweep_eq {us : List Token} (hr : Ready us) (cur : Position) (pending active : List Token)
    {passed : List Token} (h : Standing us passed pending active cur) :
    sweep cur pending active =
      (cells (cur :: (points us).filter (cur < ·))).filterMap (segment? us) := by
  induction cur, pending, active using sweep.induct generalizing passed with
  | case1 cur pending active hn =>
    have none_left : (points us).filter (cur < ·) = [] := by
      obtain ⟨rfl, ha⟩ := nextEvent_eq_none.mp hn
      have hp := h.active
      rw [ha, eq_comm, List.filter_eq_nil_iff] at hp
      rw [List.filter_eq_nil_iff]
      intro q hq hc
      obtain ⟨t, ht, hq⟩ := mem_points.mp hq
      rw [h.split, List.append_nil] at ht
      rcases hq with rfl | rfl
      · exact absurd (of_decide_eq_true hc) (h.started t ht).not_gt
      · exact hp t ht hc
    rw [sweep, none_left]
    split
    · rfl
    · simp_all
  | case2 cur pending active next hn ih =>
    obtain ⟨hmem, hlt, hl⟩ := standing_next hr h hn
    have lasting : active = passed.filter fun t => next ≤ t.span.stop := by
      rw [h.active]
      apply List.filter_congr
      intro t ht
      rw [Bool.eq_iff_iff, decide_eq_true_eq, decide_eq_true_eq]
      refine ⟨hl _ (mem_points.mpr ⟨t, h.split ▸ List.mem_append_left _ ht, .inr rfl⟩), ?_⟩
      exact hlt.trans_le
    have visit := standing_visit hr h.split (fun t ht => (h.started t ht).trans hlt.le)
      (fun t ht => hl _ (mem_points.mpr ⟨t, h.split ▸ List.mem_append_right _ ht, .inl rfl⟩)
        (h.waiting t ht)) lasting
    rw [sweep_visit cur hn, ih visit, stretch_eq h hlt hl,
      filter_points_eq_cons (points_sorted us) hmem hlt hl, cells_cons]
    cases hseg : segment? us ⟨cur, next⟩ <;> simp [hseg]

end Literate.Partition
