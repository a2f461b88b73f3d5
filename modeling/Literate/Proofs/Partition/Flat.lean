import Literate.Proofs.Partition.Coverage

/-! Flat tokens: sorted, none of them empty, none on top of another. A sweep over them has one token
active at a time; it hands that token out whole and then idles up to the next one, over no distance at
all where two tokens touch. What a partition returns is flat, and so it is its own partition. -/

namespace Literate

/-- the token as a piece of its own -/
def Token.segment (t : Token) : Segment := ⟨t.span, t.mark⟩

/-- the segment as a token again -/
def Segment.token (s : Segment) : Token := ⟨s.span, s.mark⟩

namespace Partition

/-- sorted tokens of some length, any two of them apart; they may touch -/
structure Flat (ts : List Token) : Prop where
  sorted : ts.Pairwise fun a b => a.span.before b.span = true
  full : ∀ t ∈ ts, t.span.start < t.span.stop
  apart : ts.Pairwise fun a b => a.span.Apart b.span

instance (ts : List Token) : Decidable (Flat ts) :=
  decidable_of_iff ((ts.Pairwise fun a b => a.span.before b.span = true) ∧
      (∀ t ∈ ts, t.span.start < t.span.stop) ∧ ts.Pairwise fun a b => a.span.Apart b.span)
    ⟨fun ⟨h₁, h₂, h₃⟩ => ⟨h₁, h₂, h₃⟩, fun ⟨h₁, h₂, h₃⟩ => ⟨h₁, h₂, h₃⟩⟩

variable {t : Token} {ts : List Token} {cur : Position}

theorem Flat.tail (h : Flat (t :: ts)) : Flat ts where
  sorted := (List.pairwise_cons.mp h.sorted).2
  full u hu := h.full u (List.mem_cons_of_mem t hu)
  apart := (List.pairwise_cons.mp h.apart).2

theorem Flat.head (h : Flat (t :: ts)) : t.span.start < t.span.stop := h.full t List.mem_cons_self

/-- Of two tokens that are apart the one that comes first in the order also stops first. -/
theorem Flat.stop_le (h : Flat (t :: ts)) : ∀ u ∈ ts, t.span.stop ≤ u.span.start := by
  intro u hu
  have start_le := Span.start_le_of_before ((List.pairwise_cons.mp h.sorted).1 u hu)
  rcases (List.pairwise_cons.mp h.apart).1 u hu with k | k
  · exact k
  · have hlt := h.full u (List.mem_cons_of_mem t hu)
    exact absurd (start_le.trans_lt hlt) k.not_gt

theorem Flat.start_lt (h : Flat (t :: ts)) : ∀ u ∈ ts, t.span.start < u.span.start := by
  intro u hu
  exact h.head.trans_le (h.stop_le u hu)

theorem flat_of_stops {ss : List Segment} (hs : ss.Pairwise fun a b => a.span.stop ≤ b.span.start)
    (hf : ∀ s ∈ ss, s.span.start < s.span.stop) : Flat (ss.map Segment.token) where
  sorted := by
    rw [List.pairwise_map]
    apply hs.imp_of_mem
    intro a b ha _ hab
    exact Span.before_iff.mpr (.inl ((hf a ha).trans_le hab))
  full := by
    intro t ht
    obtain ⟨s, hs, rfl⟩ := List.mem_map.mp ht
    exact hf s hs
  apart := by
    rw [List.pairwise_map]
    exact hs.imp fun hab => .inl hab

theorem sortTokens_of_flat (h : Flat ts) : sortTokens ts = ts := List.mergeSort_of_pairwise h.sorted

/-- Tokens that start later are left for later. -/
theorem take_later {p : Position} (h : ∀ u ∈ ts, p < u.span.start) :
    ts.takeWhile (startsAt p) = [] ∧ ts.dropWhile (startsAt p) = ts := by
  cases ts with
  | nil => exact ⟨rfl, rfl⟩
  | cons u us =>
    have hu : ¬ startsAt p u = true := by
      rw [startsAt_iff]
      exact (h u List.mem_cons_self).ne'
    exact ⟨List.takeWhile_cons_of_neg hu, List.dropWhile_cons_of_neg hu⟩

/-- At the start of a token it is taken, and no other. -/
theorem take_first (h : Flat (t :: ts)) :
    (t :: ts).takeWhile (startsAt t.span.start) = [t] ∧
      (t :: ts).dropWhile (startsAt t.span.start) = ts := by
  obtain ⟨taken, dropped⟩ := take_later h.start_lt
  have here : startsAt t.span.start t = true := startsAt_iff.mpr rfl
  rw [List.takeWhile_cons_of_pos here, List.dropWhile_cons_of_pos here, taken, dropped]
  exact ⟨rfl, rfl⟩

/-- No token is active: nothing is handed out up to the start of the next one. -/
theorem sweep_idle (h : Flat (t :: ts)) (cur : Position) :
    sweep cur (t :: ts) [] = sweep t.span.start ts [t] := by
  obtain ⟨taken, dropped⟩ := take_first h
  have lasting : lasts t.span.start t = true := lasts_iff.mpr h.head.ne'
  have nothing : stretch cur t.span.start [] = [] := by simp [stretch]
  rw [sweep_visit cur (show nextEvent (t :: ts) [] = some t.span.start from rfl), nothing, taken,
    dropped, List.nil_append, List.nil_append, List.filter_cons_of_pos lasting, List.filter_nil]

theorem nextEvent_alone (h : Flat (t :: ts)) : nextEvent ts [t] = some t.span.stop := by
  cases ts with
  | nil => rfl
  | cons u us =>
    have hle := h.stop_le u List.mem_cons_self
    exact congrArg some (min_eq_right hle)

/-- One token is active: it is handed out up to its stop, and there it ceases to be active, also where
the next one starts at once. -/
theorem sweep_alone (h : Flat (t :: ts)) (hcur : cur < t.span.stop) :
    sweep cur ts [t] = ⟨⟨cur, t.span.stop⟩, t.mark⟩ :: sweep t.span.stop ts [] := by
  have piece : stretch cur t.span.stop [t] = [⟨⟨cur, t.span.stop⟩, t.mark⟩] := by
    simp [stretch, hcur]
  have ceases : ¬ lasts t.span.stop t = true := by simp
  rw [sweep_visit cur (nextEvent_alone h), piece, List.singleton_append, List.singleton_append,
    List.filter_cons_of_neg ceases]
  congr 1
  cases ts with
  | nil => rfl
  | cons u us =>
    rcases (h.stop_le u List.mem_cons_self).eq_or_lt with touch | gap
    · -- one visit lets go of the one token and takes up the other
      obtain ⟨taken, dropped⟩ := take_first h.tail
      have lasting : lasts u.span.start u = true := lasts_iff.mpr h.tail.head.ne'
      rw [sweep_idle h.tail, touch, taken, dropped, List.filter_cons_of_pos lasting,
        List.filter_nil]
    · have later : ∀ v ∈ u :: us, t.span.stop < v.span.start := by
        intro v hv
        rcases List.mem_cons.mp hv with rfl | hv
        · exact gap
        · exact gap.trans (h.tail.start_lt v hv)
      obtain ⟨taken, dropped⟩ := take_later later
      rw [taken, dropped, List.filter_nil]

theorem sweep_flat (h : Flat ts) (cur : Position) : sweep cur ts [] = ts.map Token.segment := by
  induction ts generalizing cur with
  | nil => rw [sweep]; rfl
  | cons t ts ih =>
    rw [sweep_idle h, sweep_alone h h.head, ih h.tail, List.map_cons]
    rfl

theorem partition_of_flat (h : Flat ts) : partition ts = ts.map Token.segment := by
  have valid : ts.filter (fun t => t.span.Valid) = ts := by
    rw [List.filter_eq_self]
    intro t ht
    exact decide_eq_true (h.full t ht).le
  unfold partition
  rw [valid]
  cases ts with
  | nil => rfl
  | cons t ts => exact sweep_flat h t.span.start

theorem flat_partition (ts : List Token) :
    Flat ((partition (sortTokens ts)).map Segment.token) := by
  rw [Grid.partition_eq]
  apply flat_of_stops (Grid.segments_sorted ts)
  intro s hs
  exact Grid.segment_nonempty hs

end Partition

/-- Flat tokens are their own partition. So are the segments of every partition, taken as tokens, and
they are in order. -/
theorem partition_fixed :
    (∀ ts : List Token, Partition.Flat ts → partition ts = ts.map Token.segment) ∧
    ∀ ts : List Token,
      partition ((partition (sortTokens ts)).map Segment.token) = partition (sortTokens ts) ∧
      sortTokens ((partition (sortTokens ts)).map Segment.token) =
        (partition (sortTokens ts)).map Segment.token := by
  constructor
  · intro ts h
    exact Partition.partition_of_flat h
  · intro ts
    have flat := Partition.flat_partition ts
    refine ⟨?_, Partition.sortTokens_of_flat flat⟩
    rw [Partition.partition_of_flat flat, List.map_map]
    exact List.map_id _

/-- Two tokens that touch, and one behind a gap: nothing of one leaks into the next. -/
theorem partition_fixed_touching :
    Partition.Flat [⟨⟨⟨0, 0⟩, ⟨0, 3⟩⟩, { symbol := "f", isDefinition := true }⟩,
      ⟨⟨⟨0, 3⟩, ⟨1, 2⟩⟩, { highlight := "string" }⟩, ⟨⟨⟨1, 4⟩, ⟨1, 5⟩⟩, { doc := ["d"] }⟩] ∧
    partition [⟨⟨⟨0, 0⟩, ⟨0, 3⟩⟩, { symbol := "f", isDefinition := true }⟩,
      ⟨⟨⟨0, 3⟩, ⟨1, 2⟩⟩, { highlight := "string" }⟩, ⟨⟨⟨1, 4⟩, ⟨1, 5⟩⟩, { doc := ["d"] }⟩] =
        [⟨⟨⟨0, 0⟩, ⟨0, 3⟩⟩, { symbol := "f", isDefinition := true }⟩,
          ⟨⟨⟨0, 3⟩, ⟨1, 2⟩⟩, { highlight := "string" }⟩, ⟨⟨⟨1, 4⟩, ⟨1, 5⟩⟩, { doc := ["d"] }⟩] :=
  ⟨by decide, partition_fixed.1 _ (by decide)⟩

end Literate
