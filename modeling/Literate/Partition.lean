import Literate.Mark

/-! Overlapping tokens cut into disjoint segments. A sweep visits every start and stop of a token in
order, and hands out the stretch since its last visit whenever a token covers it. -/

namespace Literate.Partition

/-- the earliest stop of the tokens -/
def earliestStop : List Token → Option Position
  | [] => none
  | t :: ts => some (ts.foldl (fun p u => min p u.span.stop) t.span.stop)

/-- where the sweep goes next: the next start, or an earlier stop of an active token -/
def nextEvent (pending active : List Token) : Option Position :=
  match pending, earliestStop active with
  | [], e => e
  | t :: _, none => some t.span.start
  | t :: _, some e => some (min t.span.start e)

theorem foldl_min_mem (ts : List Token) (p : Position) :
    ts.foldl (fun p u => min p u.span.stop) p = p ∨
      ∃ t ∈ ts, t.span.stop = ts.foldl (fun p u => min p u.span.stop) p := by
  induction ts generalizing p with
  | nil => exact .inl rfl
  | cons t ts ih =>
    simp only [List.foldl_cons]
    rcases ih (min p t.span.stop) with h | ⟨u, hu, h⟩
    · rcases Position.min_eq_left_or_right p t.span.stop with k | k
      · exact .inl (by rw [h, k])
      · exact .inr ⟨t, by simp, by rw [h, k]⟩
    · exact .inr ⟨u, by simp [hu], h⟩

theorem earliestStop_mem {ts : List Token} {p : Position} (h : earliestStop ts = some p) :
    ∃ t ∈ ts, t.span.stop = p := by
  cases ts with
  | nil => simp [earliestStop] at h
  | cons t ts =>
    simp only [earliestStop, Option.some.injEq] at h
    rcases foldl_min_mem ts t.span.stop with k | ⟨u, hu, k⟩
    · exact ⟨t, by simp, by rw [← h, k]⟩
    · exact ⟨u, by simp [hu], by rw [← h, k]⟩

/-- every visit starts the next token or stops an active one -/
theorem nextEvent_mem {pending active : List Token} {p : Position}
    (h : nextEvent pending active = some p) :
    (∃ t ts, pending = t :: ts ∧ t.span.start = p) ∨ ∃ t ∈ active, t.span.stop = p := by
  unfold nextEvent at h
  split at h
  · exact .inr (earliestStop_mem h)
  · exact .inl ⟨_, _, rfl, by simpa using h⟩
  · next t ts e he =>
    rcases Position.min_eq_left_or_right t.span.start e with k | k
    · exact .inl ⟨_, _, rfl, by rw [← k]; simpa using h⟩
    · exact .inr (earliestStop_mem (by rw [he, ← h, k]))

def startsAt (p : Position) (t : Token) : Bool := t.span.start = p

def lasts (p : Position) (t : Token) : Bool := t.span.stop ≠ p

/-- the stretch between two visits, if it is not empty and covered -/
def stretch (cur next : Position) (active : List Token) : List Segment :=
  if cur < next ∧ active ≠ [] then
    [⟨⟨cur, next⟩, Mark.merge (active.map Token.mark)⟩]
  else []

/-- At each visit the tokens that start there become active, after which those that stop there
cease to be: an empty token leaves a boundary and nothing else. -/
def sweep (cur : Position) (pending active : List Token) : List Segment :=
  match _h : nextEvent pending active with
  | none => []
  | some next =>
    stretch cur next active ++
      sweep next (pending.dropWhile (startsAt next))
        ((active ++ pending.takeWhile (startsAt next)).filter (lasts next))
termination_by 2 * pending.length + active.length
decreasing_by
  have parts := List.takeWhile_append_dropWhile (p := startsAt next) (l := pending)
  have len := congrArg List.length parts
  simp only [List.length_append] at len
  rcases nextEvent_mem ‹_› with ⟨t, ts, rfl, ht⟩ | ⟨t, ht, hs⟩
  · have here : 0 < ((t :: ts).takeWhile (startsAt next)).length := by
      simp [startsAt, ht]
    have := List.length_filter_le (lasts next) (active ++ (t :: ts).takeWhile (startsAt next))
    simp only [List.length_append] at this
    omega
  · have gone : ((active ++ pending.takeWhile (startsAt next)).filter (lasts next)).length <
        (active ++ pending.takeWhile (startsAt next)).length := by
      rw [List.length_filter_lt_length_iff_exists]
      exact ⟨t, by simp [ht], by simp [lasts, hs]⟩
    simp only [List.length_append] at gone
    omega

end Partition

/-- Disjoint segments in order that cover what the tokens cover, cut at every start and stop. The
tokens must be sorted; those that run backward are left out. -/
def partition (ts : List Token) : List Segment :=
  match ts.filter (fun t => t.span.Valid) with
  | [] => []
  | t :: ts => Partition.sweep t.span.start (t :: ts) []

end Literate
