import Literate.Proofs.Assembly.Trace

/-! The assembly ends. A step takes a segment or a comment away, or it moves the cursor on towards the
end, and there are only so many places to pass: one for each character, and one for each end of a
line. The number of steps that the assembly is given is more than that. -/

namespace Literate

namespace Buffer

variable {lines : Buffer} {stop p : Position}

/-- One column on, or at the start of the next line behind a line that is used up: the next position
unless it is cut off at the end. -/
def following (lines : Buffer) (p : Position) : Position :=
  match if p.line < 0 then none else lines[p.line.toNat]? with
  | some line => if line.length < p.column + 1 then ⟨p.line + 1, 0⟩ else ⟨p.line, p.column + 1⟩
  | none => ⟨p.line, p.column + 1⟩

theorem advance_eq_following (lines : Buffer) (stop p : Position) :
    lines.advance stop p =
      if (lines.length : Int) ≤ (lines.following p).line ∨ stop < lines.following p then stop
      else lines.following p := rfl

theorem lt_following (lines : Buffer) (p : Position) : p < lines.following p := by
  have column : p < ⟨p.line, p.column + 1⟩ := .inr ⟨rfl, by simp⟩
  have line : p < ⟨p.line + 1, 0⟩ := .inl (by simp)
  unfold following
  split
  · split
    · exact line
    · exact column
  · exact column

/-- From a position before the end the next one is further on, and not behind the end. -/
theorem lt_advance (h : p < stop) : p < lines.advance stop p ∧ lines.advance stop p ≤ stop := by
  rw [advance_eq_following]
  split
  · exact ⟨h, le_rfl⟩
  · next hin =>
    push Not at hin
    exact ⟨lt_following lines p, hin.2⟩

/-- how many lines and characters there are -/
def places (lines : Buffer) : Nat := lines.foldr (fun line n => line.length + 1 + n) 0

/-- How many steps forward there are from a position on, at most: the rest of its line, which is one
step at least, and the lines behind it. -/
def ahead (lines : Buffer) (p : Position) : Nat :=
  match lines.drop p.line.toNat with
  | [] => 0
  | line :: rest => max 1 (line.length + 1 - p.column).toNat + places rest

theorem places_drop_le (lines : Buffer) (n : Nat) : places (lines.drop n) ≤ lines.places := by
  induction lines generalizing n with
  | nil => simp
  | cons line lines ih =>
    cases n with
    | zero => exact le_rfl
    | succ n =>
      have := ih n
      simp only [List.drop_succ_cons, places, List.foldr_cons] at this ⊢
      omega

/-- A column so far below zero adds as much. -/
theorem ahead_le {d : Nat} (h : -(d : Int) ≤ p.column) : lines.ahead p ≤ lines.places + d := by
  have hle := places_drop_le lines p.line.toNat
  unfold ahead
  split
  · exact Nat.zero_le _
  · next line rest hdrop =>
    rw [hdrop, places, List.foldr_cons] at hle
    unfold places at hle ⊢
    omega

theorem ahead_start (lines : Buffer) (r : Int) :
    lines.ahead ⟨r, 0⟩ = places (lines.drop r.toNat) := by
  unfold ahead
  split
  · next hdrop => rw [hdrop]; rfl
  · next line rest hdrop =>
    rw [hdrop, places, places, List.foldr_cons]
    simp only
    omega

theorem ahead_following (h₀ : 0 ≤ p.line) (h : (lines.following p).line < lines.length) :
    0 ≤ (lines.following p).line ∧ min p.column 0 ≤ (lines.following p).column ∧
      lines.ahead (lines.following p) < lines.ahead p := by
  have hsplit := @List.drop_eq_getElem_cons _ p.line.toNat lines
  unfold following at h ⊢
  rw [if_neg h₀.not_gt] at h ⊢
  cases hline : lines[p.line.toNat]? with
  | none =>
    rw [List.getElem?_eq_none_iff] at hline
    rw [List.getElem?_eq_none hline] at h
    simp only at h
    omega
  | some line =>
    obtain ⟨hlt, rfl⟩ := List.getElem?_eq_some_iff.mp hline
    simp only
    split
    · refine ⟨by simp only; omega, by simp, ?_⟩
      have hn : (p.line + 1).toNat = p.line.toNat + 1 := by omega
      rw [ahead_start, hn, ahead, hsplit hlt]
      simp only
      omega
    · refine ⟨h₀, by simp only; omega, ?_⟩
      simp only [ahead, hsplit hlt]
      omega

/-- A step forward that does not reach the end leaves less to pass. -/
theorem ahead_advance (h₀ : 0 ≤ p.line) (h : lines.advance stop p < stop) :
    0 ≤ (lines.advance stop p).line ∧ min p.column 0 ≤ (lines.advance stop p).column ∧
      lines.ahead (lines.advance stop p) < lines.ahead p := by
  rw [advance_eq_following] at h ⊢
  split at h
  · exact absurd h (lt_irrefl _)
  · next hin =>
    rw [if_neg hin]
    push Not at hin
    exact ahead_following h₀ hin.1

end Buffer

namespace Assembly

variable {lines : Buffer} {stop : Position} {s t u : Assembly} {d n : Nat}

/-- The assembly that starts in `s` stops in `t`, after `n` steps and a last one. -/
inductive Ends (lines : Buffer) (stop : Position) : Nat → Assembly → Assembly → Prop where
  | done {s t : Assembly} (h : s.step lines stop = .done t) : Ends lines stop 0 s t
  | more {n : Nat} {s t u : Assembly} (h : s.step lines stop = .more t)
      (k : Ends lines stop n t u) : Ends lines stop (n + 1) s u

theorem Ends.run (h : Ends lines stop n s t) {m : Nat} (hm : n < m) : s.run lines stop m = t := by
  induction h generalizing m with
  | done h =>
    obtain ⟨m, rfl⟩ := Nat.exists_eq_add_of_le' hm
    exact run_succ_of_done h
  | more h _ ih =>
    obtain ⟨m, rfl⟩ := Nat.exists_eq_add_of_le' (Nat.zero_lt_of_lt hm)
    rw [run_succ_of_more h]
    exact ih (by omega)

theorem Ends.of_more (h : Ends lines stop n s u) (hs : s.step lines stop = .more t) :
    ∃ m, n = m + 1 ∧ Ends lines stop m t u := by
  cases h with
  | done k =>
    rw [hs] at k
    cases k
  | more k hm =>
    rw [hs] at k
    cases k
    exact ⟨_, rfl, hm⟩

theorem Ends.of_done (h : Ends lines stop n s u) (hs : s.step lines stop = .done t) : u = t := by
  cases h with
  | done k =>
    rw [hs] at k
    cases k
    rfl
  | more k _ =>
    rw [hs] at k
    cases k

/-- What the first step does, when the gap in front of it is filled. -/
theorem Ends.first (h : Ends lines stop n s t) {g : Assembly} (hg : s.fillGap lines stop = g) :
    (∃ c cs m, g.comments = c :: cs ∧ c.span.start = g.cursor ∧ n = m + 1 ∧
      Ends lines stop m (g.takeComment c cs) t) ∨
    (g.nextComment ≠ some g.cursor ∧ ∃ x xs m, g.segments = x :: xs ∧ x.span.start = g.cursor ∧
      n = m + 1 ∧ Ends lines stop m (g.takeSegment lines x xs) t) ∨
    (g.nextComment ≠ some g.cursor ∧ g.nextSegment ≠ some g.cursor ∧ stop ≤ g.cursor ∧ t = g) ∨
    (g.nextComment ≠ some g.cursor ∧ g.nextSegment ≠ some g.cursor ∧ g.cursor < stop ∧
      ∃ m, n = m + 1 ∧ Ends lines stop m (g.forceAdvance lines stop) t) := by
  have hstep : s.step lines stop = g.takeEvent lines stop := by rw [step_eq, hg]
  rcases takeEvent_cases lines stop g with ⟨c, cs, hs, hat, he⟩ | ⟨hno, x, xs, hs, hat, he⟩ |
    ⟨hno, hno', hle, he⟩ | ⟨hno, hno', hlt, he⟩
  · obtain ⟨m, hm, k⟩ := h.of_more (hstep.trans he)
    exact .inl ⟨c, cs, m, hs, hat, hm, k⟩
  · obtain ⟨m, hm, k⟩ := h.of_more (hstep.trans he)
    exact .inr (.inl ⟨hno, x, xs, m, hs, hat, hm, k⟩)
  · exact .inr (.inr (.inl ⟨hno, hno', hle, h.of_done (hstep.trans he)⟩))
  · exact .inr (.inr (.inr ⟨hno, hno', hlt, h.of_more (hstep.trans he)⟩))

/-- a place where the assembly finds its way: no line in front of the buffer, and no column so far
below zero that `d` does not make up for it -/
def Reachable (d : Nat) (p : Position) : Prop := 0 ≤ p.line ∧ -(d : Int) ≤ p.column

/-- All places that the cursor goes to, as far as it has to be moved on from them. -/
structure Bounded (d : Nat) (stop : Position) (s : Assembly) : Prop where
  cursor : s.cursor < stop → Reachable d s.cursor
  segments : ∀ x ∈ s.segments, Reachable d x.span.stop
  comments : ∀ c ∈ s.comments, Reachable d c.span.stop

/-- steps up to the end without an event, and one at the end -/
def toPass (lines : Buffer) (stop p : Position) : Nat := if p < stop then lines.ahead p + 1 else 0

/-- what is left to do: events, and the steps behind the last one -/
def left (lines : Buffer) (stop : Position) (d : Nat) (s : Assembly) : Nat :=
  (s.segments.length + s.comments.length) * (lines.places + d + 3) + toPass lines stop s.cursor

theorem toPass_le {p : Position} (h : p < stop → Reachable d p) :
    toPass lines stop p ≤ lines.places + d + 1 := by
  unfold toPass
  split
  · next hlt => exact Nat.add_le_add_right (Buffer.ahead_le (h hlt).2) 1
  · exact Nat.zero_le _

theorem toPass_advance {p : Position} (h₀ : 0 ≤ p.line) (h : p < stop) :
    toPass lines stop (lines.advance stop p) < toPass lines stop p := by
  have rest : toPass lines stop (lines.advance stop p) ≤ lines.ahead p := by
    unfold toPass
    split
    · next hlt => exact (Buffer.ahead_advance h₀ hlt).2.2
    · exact Nat.zero_le _
  rw [toPass.eq_def _ _ p, if_pos h]
  exact Nat.lt_succ_of_le rest

/-- An event that is taken up outweighs all steps that may follow it. -/
theorem left_lt_left (ht : Bounded d stop t)
    (h : t.segments.length + t.comments.length < s.segments.length + s.comments.length) :
    t.left lines stop d < s.left lines stop d := by
  have weight := Nat.mul_le_mul_right (lines.places + d + 3) (Nat.succ_le_of_lt h)
  have rest : toPass lines stop t.cursor ≤ lines.places + d + 1 := toPass_le ht.cursor
  rw [Nat.succ_mul] at weight
  unfold left
  omega

/-- The gap is filled up to an event, or to the end. -/
theorem fillGap_eq_self (h : (s.fillGap lines stop).cursor < stop)
    (hc : s.nextComment ≠ some (s.fillGap lines stop).cursor)
    (hx : s.nextSegment ≠ some (s.fillGap lines stop).cursor) : s.fillGap lines stop = s := by
  apply fillGap_of_le
  rw [fillGap_cursor] at h hc hx
  by_contra hlt
  rw [max_eq_right (le_of_not_ge hlt)] at h hc hx
  rcases gapEnd_eq stop s with k | k | k
  · exact absurd (k ▸ h) (lt_irrefl _)
  · exact hx k
  · exact hc k

/-- A step ends the assembly, or leaves less to do. -/
theorem Bounded.step (h : Bounded d stop s) :
    (∃ t, s.step lines stop = .done t) ∨
    ∃ t, s.step lines stop = .more t ∧ Bounded d stop t ∧
      t.left lines stop d < s.left lines stop d := by
  rw [step_eq]
  have hxs : (s.fillGap lines stop).segments = s.segments := fillGap_segments
  have hcs : (s.fillGap lines stop).comments = s.comments := fillGap_comments
  rcases takeEvent_cases lines stop (s.fillGap lines stop) with ⟨c, cs, hs, -, he⟩ |
    ⟨-, x, xs, hs, -, he⟩ | ⟨-, -, -, he⟩ | ⟨hc, hx, hlt, he⟩
  · have hs' : s.comments = c :: cs := hcs.symm.trans hs
    have ht : Bounded d stop ((s.fillGap lines stop).takeComment c cs) :=
      ⟨fun _ => h.comments c (by simp [hs']),
        fun y hy => h.segments y (hxs ▸ (List.dropWhile_suffix _).subset hy),
        fun e he => h.comments e (hs' ▸ List.mem_cons_of_mem _ he)⟩
    refine .inr ⟨_, he, ht, left_lt_left ht ?_⟩
    have hle := (List.dropWhile_sublist
      (l := (s.fillGap lines stop).segments) fun x => x.span.stop ≤ c.span.stop).length_le
    rw [hs', List.length_cons, ← hxs]
    simp only [takeComment]
    omega
  · have hs' : s.segments = x :: xs := hxs.symm.trans hs
    have ht : Bounded d stop ((s.fillGap lines stop).takeSegment lines x xs) :=
      ⟨fun _ => h.segments x (by simp [hs']),
        fun y hy => h.segments y (hs' ▸ List.mem_cons_of_mem _ hy),
        fun e he => h.comments e (hcs ▸ he)⟩
    refine .inr ⟨_, he, ht, left_lt_left ht ?_⟩
    rw [hs', List.length_cons]
    simp only [takeSegment, hcs]
    omega
  · exact .inl ⟨_, he⟩
  · -- nothing at the cursor: no gap was filled, and the cursor moves on
    rw [nextComment, hcs] at hc
    rw [nextSegment, hxs] at hx
    have same := fillGap_eq_self hlt hc hx
    rw [same] at he hlt ⊢
    obtain ⟨hline, hcolumn⟩ := h.cursor hlt
    refine .inr ⟨_, he, ⟨fun hlt' => ?_, h.segments, h.comments⟩, ?_⟩
    · obtain ⟨h₁, h₂, -⟩ := Buffer.ahead_advance hline hlt'
      exact ⟨h₁, by simp only [forceAdvance]; omega⟩
    · exact Nat.add_lt_add_left (toPass_advance hline hlt) _

/-- The assembly ends after no more steps than there are left. -/
theorem Bounded.exists_ends (h : Bounded d stop s) :
    ∃ n t, n ≤ s.left lines stop d ∧ Ends lines stop n s t := by
  induction hm : s.left lines stop d using Nat.strong_induction_on generalizing s with
  | _ m ih =>
    rcases h.step with ⟨t, ht⟩ | ⟨t, ht, hb, hlt⟩
    · exact ⟨0, t, Nat.zero_le _, .done ht⟩
    · obtain ⟨n, u, hn, hu⟩ := ih _ (hm ▸ hlt) hb rfl
      exact ⟨n + 1, u, by omega, .more ht hu⟩

theorem le_foldl_max {a : Nat} {as : List Nat} (b : Nat) (h : a ≤ b ∨ a ∈ as) :
    a ≤ as.foldl max b := by
  induction as generalizing b with
  | nil => exact h.resolve_right List.not_mem_nil
  | cons c as ih =>
    rw [List.foldl_cons]
    apply ih
    rcases h with h | h
    · exact .inl (h.trans (le_max_left _ _))
    · rcases List.mem_cons.mp h with rfl | h
      · exact .inl (le_max_right _ _)
      · exact .inr h

/-- The columns of all ends are within the depth that is counted in. -/
theorem bounded_start {xs : List Segment} {cs : List Comment}
    (hx : ∀ x ∈ xs, 0 ≤ x.span.stop.line) (hc : ∀ c ∈ cs, 0 ≤ c.span.stop.line) :
    Bounded (dip { segments := xs, comments := cs }) stop { segments := xs, comments := cs } := by
  refine ⟨fun _ => ⟨le_rfl, neg_nonpos.mpr (Int.natCast_nonneg _)⟩,
    fun x hm => ⟨hx x hm, ?_⟩, fun c hm => ⟨hc c hm, ?_⟩⟩
  · have below : (-x.span.stop.column).toNat ≤ dip { segments := xs, comments := cs } :=
      le_foldl_max _ (.inr (List.mem_map_of_mem hm))
    omega
  · have below : (-c.span.stop.column).toNat ≤ dip { segments := xs, comments := cs } :=
      le_foldl_max _ (.inl (le_foldl_max _ (.inr (List.mem_map_of_mem hm))))
    omega

/-- The start leaves less to do than there are steps. -/
theorem left_lt_enough (lines : Buffer) (stop : Position) (xs : List Segment) (cs : List Comment) :
    left lines stop (dip { segments := xs, comments := cs })
        { segments := xs, comments := cs } <
      enough lines { segments := xs, comments := cs } := by
  have rest : toPass lines stop ⟨0, 0⟩ ≤ lines.places + 0 + 1 :=
    toPass_le (d := 0) fun _ => ⟨le_rfl, le_rfl⟩
  have whole : lines.foldr (fun line n => line.length + 1 + n) 0 = lines.places := rfl
  simp only [left, enough, Nat.succ_mul, whole]
  omega

end Assembly

/-- The assembly of segments and comments that do not stop in front of the first line ends with the
outcome. -/
theorem assembleUpTo_ends {lines : Buffer} {stop : Position} {xs : List Segment} {cs : List Comment}
    (hx : ∀ x ∈ xs, 0 ≤ x.span.stop.line) (hc : ∀ c ∈ cs, 0 ≤ c.span.stop.line) :
    ∃ n t, Assembly.Ends lines stop n { segments := xs, comments := cs } t ∧
      assembleUpTo lines stop xs cs = (t.built.close.blocks, t.notices) := by
  obtain ⟨n, t, hn, ht⟩ :=
    @Assembly.Bounded.exists_ends lines stop _ _ (Assembly.bounded_start hx hc)
  have hrun := ht.run (hn.trans_lt (Assembly.left_lt_enough lines stop xs cs))
  refine ⟨n, t, ht, ?_⟩
  rw [assembleUpTo]
  simp only [hrun]

/-- Segments and comments in any order, however they overlap, run backward or reach out of the
buffer, as long as none stops in front of the first line: the assembly ends, within the steps that it
is given. When it has to move the cursor on, it does, and not past the end. -/
theorem assembly_ends {lines : Buffer} {stop : Position} {xs : List Segment} {cs : List Comment}
    (hx : ∀ x ∈ xs, 0 ≤ x.span.stop.line) (hc : ∀ c ∈ cs, 0 ≤ c.span.stop.line) :
    (∃ n t, Assembly.Ends lines stop n { segments := xs, comments := cs } t ∧
      assembleUpTo lines stop xs cs = (t.built.close.blocks, t.notices)) ∧
    ∀ p, p < stop → p < lines.advance stop p ∧ lines.advance stop p ≤ stop :=
  ⟨assembleUpTo_ends hx hc, fun _ h => Buffer.lt_advance h⟩

/-- A segment that runs backward, one far behind the buffer, a comment below a line, and an end that
is not the end of the buffer. -/
theorem assembly_ends_astray :
    ∃ n t, Assembly.Ends [['a', 'b'], []] ⟨4, 1⟩ n
      { segments := [⟨⟨⟨0, 1⟩, ⟨0, 0⟩⟩, {}⟩, ⟨⟨⟨7, 3⟩, ⟨2, 9⟩⟩, {}⟩],
        comments := [⟨⟨⟨1, 5⟩, ⟨0, 4⟩⟩, "c"⟩] } t :=
  have ⟨n, t, h, _⟩ := (@assembly_ends [['a', 'b'], []] ⟨4, 1⟩
    [⟨⟨⟨0, 1⟩, ⟨0, 0⟩⟩, {}⟩, ⟨⟨⟨7, 3⟩, ⟨2, 9⟩⟩, {}⟩] [⟨⟨⟨1, 5⟩, ⟨0, 4⟩⟩, "c"⟩]
    (by decide) (by decide)).1
  ⟨n, t, h⟩

section

variable {lines : Buffer} {xs : List Segment} {cs : List Comment}

theorem assemble_ends (hx : ∀ x ∈ xs, lines.Within x.span) (hc : ∀ c ∈ cs, lines.Within c.span) :
    ∃ n t, Assembly.Ends lines lines.last n { segments := xs, comments := cs } t ∧
      assemble lines xs cs = (t.built.close.blocks, t.notices) :=
  assembleUpTo_ends (fun x hm => (hx x hm).stop.line_nonneg)
    fun c hm => (hc c hm).stop.line_nonneg

theorem inside_start (hne : lines ≠ []) (hx : ∀ x ∈ xs, lines.Within x.span)
    (hc : ∀ c ∈ cs, lines.Within c.span) :
    Assembly.Inside lines { segments := xs, comments := cs } := ⟨Buffer.holds_zero hne, hx, hc⟩

/-- A buffer without lines has nothing in it. -/
theorem Buffer.eq_nil_of_within {α : Type} {f : α → Span} {as : List α}
    (h : ∀ a ∈ as, Buffer.Within [] (f a)) : as = [] :=
  List.eq_nil_iff_forall_not_mem.mpr fun a ha => (h a ha).start.ne_nil rfl

end

end Literate
