import Literate.Proofs.Comment.Order

/-! Comments that run into one another. They are taken by their starts, and one that starts before the
comment kept last has stopped is left out, with a warning. To look at the comment kept last is enough:
the others have stopped where it starts, and nothing to come starts earlier. -/

namespace Literate

/-- a comment, and where the kept comment stops that it runs into; `none` if it is kept itself -/
structure Verdict where
  comment : Comment
  hidden : Option Position
  deriving DecidableEq, Repr

namespace Verdict

def kept (vs : List Verdict) : List Comment := (vs.filter fun v => v.hidden.isNone).map comment

/-- the warning about a comment that is left out -/
def notice? (v : Verdict) : Option Notice := v.hidden.map (.droppedComment v.comment.span)

def notices (vs : List Verdict) : List Notice := vs.filterMap notice?

/-- the verdicts on comments in order, behind a comment that stops at `stop` -/
def judge : Option Position → List Comment → List Verdict
  | _, [] => []
  | stop, c :: cs =>
    match stop.filter fun p => c.span.start < p with
    | some p => ⟨c, some p⟩ :: judge stop cs
    | none => ⟨c, none⟩ :: judge (some c.span.stop) cs

variable {stop : Option Position} {c : Comment} {ks cs : List Comment} {vs : List Verdict}

@[simp] theorem kept_cons_none (c : Comment) (vs : List Verdict) :
    kept (⟨c, none⟩ :: vs) = c :: kept vs := rfl

@[simp] theorem kept_cons_some (c : Comment) (p : Position) (vs : List Verdict) :
    kept (⟨c, some p⟩ :: vs) = kept vs := rfl

@[simp] theorem notices_cons_none (c : Comment) (vs : List Verdict) :
    notices (⟨c, none⟩ :: vs) = notices vs := rfl

@[simp] theorem notices_cons_some (c : Comment) (p : Position) (vs : List Verdict) :
    notices (⟨c, some p⟩ :: vs) = .droppedComment c.span p :: notices vs := rfl

theorem kept_append (us vs : List Verdict) : kept (us ++ vs) = kept us ++ kept vs := by
  rw [kept, List.filter_append, List.map_append]
  rfl

theorem kept_sublist (vs : List Verdict) : (kept vs).Sublist (vs.map comment) :=
  List.filter_sublist.map comment

/-- Each comment is kept or leaves a warning. -/
theorem length_notices (vs : List Verdict) : (notices vs).length + (kept vs).length = vs.length := by
  induction vs with
  | nil => rfl
  | cons v vs ih =>
    obtain ⟨c, hidden⟩ := v
    cases hidden with
    | none => rw [notices_cons_none, kept_cons_none, List.length_cons, List.length_cons, ← ih]; omega
    | some p => rw [notices_cons_some, kept_cons_some, List.length_cons, List.length_cons, ← ih]; omega

theorem map_judge (stop : Option Position) (cs : List Comment) :
    (judge stop cs).map comment = cs := by
  fun_induction judge stop cs with
  | case1 => rfl
  | case2 stop c cs p _ ih => rw [List.map_cons, ih]
  | case3 stop c cs _ ih => rw [List.map_cons, ih]

theorem go_eq (stop : Option Position) (cs : List Comment) :
    keepComments.go stop cs = (kept (judge stop cs), notices (judge stop cs)) := by
  fun_induction judge stop cs with
  | case1 => rfl
  | case2 stop c cs p hp ih =>
    obtain ⟨hstop, hlt⟩ := Option.filter_eq_some_iff.mp hp
    subst hstop
    rw [keepComments.go, if_pos (of_decide_eq_true hlt), ih]
    rfl
  | case3 stop c cs hp ih =>
    cases stop with
    | none =>
      rw [keepComments.go, ih]
      rfl
    | some p =>
      have hle : ¬ c.span.start < p := by simpa [Option.filter] using hp
      rw [keepComments.go, if_neg hle, ih]
      rfl

/-- Of the comments kept so far one stops at `stop`, and the others before anything to come starts. -/
structure Guards (stop : Option Position) (ks cs : List Comment) : Prop where
  sorted : cs.Pairwise fun a b => a.span.start ≤ b.span.start
  last : ∀ p ∈ stop, ∃ k ∈ ks, k.span.stop = p
  behind : ∀ k ∈ ks, stop = some k.span.stop ∨ ∀ c ∈ cs, k.span.stop ≤ c.span.start

theorem guards_start (h : cs.Pairwise fun a b => a.span.start ≤ b.span.start) : Guards none [] cs :=
  ⟨h, by simp, by simp⟩

theorem Guards.tail (h : Guards stop ks (c :: cs)) : Guards stop ks cs where
  sorted := (List.pairwise_cons.mp h.sorted).2
  last := h.last
  behind k hk := (h.behind k hk).imp_right fun hc d hd => hc d (List.mem_cons_of_mem c hd)

/-- What the comment kept last lets pass, all of them let pass. -/
theorem Guards.hidden_eq_none_iff (h : Guards stop ks (c :: cs)) :
    (stop.filter fun p => c.span.start < p) = none ↔ ∀ k ∈ ks, k.span.stop ≤ c.span.start := by
  rw [Option.filter_eq_none_iff]
  constructor
  · intro pass k hk
    rcases h.behind k hk with last | other
    · simpa using pass _ last
    · exact other c List.mem_cons_self
  · intro pass p hp
    obtain ⟨k, hk, rfl⟩ := h.last p hp
    simpa using pass k hk

/-- A comment that is kept becomes the last one. Those before it have stopped at its start. -/
theorem Guards.keep (h : Guards stop ks (c :: cs)) (pass : ∀ k ∈ ks, k.span.stop ≤ c.span.start) :
    Guards (some c.span.stop) (ks ++ [c]) cs where
  sorted := h.tail.sorted
  last p hp := ⟨c, by simp, by simpa using hp⟩
  behind k hk := by
    rcases List.mem_append.mp hk with hk | hk
    · right
      intro d hd
      exact (pass k hk).trans ((List.pairwise_cons.mp h.sorted).1 d hd)
    · left
      rw [List.mem_singleton.mp hk]

/-- Each verdict weighs its comment against all comments that are kept in front of it. -/
theorem judge_fair (h : Guards stop ks cs) : ∀ front v back, judge stop cs = front ++ v :: back →
    (v.hidden = none ↔ ∀ k ∈ ks ++ kept front, k.span.stop ≤ v.comment.span.start) ∧
      ∀ p ∈ v.hidden, ∃ k ∈ ks ++ kept front, k.span.stop = p := by
  fun_induction judge stop cs generalizing ks with
  | case1 => simp
  | case2 stop c cs p hp ih =>
    have pass := h.hidden_eq_none_iff
    have last : p ∈ stop := (Option.filter_eq_some_iff.mp hp).1
    rw [hp] at pass
    intro front v back split
    cases front with
    | nil =>
      obtain ⟨rfl, -⟩ := List.cons.inj split
      rw [kept, List.filter_nil, List.map_nil, List.append_nil]
      exact ⟨pass, fun q hq => by
        cases hq
        exact h.last p last⟩
    | cons u front =>
      obtain ⟨rfl, rest⟩ := List.cons.inj split
      rw [kept_cons_some]
      exact ih h.tail front v back rest
  | case3 stop c cs hp ih =>
    have pass := h.hidden_eq_none_iff.mp hp
    intro front v back split
    cases front with
    | nil =>
      obtain ⟨rfl, -⟩ := List.cons.inj split
      rw [kept, List.filter_nil, List.map_nil, List.append_nil]
      exact ⟨iff_of_true rfl pass, by simp⟩
    | cons u front =>
      obtain ⟨rfl, rest⟩ := List.cons.inj split
      rw [kept_cons_none, List.append_cons]
      exact ih (h.keep pass) front v back rest

/-- Of two comments that are kept the earlier one stops before the later one starts. -/
theorem pairwise_kept (fair : ∀ front v back, vs = front ++ v :: back → v.hidden = none →
      ∀ k ∈ kept front, k.span.stop ≤ v.comment.span.start) :
    (kept vs).Pairwise fun a b => a.span.stop ≤ b.span.start := by
  induction vs using List.reverseRecOn with
  | nil => exact List.Pairwise.nil
  | append_singleton vs v ih =>
    have front_fair := ih fun front u back split hu => by
      apply fair front u (back ++ [v]) _ hu
      rw [split, List.append_assoc, List.cons_append]
    rw [kept_append, List.pairwise_append]
    refine ⟨front_fair, ?_, ?_⟩
    · obtain ⟨c, hidden⟩ := v
      cases hidden <;> simp [kept]
    · intro a ha b hb
      obtain ⟨u, hu, rfl⟩ := List.mem_map.mp hb
      obtain ⟨hu, pass⟩ := List.mem_filter.mp hu
      rw [List.mem_singleton] at hu
      subst hu
      exact fair vs u [] rfl (Option.isNone_iff_eq_none.mp pass) a ha

end Verdict

/-- Comments are sorted by their starts, those with the same start in the order they had, and then
sifted. One is left out if and only if it starts before some comment kept in front of it has stopped.
Then there is one warning, which names the comment and where a kept one stops. What is kept, sifted
again, is all kept. -/
theorem keepComments_sifts (cs : List Comment) :
    ((sortComments cs).Perm cs ∧
      ((sortComments cs).Pairwise fun a b => a.span.start ≤ b.span.start) ∧
      ∀ p, (sortComments cs).filter (fun c => c.span.start = p) =
        cs.filter fun c => c.span.start = p) ∧
    (∃ vs : List Verdict, vs.map Verdict.comment = sortComments cs ∧
      keepComments cs = (Verdict.kept vs, Verdict.notices vs) ∧
      (Verdict.notices vs).length + (Verdict.kept vs).length = cs.length ∧
      ∀ front v back, vs = front ++ v :: back →
        (v.hidden ≠ none ↔
          ∃ k ∈ Verdict.kept front, v.comment.span.start < k.span.stop) ∧
        ∀ p ∈ v.hidden, ∃ k ∈ Verdict.kept front, k.span.stop = p) ∧
    (keepComments cs).1.Sublist (sortComments cs) ∧
    ((keepComments cs).1.Pairwise fun a b => a.span.stop ≤ b.span.start) ∧
    keepComments (keepComments cs).1 = ((keepComments cs).1, []) := by
  have sorted := sortComments_sorted cs
  have perm := sortComments_perm cs
  generalize hvs : Verdict.judge none (sortComments cs) = vs
  have whole : vs.map Verdict.comment = sortComments cs := by rw [← hvs, Verdict.map_judge]
  have sifted : keepComments cs = (Verdict.kept vs, Verdict.notices vs) := by
    rw [keepComments, Verdict.go_eq, hvs]
  have fair := Verdict.judge_fair (Verdict.guards_start sorted)
  rw [hvs] at fair
  simp only [List.nil_append] at fair
  have sublist : (Verdict.kept vs).Sublist (sortComments cs) := whole ▸ Verdict.kept_sublist vs
  have spaced := Verdict.pairwise_kept fun front v back split => (fair front v back split).1.mp
  have again := keepComments_of_sorted (sorted.sublist sublist) spaced
  rw [sifted]
  refine ⟨⟨perm, sorted, filter_start_sortComments cs⟩, ⟨vs, whole, rfl, ?_, ?_⟩, sublist, spaced,
    again⟩
  · rw [Verdict.length_notices, ← perm.length_eq, ← whole, List.length_map]
  · intro front v back split
    obtain ⟨pass, last⟩ := fair front v back split
    refine ⟨?_, last⟩
    simp only [ne_eq, pass, not_forall, not_le, exists_prop]

end Literate
