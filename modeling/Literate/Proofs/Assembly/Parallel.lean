import Literate.Proofs.Assembly.Step

/-! Two assemblies side by side, over segments that are related one by one. As long as related segments
have the same span and are decorated the same way, the assemblies do the same at each step, and the
blocks that they build have the same texts, with related segments in them. -/

namespace Literate

/-- the same text, plain or on related segments that are decorated the same way -/
inductive Run.Match (R : Segment → Segment → Prop) : Run → Run → Prop where
  | text (s : String) : Match R (.text s) (.text s)
  | annotated (s : String) (d : Decoration) {a b : Segment} (h : R a b) :
      Match R (.annotated s a d) (.annotated s b d)

inductive Block.Match (R : Segment → Segment → Prop) : Block → Block → Prop where
  | code {rs qs : List Run} (h : List.Forall₂ (Run.Match R) rs qs) : Match R (.code rs) (.code qs)
  | prose (s : Wording) : Match R (.prose s) (.prose s)

/-- Related segments look the same to the assembly. -/
structure Segment.Faithful (R : Segment → Segment → Prop) : Prop where
  span : ∀ a b, R a b → a.span = b.span
  decoration : ∀ a b, R a b → Decoration.ofMark a.mark = Decoration.ofMark b.mark

structure Builder.Match (R : Segment → Segment → Prop) (b c : Builder) : Prop where
  blocks : List.Forall₂ (Block.Match R) b.blocks c.blocks
  runs : Option.Rel (List.Forall₂ (Run.Match R)) b.runs c.runs

section

variable {R : Segment → Segment → Prop}

theorem forall₂_concat {α : Type} {S : α → α → Prop} {as bs : List α} {a b : α}
    (h : List.Forall₂ S as bs) (hab : S a b) : List.Forall₂ S (as ++ [a]) (bs ++ [b]) :=
  List.rel_append h (.cons hab .nil)

theorem forall₂_dropWhile {xs ys : List Segment} {p : Span → Bool} (hR : Segment.Faithful R)
    (h : List.Forall₂ R xs ys) :
    List.Forall₂ R (xs.dropWhile fun x => p x.span) (ys.dropWhile fun x => p x.span) := by
  induction h with
  | nil => exact .nil
  | @cons a b xs ys hab hs ih =>
    have span := hR.span a b hab
    rw [List.dropWhile_cons, List.dropWhile_cons, span]
    by_cases hp : p b.span = true
    · rw [if_pos hp, if_pos hp]
      exact ih
    · rw [if_neg hp, if_neg hp]
      exact .cons hab hs

namespace Builder.Match

variable {b c : Builder}

theorem isOpen (h : Match R b c) : b.isOpen = c.isOpen := by
  have runs := h.runs
  unfold Builder.isOpen
  generalize b.runs = rs at runs
  generalize c.runs = qs at runs
  cases runs with
  | none => rfl
  | some _ => rfl

theorem addRun {r q : Run} (h : Match R b c) (hr : Run.Match R r q) :
    Match R (b.addRun r) (c.addRun q) := by
  have runs := h.runs
  refine ⟨h.blocks, .some (forall₂_concat ?_ hr)⟩
  generalize b.runs = rs at runs
  generalize c.runs = qs at runs
  cases runs with
  | none => exact .nil
  | some opened => exact opened

theorem close (h : Match R b c) : Match R b.close c.close := by
  cases b with
  | mk blocks runs =>
  cases c with
  | mk blocks' runs' =>
    obtain ⟨hblocks, hruns⟩ := h
    cases hruns with
    | none => exact ⟨hblocks, .none⟩
    | some hruns =>
      cases hruns with
      | nil => exact ⟨hblocks, .none⟩
      | cons hr hruns => exact ⟨forall₂_concat hblocks (.code (.cons hr hruns)), .none⟩

theorem addProse (h : Match R b c) (s : Wording) : Match R (b.addProse s) (c.addProse s) :=
  ⟨forall₂_concat h.close.blocks (.prose s), h.close.runs⟩

end Builder.Match

namespace Assembly

structure Match (R : Segment → Segment → Prop) (s t : Assembly) : Prop where
  cursor : s.cursor = t.cursor
  segments : List.Forall₂ R s.segments t.segments
  comments : s.comments = t.comments
  built : Builder.Match R s.built t.built
  notices : s.notices = t.notices

/-- Both go on, or both are done. -/
inductive Progress.Match (R : Segment → Segment → Prop) : Progress → Progress → Prop where
  | done {s t : Assembly} (h : Assembly.Match R s t) : Match R (.done s) (.done t)
  | more {s t : Assembly} (h : Assembly.Match R s t) : Match R (.more s) (.more t)

namespace Match

variable {s t : Assembly} {lines : Buffer} {stop : Position}

theorem nextComment (h : Match R s t) : s.nextComment = t.nextComment := by
  rw [Assembly.nextComment, Assembly.nextComment, h.comments]

theorem nextSegment (hR : Segment.Faithful R) (h : Match R s t) : s.nextSegment = t.nextSegment := by
  have segments := h.segments
  unfold Assembly.nextSegment
  generalize s.segments = xs at segments
  generalize t.segments = ys at segments
  cases segments with
  | nil => rfl
  | cons hab _ =>
    simp only [List.head?_cons, Option.map_some, hR.span _ _ hab]

theorem gapEnd (hR : Segment.Faithful R) (h : Match R s t) : s.gapEnd stop = t.gapEnd stop := by
  rw [Assembly.gapEnd, Assembly.gapEnd, h.nextSegment hR, h.nextComment]

theorem fillGap (hR : Segment.Faithful R) (h : Match R s t) :
    Match R (s.fillGap lines stop) (t.fillGap lines stop) := by
  unfold Assembly.fillGap
  simp only [h.gapEnd hR, h.cursor, h.nextComment, h.built.isOpen]
  split
  · refine ⟨rfl, h.segments, h.comments, ?_, h.notices⟩
    simp only
    split
    · exact h.built
    · exact h.built.addRun (.text _)
  · exact h

theorem takeComment (hR : Segment.Faithful R) (h : Match R s t) (c : Comment) (cs : List Comment) :
    Match R (s.takeComment c cs) (t.takeComment c cs) :=
  ⟨rfl, forall₂_dropWhile (p := fun x => x.stop ≤ c.span.stop) hR h.segments, rfl, h.built.addProse _,
    h.notices⟩

theorem takeSegment (hR : Segment.Faithful R) (h : Match R s t) {x y : Segment} (hxy : R x y)
    {xs ys : List Segment} (hs : List.Forall₂ R xs ys) :
    Match R (s.takeSegment lines x xs) (t.takeSegment lines y ys) := by
  have span := hR.span x y hxy
  refine ⟨congrArg Span.stop span, hs, h.comments, h.built.addRun ?_, h.notices⟩
  rw [span, hR.decoration x y hxy]
  exact .annotated _ _ hxy

theorem forceAdvance (hR : Segment.Faithful R) (h : Match R s t) :
    Match R (s.forceAdvance lines stop) (t.forceAdvance lines stop) := by
  unfold Assembly.forceAdvance
  rw [h.cursor, h.nextSegment hR, h.nextComment, h.notices]
  exact ⟨rfl, h.segments, h.comments, h.built, rfl⟩

theorem otherwise (hR : Segment.Faithful R) (h : Match R s t) :
    Progress.Match R (takeEvent.otherwise lines stop s) (takeEvent.otherwise lines stop t) := by
  unfold takeEvent.otherwise
  rw [h.cursor]
  split
  · exact .done h
  · exact .more (h.forceAdvance hR)

theorem ofSegments (hR : Segment.Faithful R) (h : Match R s t) {xs ys : List Segment}
    (hs : List.Forall₂ R xs ys) :
    Progress.Match R (takeEvent.ofSegments lines stop s xs)
      (takeEvent.ofSegments lines stop t ys) := by
  cases hs with
  | nil => exact h.otherwise hR
  | @cons x y xs ys hxy hs =>
    rw [takeEvent.ofSegments, takeEvent.ofSegments, hR.span x y hxy, h.cursor]
    split
    · exact .more (h.takeSegment hR hxy hs)
    · exact h.otherwise hR

theorem takeEvent (hR : Segment.Faithful R) (h : Match R s t) :
    Progress.Match R (s.takeEvent lines stop) (t.takeEvent lines stop) := by
  unfold Assembly.takeEvent
  rw [← h.comments]
  cases s.comments with
  | nil => exact h.ofSegments hR h.segments
  | cons c cs =>
    simp only
    rw [h.cursor]
    split
    · exact .more (h.takeComment hR c cs)
    · exact h.ofSegments hR h.segments

theorem step (hR : Segment.Faithful R) (h : Match R s t) :
    Progress.Match R (s.step lines stop) (t.step lines stop) := by
  rw [step_eq, step_eq]
  exact (h.fillGap hR).takeEvent hR

theorem run (hR : Segment.Faithful R) (n : Nat) (h : Match R s t) :
    Match R (s.run lines stop n) (t.run lines stop n) := by
  induction n generalizing s t with
  | zero => exact h
  | succ n ih =>
    have hstep : Progress.Match R (s.step lines stop) (t.step lines stop) := h.step hR
    rw [Assembly.run, Assembly.run]
    generalize s.step lines stop = p at hstep
    generalize t.step lines stop = q at hstep
    cases hstep with
    | done hst => exact hst
    | more hst => exact ih hst

/-- The bound on the steps looks at spans alone. -/
theorem enough (hR : Segment.Faithful R) (h : Match R s t) :
    s.enough lines = t.enough lines := by
  have spans : s.segments.map Segment.span = t.segments.map Segment.span := by
    have same := List.rel_map (fun a b => hR.span a b) h.segments
    rwa [List.forall₂_eq_eq_eq] at same
  have dip : s.dip = t.dip := by
    have onSpans (u : Assembly) : u.segments.map (fun x => (-x.span.stop.column).toNat) =
        (u.segments.map Segment.span).map fun x => (-x.stop.column).toNat := by
      rw [List.map_map]
      rfl
    unfold Assembly.dip
    simp only [onSpans, spans, h.comments]
  rw [Assembly.enough, Assembly.enough, h.segments.length_eq, h.comments, dip]

end Match

end Assembly

/-- Over related segments the same document is built, with the same warnings. -/
theorem assemble_match (hR : Segment.Faithful R) (lines : Buffer) {xs ys : List Segment}
    (h : List.Forall₂ R xs ys) (cs : List Comment) :
    List.Forall₂ (Block.Match R) (assemble lines xs cs).1 (assemble lines ys cs).1 ∧
      (assemble lines xs cs).2 = (assemble lines ys cs).2 := by
  have start : Assembly.Match R { segments := xs, comments := cs } { segments := ys, comments := cs } :=
    ⟨rfl, h, rfl, ⟨.nil, .none⟩, rfl⟩
  have bound : Assembly.enough lines { segments := xs, comments := cs } =
      Assembly.enough lines { segments := ys, comments := cs } := start.enough hR
  have final : Assembly.Match R
      (Assembly.run lines lines.last (Assembly.enough lines { segments := xs, comments := cs })
        { segments := xs, comments := cs })
      (Assembly.run lines lines.last (Assembly.enough lines { segments := xs, comments := cs })
        { segments := ys, comments := cs }) := start.run hR _
  rw [assemble, assemble, assembleUpTo, assembleUpTo]
  simp only [← bound]
  exact ⟨final.built.close.blocks, final.notices⟩

end
end Literate
