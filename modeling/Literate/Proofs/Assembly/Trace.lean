import Literate.Proofs.Assembly.Step

/-! Where the pieces of a document come from. Whatever segments and comments the assembly is given,
each run and each piece of prose has a span of its own in the buffer; the spans follow one another
as the pieces do, and the cursor, which is never behind them, never goes back. -/

namespace Literate

/-- a piece of a document: a run of a listing, or prose -/
inductive Item where
  | run (r : Run)
  | prose (content : Wording)
  deriving DecidableEq, Repr

namespace Item

/-- the text that it adds to the listings -/
def code : Item → List Char
  | run r => r.content.toList
  | prose _ => []

def isProse : Item → Bool
  | run _ => false
  | prose _ => true

end Item

/-- the pieces of a block -/
def Block.items : Block → List Item
  | .code rs => rs.map .run
  | .prose s => [.prose s]

/-- The text of all listings, one behind the other. -/
def listing (bs : List Block) : List Char :=
  bs.flatMap fun
    | .code rs => (codeText rs).toList
    | .prose _ => []

theorem toList_codeText (rs : List Run) :
    (codeText rs).toList = rs.flatMap fun r => r.content.toList := by
  rw [codeText, Text.toList_join]
  induction rs with
  | nil => rfl
  | cons r rs ih => cases rs <;> simp_all [Text.joinWith]

theorem listing_eq (bs : List Block) : listing bs = (bs.flatMap Block.items).flatMap Item.code := by
  rw [listing, List.flatMap_assoc]
  congr 1
  funext b
  cases b with
  | code rs => simp [Block.items, toList_codeText, List.flatMap_map, Item.code]
  | prose s => simp [Block.items, Item.code]

/-- the run of a segment, with the text of its span -/
def Segment.run (lines : Buffer) (x : Segment) : Run :=
  .annotated (lines.extract x.span) x (Decoration.ofMark x.mark)

@[simp] theorem Segment.content_run (lines : Buffer) (x : Segment) :
    (x.run lines).content.toList = lines.slice x.span := String.toList_ofList

/-- a span of the buffer that does not run backward -/
structure Buffer.Within (lines : Buffer) (s : Span) : Prop where
  start : lines.Holds s.start
  stop : lines.Holds s.stop
  valid : s.start ≤ s.stop

instance (lines : Buffer) (s : Span) : Decidable (lines.Within s) :=
  decidable_of_iff (lines.Holds s.start ∧ lines.Holds s.stop ∧ s.start ≤ s.stop)
    ⟨fun ⟨h₁, h₂, h₃⟩ => ⟨h₁, h₂, h₃⟩, fun ⟨h₁, h₂, h₃⟩ => ⟨h₁, h₂, h₃⟩⟩

/-- Where a piece comes from: plain text is cut from its span, a segment has the text of its span,
prose stands for its comment. -/
inductive Placed (lines : Buffer) (xs : List Segment) (cs : List Comment) : Item → Span → Prop where
  | text {t : String} {w : Span} (h : t.toList <:+: lines.slice w) :
      Placed lines xs cs (.run (.text t)) w
  | segment {x : Segment} (h : x ∈ xs) : Placed lines xs cs (.run (x.run lines)) x.span
  | comment {c : Comment} (h : c ∈ cs) : Placed lines xs cs (.prose c.content) c.span

theorem Placed.code_sublist {lines : Buffer} {xs : List Segment} {cs : List Comment} {i : Item}
    {w : Span} (h : Placed lines xs cs i w) : i.code.Sublist (lines.slice w) := by
  cases h with
  | text h => exact h.sublist
  | segment h => simp [Item.code]
  | comment h => exact List.nil_sublist _

namespace Builder

/-- all pieces so far -/
def items (b : Builder) : List Item := b.blocks.flatMap Block.items ++ b.open?.map .run

theorem items_addRun (b : Builder) (r : Run) : (b.addRun r).items = b.items ++ [.run r] := by
  simp [items]

theorem items_ofRuns (rs : List Run) : (Block.ofRuns rs).flatMap Block.items = rs.map .run := by
  unfold Block.ofRuns
  split <;> simp_all [Block.items]

theorem items_close (b : Builder) : b.close.blocks.flatMap Block.items = b.items := by
  rw [blocks_close, List.flatMap_append, items_ofRuns, items]

theorem items_addProse (b : Builder) (s : Wording) :
    (b.addProse s).items = b.items ++ [.prose s] := by
  simp [items, blocks_addProse, items_ofRuns, Block.items]

end Builder

namespace Assembly

theorem gapText_infix (opened closing : Bool) (t : List Char) :
    gapText opened closing t <:+: t := by
  unfold gapText
  have front : (if opened then t else Text.trimLeft t) <:+: t := by
    split
    · exact List.infix_rfl
    · exact (Text.trimLeft_suffix t).isInfix
  simp only
  split
  · exact (Text.trimRight_prefix _).isInfix.trans front
  · exact front

/-- The cursor is a position of the buffer, and so are the ends of all spans still to come. -/
structure Inside (lines : Buffer) (s : Assembly) : Prop where
  cursor : lines.Holds s.cursor
  segments : ∀ x ∈ s.segments, lines.Within x.span
  comments : ∀ c ∈ s.comments, lines.Within c.span

section

variable {lines : Buffer} {s : Assembly}

theorem Inside.holds_gapEnd (h : Inside lines s) : lines.Holds (s.gapEnd lines.last) := by
  rcases gapEnd_eq lines.last s with k | k | k
  · rw [k]
    exact Buffer.holds_last h.cursor.ne_nil
  · obtain ⟨x, xs, hs, hk⟩ := nextSegment_eq_some.mp k
    rw [← hk]
    exact (h.segments x (by simp [hs])).start
  · obtain ⟨c, cs, hs, hk⟩ := nextComment_eq_some.mp k
    rw [← hk]
    exact (h.comments c (by simp [hs])).start

theorem Inside.fillGap (h : Inside lines s) :
    s.cursor ≤ (s.fillGap lines lines.last).cursor ∧ Inside lines (s.fillGap lines lines.last) := by
  refine ⟨fillGap_cursor ▸ le_max_left _ _, ?_, ?_, ?_⟩
  · rw [fillGap_cursor]
    rcases max_choice s.cursor (s.gapEnd lines.last) with k | k
    · rw [k]
      exact h.cursor
    · rw [k]
      exact h.holds_gapEnd
  · rw [fillGap_segments]
    exact h.segments
  · rw [fillGap_comments]
    exact h.comments

/-- What a step takes up or passes by is in the buffer, and the cursor does not go back. -/
theorem Inside.takeEvent (h : Inside lines s) :
    s.cursor ≤ (s.takeEvent lines lines.last).state.cursor ∧
      Inside lines (s.takeEvent lines lines.last).state := by
  rcases takeEvent_cases lines lines.last s with ⟨c, cs, hs, hat, he⟩ | ⟨-, x, xs, hs, hat, he⟩ |
    ⟨-, -, -, he⟩ | ⟨-, -, hlt, he⟩
  · have hw := h.comments c (by simp [hs])
    rw [he]
    exact ⟨hat ▸ hw.valid, hw.stop, fun y hy => h.segments y ((List.dropWhile_suffix _).subset hy),
      fun d hd => h.comments d (hs ▸ List.mem_cons_of_mem _ hd)⟩
  · have hw := h.segments x (by simp [hs])
    rw [he]
    exact ⟨hat ▸ hw.valid, hw.stop, fun y hy => h.segments y (hs ▸ List.mem_cons_of_mem _ hy),
      h.comments⟩
  · rw [he]
    exact ⟨le_rfl, h⟩
  · obtain ⟨hadv, hoff⟩ := Buffer.advance_spec h.cursor hlt
    rw [he]
    refine ⟨?_, hadv, h.segments, h.comments⟩
    rw [Progress.state, forceAdvance, ← Buffer.offset_le_iff h.cursor hadv]
    omega

theorem Inside.step (h : Inside lines s) :
    s.cursor ≤ (s.step lines lines.last).state.cursor ∧
        Inside lines (s.step lines lines.last).state := by
  obtain ⟨hle, hg⟩ := h.fillGap
  obtain ⟨hle', ht⟩ := hg.takeEvent
  rw [step_eq]
  exact ⟨hle.trans hle', ht⟩

/-- The longer run has the cursor further on. -/
theorem Inside.run_mono (h : Inside lines s) {m n : Nat} (hmn : m ≤ n) :
    (s.run lines lines.last m).cursor ≤ (s.run lines lines.last n).cursor := by
  induction m generalizing s n with
  | zero =>
    have run := run_invariant (P := fun t => s.cursor ≤ t.cursor ∧ Inside lines t)
      (fun t ⟨hle, ht⟩ => ⟨hle.trans ht.step.1, ht.step.2⟩) n ⟨le_rfl, h⟩
    exact run.1
  | succ m ih =>
    obtain ⟨n, rfl⟩ : ∃ k, n = k + 1 := ⟨n - 1, by omega⟩
    have ht := h.step.2
    cases hs : s.step lines lines.last with
    | done t => rw [run_succ_of_done hs, run_succ_of_done hs]
    | more t =>
      rw [run_succ_of_more hs, run_succ_of_more hs]
      rw [hs] at ht
      exact ih ht (by omega)

end

/-- The pieces built so far with their spans, all of them behind one another and behind the cursor.
-/
structure Trace (lines : Buffer) (xs : List Segment) (cs : List Comment) (s : Assembly)
    (as : List (Item × Span)) : Prop where
  items : as.map Prod.fst = s.built.items
  placed : ∀ a ∈ as, Placed lines xs cs a.1 a.2
  within : ∀ a ∈ as, lines.Within a.2
  ordered : as.Pairwise fun a b => a.2.stop ≤ b.2.start
  behind : ∀ a ∈ as, a.2.stop ≤ s.cursor
  cursor : lines.Holds s.cursor
  segments : ∀ x ∈ s.segments, x ∈ xs
  comments : ∀ c ∈ s.comments, c ∈ cs

section

variable {lines : Buffer} {xs : List Segment} {cs : List Comment} {s t : Assembly}
  {as : List (Item × Span)}

/-- A step that adds one piece, at a span in front of which nothing else ends. -/
theorem Trace.add (h : Trace lines xs cs s as) {i : Item} {w : Span}
    (hi : t.built.items = s.built.items ++ [i])
    (hp : Placed lines xs cs i w) (hw : lines.Within w) (hs : s.cursor ≤ w.start)
    (ht : t.cursor = w.stop) (hxs : t.segments ⊆ s.segments) (hcs : t.comments ⊆ s.comments) :
    Trace lines xs cs t (as ++ [(i, w)]) where
  items := by rw [List.map_append, h.items, hi]; rfl
  placed := by
    intro a ha
    rcases List.mem_append.mp ha with ha | ha
    · exact h.placed a ha
    · rw [List.mem_singleton.mp ha]; exact hp
  within := by
    intro a ha
    rcases List.mem_append.mp ha with ha | ha
    · exact h.within a ha
    · rw [List.mem_singleton.mp ha]; exact hw
  ordered := by
    rw [List.pairwise_append]
    refine ⟨h.ordered, List.pairwise_singleton _ _, fun a ha b hb => ?_⟩
    rw [List.mem_singleton.mp hb]
    exact (h.behind a ha).trans hs
  behind := by
    intro a ha
    rw [ht]
    rcases List.mem_append.mp ha with ha | ha
    · exact ((h.behind a ha).trans hs).trans hw.valid
    · rw [List.mem_singleton.mp ha]
  cursor := ht ▸ hw.stop
  segments := fun x hx => h.segments x (hxs hx)
  comments := fun c hc => h.comments c (hcs hc)

/-- A step that only moves the cursor on. -/
theorem Trace.move (h : Trace lines xs cs s as) (hi : t.built = s.built) (hs : s.cursor ≤ t.cursor)
    (ht : lines.Holds t.cursor) (hxs : t.segments = s.segments) (hcs : t.comments = s.comments) :
    Trace lines xs cs t as where
  items := by rw [h.items, hi]
  placed := h.placed
  within := h.within
  ordered := h.ordered
  behind := fun a ha => (h.behind a ha).trans hs
  cursor := ht
  segments := hxs ▸ h.segments
  comments := hcs ▸ h.comments

theorem Trace.inside (hx : ∀ x ∈ xs, lines.Within x.span) (hc : ∀ c ∈ cs, lines.Within c.span)
    (h : Trace lines xs cs s as) : Inside lines s :=
  ⟨h.cursor, fun x hm => hx x (h.segments x hm), fun c hm => hc c (h.comments c hm)⟩

theorem Trace.fillGap (h : Trace lines xs cs s as) (hin : Inside lines s) :
    ∃ bs, Trace lines xs cs (s.fillGap lines lines.last) bs := by
  have hend := hin.holds_gapEnd
  unfold Assembly.fillGap
  simp only
  split
  · next hlt =>
    split
    · exact ⟨as, h.move rfl hlt.le hend rfl rfl⟩
    · exact ⟨_, h.add (Builder.items_addRun _ _) (.text (by simpa using gapText_infix _ _ _))
        ⟨h.cursor, hend, hlt.le⟩ le_rfl rfl (fun _ hy => hy) fun _ hd => hd⟩
  · exact ⟨as, h⟩

theorem Trace.takeEvent (h : Trace lines xs cs s as) (hin : Inside lines s) :
    ∃ bs, Trace lines xs cs (s.takeEvent lines lines.last).state bs := by
  obtain ⟨hle, ht⟩ := hin.takeEvent
  rcases takeEvent_cases lines lines.last s with ⟨c, ds, hcs, hat, he⟩ | ⟨-, x, ys, hxs, hat, he⟩ |
    ⟨-, -, -, he⟩ | ⟨-, -, -, he⟩
  · rw [he]
    refine ⟨_, h.add (Builder.items_addProse _ _) (.comment (h.comments c (by simp [hcs])))
      (hin.comments c (by simp [hcs])) hat.ge rfl ?_ ?_⟩
    · exact fun y hy => (List.dropWhile_suffix _).subset hy
    · exact fun d hd => hcs ▸ List.mem_cons_of_mem _ hd
  · rw [he]
    refine ⟨_, h.add (Builder.items_addRun _ _) (.segment (h.segments x (by simp [hxs])))
      (hin.segments x (by simp [hxs])) hat.ge rfl ?_ ?_⟩
    · exact fun y hy => hxs ▸ List.mem_cons_of_mem _ hy
    · exact fun d hd => hd
  · rw [he]
    exact ⟨as, h⟩
  · rw [he] at hle ht ⊢
    exact ⟨as, h.move rfl hle ht.cursor rfl rfl⟩

variable (hx : ∀ x ∈ xs, lines.Within x.span) (hc : ∀ c ∈ cs, lines.Within c.span)
include hx hc

/-- A step leads on from a trace. -/
theorem Trace.step (h : Trace lines xs cs s as) :
    ∃ bs, Trace lines xs cs (s.step lines lines.last).state bs := by
  obtain ⟨bs, hg⟩ := h.fillGap (h.inside hx hc)
  rw [step_eq]
  exact hg.takeEvent (hg.inside hx hc)

theorem Trace.run (h : Trace lines xs cs s as) (n : Nat) :
    ∃ bs, Trace lines xs cs (s.run lines lines.last n) bs := by
  apply run_invariant (P := fun t => ∃ bs, Trace lines xs cs t bs)
  · exact fun t ⟨bs, ht⟩ => ht.step hx hc
  · exact ⟨as, h⟩

end

end Assembly

/-- the spans of the prose among pieces -/
def proseSpans (as : List (Item × Span)) : List Span :=
  (as.filter fun a => a.1.isProse).map Prod.snd

section

variable {lines : Buffer} {xs : List Segment} {cs : List Comment}

/-- Every place of one span is clear of spans that it is apart from. -/
theorem Buffer.kept_clear {spans : List Span} {w : Span} (hw : lines.Within w)
    (h : ∀ s ∈ spans, lines.Within s ∧ w.Apart s) :
    Text.kept (lines.clear spans) (lines.offset w.start) (lines.slice w) = lines.slice w := by
  have hle := (Buffer.offset_le_iff hw.start hw.stop).mpr hw.valid
  have hlen : (lines.slice w).length = _ := Buffer.length_slice hw.start hw.stop hw.valid
  apply Text.kept_all
  intro k hk hk'
  rw [Buffer.clear, List.all_eq_true]
  intro s hs
  obtain ⟨hin, hap⟩ := h s hs
  simp only [Bool.not_eq_true', Bool.and_eq_false_iff, decide_eq_false_iff_not]
  rcases hap with hap | hap
  · have := (Buffer.offset_le_iff hw.stop hin.start).mpr hap
    exact .inl (by omega)
  · have := (Buffer.offset_le_iff hin.stop hw.start).mpr hap
    exact .inr (by omega)

/-- The text of pieces one behind the other is found, in that order, behind a position in front of
them and outside all spans that their runs are apart from. -/
theorem code_sublist_outsideFrom {spans : List Span} {p : Position} (hp : lines.Holds p)
    (hspans : ∀ s ∈ spans, lines.Within s) {as : List (Item × Span)}
    (placed : ∀ a ∈ as, Placed lines xs cs a.1 a.2) (within : ∀ a ∈ as, lines.Within a.2)
    (ordered : as.Pairwise fun a b => a.2.stop ≤ b.2.start) (ahead : ∀ a ∈ as, p ≤ a.2.start)
    (apart : ∀ a ∈ as, a.1.isProse = false → ∀ s ∈ spans, a.2.Apart s) :
    (as.flatMap fun a => a.1.code).Sublist (lines.outsideFrom p spans) := by
  induction as generalizing p with
  | nil => exact List.nil_sublist _
  | cons a as ih =>
    rw [List.pairwise_cons] at ordered
    have hw := within a (by simp)
    have here : a.1.code.Sublist
        (Text.kept (lines.clear spans) (lines.offset a.2.start) (lines.slice a.2)) := by
      cases hi : a.1 with
      | run r =>
        rw [Buffer.kept_clear hw fun s hs =>
          ⟨hspans s hs, apart a (by simp) (by rw [hi]; rfl) s hs⟩, ← hi]
        exact (placed a (by simp)).code_sublist
      | prose s => exact List.nil_sublist _
    have rest := ih hw.stop (fun b hb => placed b (by simp [hb]))
      (fun b hb => within b (by simp [hb]))
      ordered.2 ordered.1 fun b hb => apart b (by simp [hb])
    rw [Buffer.outsideFrom_split hp hw.start (ahead a (by simp)),
      Buffer.outsideFrom_split hw.start hw.stop hw.valid, List.flatMap_cons]
    exact (here.append rest).trans (List.sublist_append_right _ _)

theorem Assembly.Trace.apart {s : Assembly} {as : List (Item × Span)}
    (h : Assembly.Trace lines xs cs s as) :
    ∀ a ∈ as, a.1.isProse = false → ∀ w ∈ proseSpans as, a.2.Apart w := by
  intro a ha hprose w hw
  obtain ⟨b, hb, rfl⟩ := List.mem_map.mp hw
  obtain ⟨hb, hbprose⟩ := List.mem_filter.mp hb
  have symm : Std.Symm fun a b : Item × Span => a.2.Apart b.2 := ⟨fun _ _ h => h.symm⟩
  have hap : as.Pairwise fun a b => a.2.Apart b.2 := h.ordered.imp .inl
  refine hap.forall ha hb ?_
  rintro rfl
  simp [hprose] at hbprose

end

/-- Segments and comments of the buffer in any order, however they overlap: the cursor never goes
back, the pieces have spans one behind the other, and the text of the listings is found in the
buffer outside the comments that became prose, no character of it twice. -/
theorem assemble_placed {lines : Buffer} {xs : List Segment} {cs : List Comment}
    (hx : ∀ x ∈ xs, lines.Within x.span) (hc : ∀ c ∈ cs, lines.Within c.span) :
    (∀ m n, m ≤ n →
      (Assembly.run lines lines.last m { segments := xs, comments := cs }).cursor ≤
        (Assembly.run lines lines.last n { segments := xs, comments := cs }).cursor) ∧
    ∃ as : List (Item × Span),
      as.map Prod.fst = (assemble lines xs cs).1.flatMap Block.items ∧
      (∀ a ∈ as, Placed lines xs cs a.1 a.2 ∧ lines.Within a.2) ∧
      as.Pairwise (fun a b => a.2.stop ≤ b.2.start) ∧
      (listing (assemble lines xs cs).1).Sublist (lines.outside (proseSpans as)) ∧
      (lines.outside (proseSpans as)).Sublist lines.whole := by
  rcases eq_or_ne lines [] with rfl | hne
  · -- no position, and so nothing to assemble
    have none_within (w : Span) : ¬ Buffer.Within [] w := fun h => h.start.ne_nil rfl
    obtain rfl : xs = [] := List.eq_nil_iff_forall_not_mem.mpr fun x hm => none_within _ (hx x hm)
    obtain rfl : cs = [] := List.eq_nil_iff_forall_not_mem.mpr fun c hm => none_within _ (hc c hm)
    have nothing : assemble [] [] [] = ([], []) := rfl
    refine ⟨fun m n _ => ?_, [], rfl, by simp, List.Pairwise.nil, ?_, Buffer.outside_sublist _ _⟩
    · cases m <;> cases n <;> exact le_rfl
    · rw [nothing]
      exact List.nil_sublist _
  have start : Assembly.Trace lines xs cs { segments := xs, comments := cs } [] :=
    ⟨rfl, by simp, by simp, List.Pairwise.nil, by simp, Buffer.holds_zero hne, fun _ h => h,
      fun _ h => h⟩
  refine ⟨fun m n hmn => (start.inside hx hc).run_mono hmn, ?_⟩
  obtain ⟨as, h⟩ := start.run hx hc (Assembly.enough lines { segments := xs, comments := cs })
  have items_eq : as.map Prod.fst = (assemble lines xs cs).1.flatMap Block.items :=
    h.items.trans (Builder.items_close _).symm
  refine ⟨as, items_eq, fun a ha => ⟨h.placed a ha, h.within a ha⟩, h.ordered, ?_,
    Buffer.outside_sublist _ _⟩
  rw [listing_eq, ← items_eq, List.flatMap_map, Buffer.outside_eq_outsideFrom]
  apply code_sublist_outsideFrom (Buffer.holds_zero hne) _ h.placed h.within h.ordered
    (fun a ha => (h.within a ha).start.zero_le) h.apart
  intro w hw
  obtain ⟨a, ha, rfl⟩ := List.mem_map.mp hw
  exact h.within a (List.mem_filter.mp ha).1

/-- Segments out of order: the assembly is stuck behind the second one, and what it built stays in
place. -/
theorem assemble_placed_disordered :
    ∃ as : List (Item × Span),
      as.map Prod.fst = [.run (.text "ab"), .prose "c",
        .run (.annotated "de" ⟨⟨⟨0, 3⟩, ⟨0, 5⟩⟩, {}⟩ .plain)] ∧
      as.Pairwise (fun a b => a.2.stop ≤ b.2.start) := by
  obtain ⟨-, as, h, -, ho, -⟩ := @assemble_placed [['a', 'b', 'c', 'd', 'e', 'f']]
    [⟨⟨⟨0, 3⟩, ⟨0, 5⟩⟩, {}⟩, ⟨⟨⟨0, 0⟩, ⟨0, 2⟩⟩, {}⟩] [⟨⟨⟨0, 2⟩, ⟨0, 3⟩⟩, "c"⟩]
    (by decide) (by decide)
  refine ⟨as, h.trans ?_, ho⟩
  decide

end Literate
