import Literate.Proofs.Assembly.Exact

/-! What the blocks of a document look like, whatever segments and comments the assembly is given.
Listings have runs, and prose stands between any two of them; texts have characters, a decorated run
stands between any two of them, and a listing neither opens with blanks nor, in front of prose, closes
with blanks. The prose comes from the first comments, and the decorated runs from segments in the
order of the list. -/

namespace Literate

namespace Text

/-- no blank at the start -/
def Opens (s : List Char) : Prop := ∀ c ∈ s.head?, isBlank c = false

/-- no blank at the end -/
def Closes (s : List Char) : Prop := ∀ c ∈ s.getLast?, isBlank c = false

theorem opens_trimLeft (s : List Char) : Opens (trimLeft s) := by
  intro c hc
  have h := List.head?_dropWhile_not isBlank s
  rw [trimLeft, Option.mem_def] at hc
  rw [hc] at h
  exact h

theorem closes_trimRight (s : List Char) : Closes (trimRight s) := by
  intro c hc
  rw [trimRight, dropTail, List.getLast?_reverse] at hc
  exact opens_trimLeft s.reverse c hc

theorem Opens.initial {s t : List Char} (h : Opens t) (hst : s <+: t) : Opens s := by
  intro c hc
  obtain ⟨r, rfl⟩ := hst
  apply h c
  rw [List.head?_append, Option.mem_def.mp hc]
  rfl

end Text

/-- Runs of one listing, in order: no text is empty, no two texts stand side by side, and a text in
front of all other runs does not open with a blank. -/
structure Woven (rs : List Run) : Prop where
  text : ∀ t, .text t ∈ rs → t ≠ ""
  apart : rs.IsChain fun a b => a.isAnnotated ∨ b.isAnnotated
  opening : ∀ t, rs.head? = some (.text t) → Text.Opens t.toList

/-- A listing stands in front of prose only, and then no text at its end closes with a blank. -/
def Block.Precedes : Block → Block → Prop
  | .prose _, _ => True
  | .code _, .code _ => False
  | .code rs, .prose _ => ∀ t, rs.getLast? = some (.text t) → Text.Closes t.toList

theorem woven_nil : Woven [] := ⟨by simp, List.IsChain.nil, by simp⟩

/-- A run behind others: a text must have characters, stand behind a decorated run, and not open the
listing with a blank. -/
theorem Woven.concat {rs : List Run} (h : Woven rs) (r : Run)
    (hr : ∀ t, r = .text t → t ≠ "" ∧ (∀ q ∈ rs.getLast?, q.isAnnotated) ∧
      (rs = [] → Text.Opens t.toList)) : Woven (rs ++ [r]) where
  text := by
    intro t ht
    rcases List.mem_append.mp ht with ht | ht
    · exact h.text t ht
    · exact (hr t (List.mem_singleton.mp ht).symm).1
  apart := by
    apply h.apart.append (List.IsChain.singleton r)
    intro q hq s hs
    obtain rfl : r = s := by simpa using hs
    cases r with
    | text t => exact .inl ((hr t rfl).2.1 q hq)
    | annotated t x d => exact .inr rfl
  opening := by
    intro t ht
    cases rs with
    | nil => exact (hr t (by simpa using ht)).2.2 rfl
    | cons q rs => exact h.opening t (by simpa using ht)

theorem isChain_ofRuns (rs : List Run) : (Block.ofRuns rs).IsChain Block.Precedes := by
  unfold Block.ofRuns
  split
  · exact List.IsChain.nil
  · exact List.IsChain.singleton _

theorem mem_ofRuns {b : Block} {rs : List Run} : b ∈ Block.ofRuns rs ↔ rs ≠ [] ∧ b = .code rs := by
  unfold Block.ofRuns
  split <;> simp_all

namespace Assembly

theorem opens_gapText (closing : Bool) (t : List Char) : Text.Opens (gapText false closing t) := by
  unfold gapText
  cases closing with
  | true => exact (Text.opens_trimLeft t).initial (Text.trimRight_prefix _)
  | false => exact Text.opens_trimLeft t

theorem closes_gapText (opened : Bool) (t : List Char) : Text.Closes (gapText opened true t) := by
  simp only [gapText, if_true]
  exact Text.closes_trimRight _

/-- The shape of what is built. A text at the end of the open listing ends where something is next, so
that nothing but a comment, a segment or the end of the assembly comes behind it; if it is a comment,
the text is trimmed for it. -/
structure Shaped (lines : Buffer) (stop : Position) (xs : List Segment) (cs : List Comment)
    (s : Assembly) : Prop where
  sound : s.built.Sound
  listing : ∀ rs, .code rs ∈ s.built.blocks → rs ≠ [] ∧ Woven rs
  chain : s.built.blocks.IsChain Block.Precedes
  closed : ∀ b ∈ s.built.blocks.getLast?, ∃ content, b = .prose content
  runs : Woven s.built.open?
  pause : ∀ t, s.built.open?.getLast? = some (.text t) →
    (s.nextComment = some s.cursor ∨ s.nextSegment = some s.cursor ∨ stop ≤ s.cursor) ∧
      (s.nextComment = some s.cursor → Text.Closes t.toList)
  prose : proseOf s.built.blocks ++ s.comments.map Comment.content = cs.map Comment.content
  decorated : ∃ ys, (ys ++ s.segments).Sublist xs ∧
    decorated s.built.blocks ++ s.built.open?.filter Run.isAnnotated = ys.map (Segment.run lines)

section

variable {lines : Buffer} {stop : Position} {xs : List Segment} {cs : List Comment} {s : Assembly}

/-- Where something is next, no gap is left to fill. -/
theorem gapEnd_le_cursor
    (h : s.nextComment = some s.cursor ∨ s.nextSegment = some s.cursor ∨ stop ≤ s.cursor) :
    s.gapEnd stop ≤ s.cursor := by
  rcases h with h | h | h
  · obtain ⟨c, ds, hs, hc⟩ := nextComment_eq_some.mp h
    exact hc ▸ gapEnd_le_comment hs
  · obtain ⟨x, ys, hs, hx⟩ := nextSegment_eq_some.mp h
    exact hx ▸ gapEnd_le_segment hs
  · exact (gapEnd_le_stop stop s).trans h

theorem shaped_start (lines : Buffer) (stop : Position) (xs : List Segment) (cs : List Comment) :
    Shaped lines stop xs cs { segments := xs, comments := cs } where
  sound := by simp [Builder.Sound]
  listing := by simp
  chain := List.IsChain.nil
  closed := by simp
  runs := woven_nil
  pause := by simp [Builder.open?]
  prose := rfl
  decorated := ⟨[], List.Sublist.refl _, rfl⟩

theorem Shaped.fillGap (h : Shaped lines stop xs cs s) :
    Shaped lines stop xs cs (s.fillGap lines stop) := by
  by_cases hlt : s.cursor < s.gapEnd stop
  swap
  · rw [fillGap_of_le (not_lt.mp hlt)]
    exact h
  have annotated : ∀ q ∈ s.built.open?.getLast?, q.isAnnotated := by
    intro q hq
    cases q with
    | text t => exact absurd hlt (gapEnd_le_cursor (h.pause t hq).1).not_gt
    | annotated t x d => rfl
  have event := gapEnd_eq stop s
  unfold Assembly.fillGap
  simp only
  rw [if_pos hlt]
  split
  · -- nothing is left of the gap
    refine { h with pause := ?_ }
    intro t ht
    exact absurd (annotated _ ht) (by simp [Run.isAnnotated])
  · next hne =>
    refine { h with sound := ?_, runs := ?_, pause := ?_, decorated := ?_ }
    · exact Builder.sound_addRun _ _
    · apply h.runs.concat
      intro t ht
      obtain rfl := Run.text.inj ht
      refine ⟨by simpa using hne, annotated, fun hnil => ?_⟩
      have unopened : s.built.isOpen = false := by rw [h.sound.isOpen, hnil]; rfl
      rw [String.toList_ofList, unopened]
      exact opens_gapText _ _
    · intro t ht
      obtain rfl : _ = t := by simpa using ht
      refine ⟨?_, ?_⟩
      · rcases event with k | k | k
        · exact .inr (.inr k.ge)
        · exact .inr (.inl k)
        · exact .inl k
      · intro hc
        have trimmed : decide (s.nextComment = some (s.gapEnd stop)) = true := decide_eq_true hc
        rw [String.toList_ofList, trimmed]
        exact closes_gapText _ _
    · simpa [Run.isAnnotated] using h.decorated

/-- What is closed in front of a comment keeps its shape. -/
theorem Shaped.takeComment (h : Shaped lines stop xs cs s) {c : Comment} {ds : List Comment}
    (hs : s.comments = c :: ds) (hc : c.span.start = s.cursor) :
    Shaped lines stop xs cs (s.takeComment c ds) where
  sound := Builder.sound_addProse _ _
  listing := by
    intro rs hrs
    simp only [Assembly.takeComment, Builder.blocks_addProse, List.mem_append, mem_ofRuns,
      List.mem_singleton, reduceCtorEq, or_false] at hrs
    rcases hrs with hrs | ⟨hne, heq⟩
    · exact h.listing rs hrs
    · obtain rfl := Block.code.inj heq
      exact ⟨hne, h.runs⟩
  chain := by
    rw [Assembly.takeComment, Builder.blocks_addProse, List.append_assoc]
    have at_cursor : s.nextComment = some s.cursor := nextComment_eq_some.mpr ⟨c, ds, hs, hc⟩
    refine h.chain.append ((isChain_ofRuns _).append (List.IsChain.singleton _) ?_) ?_
    · intro a ha b hb
      obtain rfl : .prose c.content = b := by simpa using hb
      obtain ⟨-, rfl⟩ := mem_ofRuns.mp (List.mem_of_mem_getLast? ha)
      exact fun t ht => (h.pause t ht).2 at_cursor
    · intro a ha b hb
      obtain ⟨content, rfl⟩ := h.closed a ha
      trivial
  closed := by simp [Assembly.takeComment, Builder.blocks_addProse]
  runs := by
    rw [Assembly.takeComment, Builder.open?_addProse]
    exact woven_nil
  pause := by simp [Assembly.takeComment]
  prose := by
    have hp := h.prose
    rw [hs] at hp
    rw [← hp, Assembly.takeComment, Builder.blocks_addProse, proseOf_append, proseOf_append,
      proseOf_ofRuns]
    simp [proseOf]
  decorated := by
    obtain ⟨ys, hys, hd⟩ := h.decorated
    refine ⟨ys, ?_, ?_⟩
    · exact ((List.dropWhile_suffix _).sublist.append_left ys).trans hys
    · rw [← hd, Assembly.takeComment, Builder.blocks_addProse, decorated_append, decorated_append,
        decorated_ofRuns]
      simp [Literate.decorated]

theorem Shaped.takeSegment (h : Shaped lines stop xs cs s) {x : Segment} {ys : List Segment}
    (hs : s.segments = x :: ys) : Shaped lines stop xs cs (s.takeSegment lines x ys) where
  sound := Builder.sound_addRun _ _
  listing := h.listing
  chain := h.chain
  closed := h.closed
  runs := h.runs.concat _ (by simp)
  pause := by simp [Assembly.takeSegment]
  prose := h.prose
  decorated := by
    obtain ⟨zs, hzs, hd⟩ := h.decorated
    refine ⟨zs ++ [x], by simpa [Assembly.takeSegment, hs] using hzs, ?_⟩
    rw [List.map_append, ← hd]
    simp [Assembly.takeSegment, Run.isAnnotated, Segment.run]

theorem Shaped.takeEvent (h : Shaped lines stop xs cs s) :
    Shaped lines stop xs cs (s.takeEvent lines stop).state := by
  rcases takeEvent_cases lines stop s with ⟨c, ds, hs, hat, he⟩ | ⟨-, x, ys, hs, -, he⟩ |
    ⟨-, -, -, he⟩ | ⟨hc, hx, hlt, he⟩
  · rw [he]
    exact h.takeComment hs hat
  · rw [he]
    exact h.takeSegment hs
  · rw [he]
    exact h
  · -- stuck, and so not behind a text
    rw [he]
    refine { h with pause := ?_ }
    intro t ht
    rcases (h.pause t ht).1 with k | k | k
    · exact absurd k hc
    · exact absurd k hx
    · exact absurd hlt k.not_gt

theorem Shaped.step (h : Shaped lines stop xs cs s) :
    Shaped lines stop xs cs (s.step lines stop).state := by
  rw [step_eq]
  exact h.fillGap.takeEvent

theorem Shaped.run (h : Shaped lines stop xs cs s) (n : Nat) :
    Shaped lines stop xs cs (s.run lines stop n) :=
  run_invariant (fun _ ht => ht.step) n h

end

end Assembly

section

variable (lines : Buffer) (stop : Position) (xs : List Segment) (cs : List Comment)

theorem shaped_final : Assembly.Shaped lines stop xs cs
    (Assembly.run lines stop (Assembly.enough lines { segments := xs, comments := cs })
      { segments := xs, comments := cs }) :=
  (Assembly.shaped_start lines stop xs cs).run _

theorem woven_of_mem_blocks {rs : List Run} (h : .code rs ∈ (assembleUpTo lines stop xs cs).1) :
    rs ≠ [] ∧ Woven rs := by
  have final := shaped_final lines stop xs cs
  simp only [assembleUpTo, Builder.blocks_close] at h
  rcases List.mem_append.mp h with h | h
  · exact final.listing rs h
  · obtain ⟨hne, heq⟩ := mem_ofRuns.mp h
    obtain rfl := Block.code.inj heq
    exact ⟨hne, final.runs⟩

theorem isChain_blocks : (assembleUpTo lines stop xs cs).1.IsChain Block.Precedes := by
  have final := shaped_final lines stop xs cs
  simp only [assembleUpTo, Builder.blocks_close]
  apply final.chain.append (isChain_ofRuns _)
  intro a ha b hb
  obtain ⟨content, rfl⟩ := final.closed a ha
  trivial

theorem proseOf_blocks : proseOf (assembleUpTo lines stop xs cs).1 <+: cs.map Comment.content := by
  have final := shaped_final lines stop xs cs
  simp only [assembleUpTo, Builder.blocks_close]
  rw [← final.prose, proseOf_append, proseOf_ofRuns, List.append_nil]
  exact List.prefix_append _ _

theorem decorated_blocks : ∃ ys : List Segment, ys.Sublist xs ∧
    decorated (assembleUpTo lines stop xs cs).1 = ys.map (Segment.run lines) := by
  obtain ⟨ys, hys, hd⟩ := (shaped_final lines stop xs cs).decorated
  simp only [assembleUpTo, Builder.blocks_close]
  refine ⟨ys, (List.sublist_append_left _ _).trans hys, ?_⟩
  rw [decorated_append, decorated_ofRuns, hd]

end

/-- Whatever the buffer, its end, the segments and the comments are: listings have runs that are woven,
prose stands between two listings and has no blank in front of it, the prose is that of the first
comments, and the decorated runs are those of segments in the order of their list. -/
theorem assembleUpTo_shape (lines : Buffer) (stop : Position) (xs : List Segment)
    (cs : List Comment) :
    (∀ rs, .code rs ∈ (assembleUpTo lines stop xs cs).1 → rs ≠ [] ∧ Woven rs) ∧
    (assembleUpTo lines stop xs cs).1.IsChain Block.Precedes ∧
    proseOf (assembleUpTo lines stop xs cs).1 <+: cs.map Comment.content ∧
    ∃ ys : List Segment, ys.Sublist xs ∧
      decorated (assembleUpTo lines stop xs cs).1 = ys.map (Segment.run lines) :=
  ⟨fun _ => woven_of_mem_blocks lines stop xs cs, isChain_blocks lines stop xs cs,
    proseOf_blocks lines stop xs cs, decorated_blocks lines stop xs cs⟩

end Literate
