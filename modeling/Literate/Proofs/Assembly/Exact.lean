import Literate.Proofs.Assembly.Layout

/-! What a document shows when segments and comments do not straddle one another. Each stretch of
the buffer between two comments is one listing, and the text of it is the text of the buffer but for
blanks in front of its first segment, and behind its last one when a comment follows. -/

namespace Literate

/-- a stretch of the buffer between two comments, with the comment behind it -/
structure Region where
  span : Span
  next : Option Comment
  deriving DecidableEq, Repr

/-- the regions from `p` on -/
def regionsFrom (lines : Buffer) (p : Position) : List Comment → List Region
  | [] => [⟨⟨p, lines.last⟩, none⟩]
  | c :: cs => ⟨⟨p, c.span.start⟩, some c⟩ :: regionsFrom lines c.span.stop cs

def regions (lines : Buffer) (cs : List Comment) : List Region := regionsFrom lines ⟨0, 0⟩ cs

/-- where the last segment stops, or `q` without one -/
def lastStop (q : Position) : List Segment → Position
  | [] => q
  | x :: xs => lastStop x.span.stop xs

namespace Region

/-- trimmed at the end if a comment follows -/
def tail (r : Region) (t : List Char) : List Char := if r.next.isSome then Text.trimRight t else t

/-- The text of the region: what lies in front of its first segment is trimmed at its start, what
lies behind the last one at its end, and the rest is as it is. -/
def text (lines : Buffer) (xs : List Segment) (r : Region) : List Char :=
  match inside r.span xs with
  | [] => r.tail (Text.trimLeft (lines.slice r.span))
  | x :: ys =>
    let last := lastStop x.span.stop ys
    Text.trimLeft (lines.slice ⟨r.span.start, x.span.start⟩) ++ lines.slice ⟨x.span.start, last⟩ ++
      r.tail (lines.slice ⟨last, r.span.stop⟩)

/-- the comment behind it -/
def prose (r : Region) : List Block := (r.next.map fun c => .prose c.content).toList

/-- one listing, unless there is no text, and the comment -/
def blocks (lines : Buffer) (xs : List Segment) (r : Region) : List Block :=
  Block.ofRuns (Run.ofText (r.text lines xs)) ++ r.prose

/-- the listing with its runs -/
def runs (lines : Buffer) (xs : List Segment) (r : Region) : List Run :=
  regionRuns lines false r.next.isSome r.span.start r.span.stop (inside r.span xs)

end Region

/-- a listing without its decoration -/
def Block.plain : Block → Block
  | .code rs => .code [.text (codeText rs)]
  | .prose s => .prose s

namespace Run

def isAnnotated : Run → Bool
  | text _ => false
  | annotated _ _ _ => true

@[simp] theorem flatMap_content_ofText (t : List Char) :
    (ofText t).flatMap (fun r => r.content.toList) = t := by
  unfold ofText
  split <;> simp_all [content]

@[simp] theorem filter_isAnnotated_ofText (t : List Char) : (ofText t).filter isAnnotated = [] := by
  unfold ofText
  split <;> simp [isAnnotated]

end Run

/-- the decorated runs of all listings -/
def decorated (bs : List Block) : List Run :=
  bs.flatMap fun
    | .code rs => rs.filter Run.isAnnotated
    | .prose _ => []

/-- all prose -/
def proseOf (bs : List Block) : List Wording :=
  bs.filterMap fun
    | .code _ => none
    | .prose s => some s

section

variable {lines : Buffer} {p q e : Position} {xs ys : List Segment} {cs : List Comment}

theorem layoutFrom_eq_regionsFrom (lines : Buffer) (p : Position) (xs : List Segment)
    (cs : List Comment) :
    layoutFrom lines [] p xs cs = (regionsFrom lines p cs).flatMap fun r =>
      Block.ofRuns (r.runs lines xs) ++ r.prose := by
  induction cs generalizing p with
  | nil => simp [layoutFrom, regionsFrom, Region.runs, Region.prose]
  | cons c cs ih => simp [layoutFrom, regionsFrom, Region.runs, Region.prose, ih]

/-- Segments of a region: in it, and one behind the other. -/
structure Lined (lines : Buffer) (q e : Position) (ys : List Segment) : Prop where
  within : ∀ y ∈ ys, lines.Within y.span
  nonempty : ∀ y ∈ ys, y.span.start < y.span.stop
  start : ∀ y ∈ ys, q ≤ y.span.start
  stop : ∀ y ∈ ys, y.span.stop ≤ e
  ordered : ys.Pairwise fun a b => a.span.stop ≤ b.span.start

theorem Ordered.lined (h : Ordered lines xs cs) (w : Span) :
    Lined lines w.start w.stop (inside w xs) := by
  have mem (x : Segment) (hx : x ∈ inside w xs) : x ∈ xs ∧ w.Contains x.span := by
    simpa [inside] using hx
  exact ⟨fun x hx => (h.segment x (mem x hx).1).1, fun x hx => (h.segment x (mem x hx).1).2,
    fun x hx => (mem x hx).2.1, fun x hx => (mem x hx).2.2, h.segments.filter _⟩

theorem Lined.of_cons {x : Segment} (h : Lined lines q e (x :: ys)) :
    Lined lines x.span.stop e ys :=
  ⟨fun y hy => h.within y (by simp [hy]), fun y hy => h.nonempty y (by simp [hy]),
    (List.pairwise_cons.mp h.ordered).1, fun y hy => h.stop y (by simp [hy]),
    (List.pairwise_cons.mp h.ordered).2⟩

theorem Lined.lastStop (h : Lined lines q e ys) (hq : lines.Holds q) (hqe : q ≤ e) :
    lines.Holds (lastStop q ys) ∧ q ≤ lastStop q ys ∧ lastStop q ys ≤ e := by
  induction ys generalizing q with
  | nil => exact ⟨hq, le_rfl, hqe⟩
  | cons x ys ih =>
    have hx := h.within x (by simp)
    obtain ⟨h₁, h₂, h₃⟩ := ih h.of_cons hx.stop (h.stop x (by simp))
    exact ⟨h₁, ((h.start x (by simp)).trans hx.valid).trans h₂, h₃⟩

/-- In a listing that is open nothing is left out up to the last segment. -/
theorem Lined.content_opened (h : Lined lines q e ys) (hq : lines.Holds q) (hqe : q ≤ e)
    (closing : Bool) :
    (regionRuns lines true closing q e ys).flatMap (fun r => r.content.toList) =
      lines.slice ⟨q, Literate.lastStop q ys⟩ ++
        Assembly.gapText true closing (lines.slice ⟨Literate.lastStop q ys, e⟩) := by
  induction ys generalizing q with
  | nil => simp [regionRuns, Literate.lastStop, Buffer.slice_self hq]
  | cons x ys ih =>
    have hx := h.within x (by simp)
    have hstart := h.start x (by simp)
    obtain ⟨h₁, h₂, -⟩ := h.of_cons.lastStop hx.stop (h.stop x (by simp))
    have front : lines.slice ⟨q, x.span.start⟩ ++ lines.slice x.span =
        lines.slice ⟨q, x.span.stop⟩ :=
      Buffer.slice_append hq hx.start hx.stop hstart hx.valid
    have whole : lines.slice ⟨q, x.span.stop⟩ ++
        lines.slice ⟨x.span.stop, Literate.lastStop x.span.stop ys⟩ =
        lines.slice ⟨q, Literate.lastStop x.span.stop ys⟩ :=
      Buffer.slice_append hq hx.stop h₁ (hstart.trans hx.valid) h₂
    have gap : Assembly.gapText true false (lines.slice ⟨q, x.span.start⟩) =
        lines.slice ⟨q, x.span.start⟩ := rfl
    rw [regionRuns, List.flatMap_append, Run.flatMap_content_ofText, List.flatMap_cons,
      x.content_run, gap,
      ih h.of_cons hx.stop (h.stop x (by simp)), Literate.lastStop, ← whole, ← front]
    simp only [List.append_assoc]

/-- The runs of a region spell its text. -/
theorem Ordered.content_runs (h : Ordered lines xs cs) (r : Region) :
    (r.runs lines xs).flatMap (fun r => r.content.toList) = r.text lines xs := by
  have hl := h.lined r.span
  unfold Region.runs Region.text
  cases hys : inside r.span xs with
  | nil =>
    rw [regionRuns, Run.flatMap_content_ofText]
    rfl
  | cons x ys =>
    rw [hys] at hl
    have hx := hl.within x (by simp)
    have hstop := hl.stop x (by simp)
    obtain ⟨h₁, h₂, -⟩ := hl.of_cons.lastStop hx.stop hstop
    have whole : lines.slice x.span ++ lines.slice ⟨x.span.stop, lastStop x.span.stop ys⟩ =
        lines.slice ⟨x.span.start, lastStop x.span.stop ys⟩ :=
      Buffer.slice_append hx.start hx.stop h₁ hx.valid h₂
    simp only [regionRuns]
    rw [List.flatMap_append, Run.flatMap_content_ofText, List.flatMap_cons, x.content_run,
      hl.of_cons.content_opened hx.stop hstop, ← whole, List.append_assoc, List.append_assoc]
    rfl

/-- A region has runs only if it has text. -/
theorem Ordered.runs_eq_nil (h : Ordered lines xs cs) (r : Region)
    (ht : (r.runs lines xs).flatMap (fun r => r.content.toList) = []) : r.runs lines xs = [] := by
  have hl := h.lined r.span
  unfold Region.runs at ht ⊢
  cases hys : inside r.span xs with
  | nil =>
    rw [hys, regionRuns, Run.flatMap_content_ofText] at ht
    rw [regionRuns, ht]
    rfl
  | cons x ys =>
    rw [hys] at ht hl
    rw [regionRuns, List.flatMap_append, List.flatMap_cons, List.append_eq_nil_iff,
      List.append_eq_nil_iff] at ht
    have hx := hl.within x (by simp)
    have hne := Buffer.slice_ne_nil hx.start hx.stop (hl.nonempty x (by simp))
    exact absurd (x.content_run lines ▸ ht.2.1) hne

theorem Ordered.plain_runs (h : Ordered lines xs cs) (r : Region) :
    (Block.ofRuns (r.runs lines xs)).map Block.plain =
      Block.ofRuns (Run.ofText (r.text lines xs)) := by
  have hc := h.content_runs r
  have code_eq : codeText (r.runs lines xs) = String.ofList (r.text lines xs) := by
    rw [← hc, ← toList_codeText, String.ofList_toList]
  by_cases ht : r.text lines xs = []
  · have hr := h.runs_eq_nil r (hc.trans ht)
    rw [hr, ht]
    rfl
  · have hr : r.runs lines xs ≠ [] := by
      intro hn
      rw [hn] at hc
      exact ht hc.symm
    rw [Block.ofRuns, if_neg hr, Run.ofText, if_neg ht, Block.ofRuns, if_neg (List.cons_ne_nil _ _),
      List.map_singleton, Block.plain, code_eq]

/-- The regions from a position on lie behind it, in order. -/
theorem Ordered.regionsFrom_spec (h : Ordered lines xs cs) (hp : lines.Holds p)
    (hc : ∀ c ∈ cs, p ≤ c.span.start) :
    (∀ r ∈ regionsFrom lines p cs, lines.Within r.span ∧ p ≤ r.span.start) ∧
      (regionsFrom lines p cs).Pairwise fun r t => r.span.stop ≤ t.span.start := by
  induction cs generalizing p with
  | nil =>
    have hlast := Buffer.holds_last hp.ne_nil
    exact ⟨by simpa [regionsFrom] using ⟨hp, hlast, hp.le_last⟩, by simp [regionsFrom]⟩
  | cons c cs ih =>
    have hin := h.comment c (by simp)
    have hcs := List.pairwise_cons.mp h.comments
    have hpc := hc c (by simp)
    obtain ⟨hreg, hord⟩ :=
      ih h.of_comment hin.stop hcs.1
    refine ⟨fun r hr => ?_, ?_⟩
    · rcases List.mem_cons.mp hr with rfl | hr
      · exact ⟨⟨hp, hin.start, hpc⟩, le_rfl⟩
      · obtain ⟨h₁, h₂⟩ := hreg r hr
        exact ⟨h₁, (hpc.trans hin.valid).trans h₂⟩
    · rw [regionsFrom, List.pairwise_cons]
      exact ⟨fun r hr => hin.valid.trans (hreg r hr).2, hord⟩

/-- A span of the buffer lies in a region when it is apart from all comments. -/
theorem Ordered.exists_region (h : Ordered lines xs cs) (hc : ∀ c ∈ cs, p ≤ c.span.start) {s : Span}
    (hs : lines.Within s) :
    (∃ r ∈ regionsFrom lines p cs, r.span.Contains s) ↔
      p ≤ s.start ∧ ∀ c ∈ cs, s.Apart c.span := by
  induction cs generalizing p with
  | nil => simp [regionsFrom, Span.Contains, hs.stop.le_last]
  | cons c cs ih =>
    have hv := (h.comment c (by simp)).valid
    have hcs := (List.pairwise_cons.mp h.comments).1
    have hpc := hc c (by simp)
    rw [regionsFrom]
    simp only [List.exists_mem_cons_iff, List.forall_mem_cons]
    rw [ih h.of_comment hcs]
    constructor
    · rintro (⟨hp, hstop⟩ | ⟨hstart, hap⟩)
      · exact ⟨hp, .inl hstop, fun d hd => .inl (hstop.trans (hv.trans (hcs d hd)))⟩
      · exact ⟨(hpc.trans hv).trans hstart, .inr hstart, hap⟩
    · rintro ⟨hp, hstop | hstart, hap⟩
      · exact .inl ⟨hp, hstop⟩
      · exact .inr ⟨hstart, hap⟩

/-- The segments of the regions are those that are apart from all comments. -/
theorem Ordered.flatMap_inside (h : Ordered lines xs cs) (hne : lines ≠ []) :
    ((regions lines cs).flatMap fun r => inside r.span xs) =
      xs.filter fun x => ∀ c ∈ cs, x.span.Apart c.span := by
  obtain ⟨-, hord⟩ := h.regionsFrom_spec (Buffer.holds_zero hne) h.zero_le
  have irrefl : Std.Irrefl fun a b : Segment =>
      a.span.stop ≤ b.span.start ∧ a.span.start < a.span.stop :=
    ⟨fun _ h => absurd h.2 h.1.not_gt⟩
  have antisymm : Std.Antisymm fun a b : Segment =>
      a.span.stop ≤ b.span.start ∧ a.span.start < a.span.stop :=
    ⟨fun _ _ h k => absurd (h.2.trans_le (h.1.trans (k.2.le.trans k.1))) (lt_irrefl _)⟩
  have lined : xs.Pairwise fun a b => a.span.stop ≤ b.span.start ∧ a.span.start < a.span.stop :=
    h.segments.imp_of_mem fun ha _ hab => ⟨hab, (h.segment _ ha).2⟩
  refine List.Pairwise.eq_of_mem_iff
    (r := fun a b : Segment => a.span.stop ≤ b.span.start ∧ a.span.start < a.span.stop) ?_
    (lined.filter _)
    fun x => ?_
  · rw [List.pairwise_flatMap]
    refine ⟨fun r _ => lined.filter _, hord.imp fun {r t} hrt x hx y hy => ?_⟩
    have hxr := (h.lined r.span).stop x hx
    have hyt := (h.lined t.span).start y hy
    exact ⟨(hxr.trans hrt).trans hyt, (h.lined r.span).nonempty x hx⟩
  · have mem : x ∈ (regions lines cs).flatMap (fun r => inside r.span xs) ↔
        x ∈ xs ∧ ∃ r ∈ regionsFrom lines ⟨0, 0⟩ cs, r.span.Contains x.span := by
      simp only [List.mem_flatMap, inside, List.mem_filter, decide_eq_true_eq, regions]
      constructor
      · rintro ⟨r, hr, hx, hrx⟩
        exact ⟨hx, r, hr, hrx⟩
      · rintro ⟨hx, r, hr, hrx⟩
        exact ⟨r, hr, hx, hrx⟩
    rw [mem, List.mem_filter, decide_eq_true_eq]
    refine and_congr_right fun hx => ?_
    rw [h.exists_region h.zero_le (h.segment x hx).1]
    exact and_iff_right (h.segment x hx).1.start.zero_le

theorem decorated_append (as bs : List Block) :
    decorated (as ++ bs) = decorated as ++ decorated bs :=
  List.flatMap_append

theorem decorated_ofRuns (rs : List Run) :
    decorated (Block.ofRuns rs) = rs.filter Run.isAnnotated := by
  unfold Block.ofRuns
  split <;> simp_all [decorated]

theorem filter_isAnnotated_regionRuns (opened closing : Bool) :
    (regionRuns lines opened closing q e ys).filter Run.isAnnotated =
        ys.map (Segment.run lines) := by
  induction ys generalizing q opened with
  | nil => simp [regionRuns]
  | cons x ys ih =>
    have here : (x.run lines).isAnnotated = true := rfl
    rw [regionRuns, List.filter_append, Run.filter_isAnnotated_ofText, List.nil_append,
      List.filter_cons_of_pos here, ih, List.map_cons]

/-- The runs that are decorated are the segments apart from all comments. -/
theorem Ordered.decorated_layout (h : Ordered lines xs cs) (hne : lines ≠ []) :
    decorated (layout lines xs cs) =
      (xs.filter fun x => ∀ c ∈ cs, x.span.Apart c.span).map (Segment.run lines) := by
  rw [← h.flatMap_inside hne, layout, layoutFrom_eq_regionsFrom, decorated, List.flatMap_assoc,
    List.map_flatMap]
  congr 1
  funext r
  have prose_none : decorated r.prose = [] := by
    unfold Region.prose
    cases r.next <;> rfl
  change decorated (_ ++ _) = _
  rw [decorated_append, decorated_ofRuns, prose_none, List.append_nil, Region.runs,
    filter_isAnnotated_regionRuns]

theorem proseOf_append (as bs : List Block) : proseOf (as ++ bs) = proseOf as ++ proseOf bs :=
  List.filterMap_append

theorem proseOf_ofRuns (rs : List Run) : proseOf (Block.ofRuns rs) = [] := by
  unfold Block.ofRuns
  split <;> rfl

theorem proseOf_layoutFrom (lines : Buffer) (rs : List Run) (p : Position) (xs : List Segment)
    (cs : List Comment) : proseOf (layoutFrom lines rs p xs cs) = cs.map Comment.content := by
  induction cs generalizing rs p with
  | nil => exact proseOf_ofRuns _
  | cons c cs ih =>
    rw [layoutFrom, proseOf_append, proseOf_ofRuns, List.nil_append, List.map_cons,
      ← ih [] c.span.stop]
    rfl

theorem Ordered.plain_layout (h : Ordered lines xs cs) :
    (layout lines xs cs).map Block.plain = (regions lines cs).flatMap (Region.blocks lines xs) := by
  rw [layout, layoutFrom_eq_regionsFrom, List.map_flatMap]
  congr 1
  funext r
  have prose_same : r.prose.map Block.plain = r.prose := by
    unfold Region.prose
    cases r.next <;> rfl
  rw [List.map_append, h.plain_runs, prose_same, Region.blocks]

end

/-- sorted and disjoint, so one behind the other -/
theorem pairwise_stop_le {α : Type} {f : α → Span} {as : List α} (hv : ∀ a ∈ as, (f a).Valid)
    (hs : as.Pairwise fun a b => (f a).before (f b) = true)
    (hd : as.Pairwise fun a b => (f a).Apart (f b)) :
    as.Pairwise fun a b => (f a).stop ≤ (f b).start := by
  refine (hs.and hd).imp_of_mem ?_
  rintro a b - hb ⟨hab, hle | hle⟩
  · exact hle
  · -- only equal spans without text are disjoint this way round
    have hbv : (f b).start ≤ (f b).stop := hv b hb
    rcases Span.before_iff.mp hab with hlt | ⟨heq, hstop⟩
    · exact absurd (hlt.trans_le (hbv.trans hle)) (lt_irrefl _)
    · exact hstop.trans (hle.trans heq.le)

/-- Spans with text, in order and disjoint, follow one another. -/
theorem pairwise_stop_le_of_lt {α : Type} {f : α → Span} {as : List α}
    (hlt : ∀ a ∈ as, (f a).start < (f a).stop)
    (hs : as.Pairwise fun a b => (f a).start ≤ (f b).start)
    (hd : as.Pairwise fun a b => (f a).Apart (f b)) :
    as.Pairwise fun a b => (f a).stop ≤ (f b).start := by
  refine (hs.and hd).imp_of_mem ?_
  rintro a b - hb ⟨hab, hle | hle⟩
  · exact hle
  · exact absurd ((hlt b hb).trans_le (hle.trans hab)) (lt_irrefl _)

theorem Span.not_contains_iff {s t : Span} (hlt : t.start < t.stop) (h : t.Apart s ∨ s.Contains t) :
    ¬ s.Contains t ↔ t.Apart s := by
  refine ⟨h.resolve_right, ?_⟩
  rintro (hap | hap) ⟨h₁, h₂⟩
  · exact absurd (hlt.trans_le (hap.trans h₁)) (lt_irrefl _)
  · exact absurd (hlt.trans_le (h₂.trans hap)) (lt_irrefl _)

/-- Segments with text and comments, both in order and disjoint, each segment apart from a comment
or in it: no warning is given, all comments are prose, the segments that are in none are the
decorated runs, and each region is one listing of its text. -/
theorem assemble_exact {lines : Buffer} (source : String) {xs : List Segment} {cs : List Comment}
    (hlines : Buffer.ofText source = lines)
    (hx : ∀ x ∈ xs, lines.Within x.span ∧ x.span.start < x.span.stop)
    (hxs : xs.Pairwise fun a b => a.span.start ≤ b.span.start)
    (hxd : xs.Pairwise fun a b => a.span.Apart b.span)
    (hc : ∀ c ∈ cs, lines.Within c.span)
    (hcs : cs.Pairwise fun a b => a.span.before b.span = true)
    (hcd : cs.Pairwise fun a b => a.span.Apart b.span)
    (hxc : ∀ x ∈ xs, ∀ c ∈ cs, x.span.Apart c.span ∨ c.span.Contains x.span) :
    (assemble lines xs cs).2 = [] ∧
    proseOf (assemble lines xs cs).1 = cs.map Comment.content ∧
    decorated (assemble lines xs cs).1 =
      (xs.filter fun x => ∀ c ∈ cs, ¬ c.span.Contains x.span).map (Segment.run lines) ∧
    (assemble lines xs cs).1.map Block.plain =
        (regions lines cs).flatMap (Region.blocks lines xs) := by
  have hne : lines ≠ [] := hlines ▸ Buffer.ofText_ne_nil source
  have hxo : xs.Pairwise fun a b => a.span.stop ≤ b.span.start := by
    refine (hxs.and hxd).imp_of_mem ?_
    rintro a b ha hb ⟨hab, hle | hle⟩
    · exact hle
    · exact absurd ((hx b hb).2.trans_le (hle.trans hab)) (lt_irrefl _)
  have ordered : Ordered lines xs cs :=
    ⟨hx, hxo, hc, pairwise_stop_le (fun c hm => (hc c hm).valid) hcs hcd⟩
  have compatible : Compatible xs cs := by
    intro x hm
    by_cases hap : ∀ c ∈ cs, x.span.Apart c.span
    · exact .inl hap
    · push Not at hap
      obtain ⟨c, hcm, hap⟩ := hap
      obtain ⟨h₁, h₂⟩ := (hxc x hm c hcm).resolve_left hap
      exact .inr fun q hq => ⟨c, hcm, h₁.trans hq.1, hq.2.trans_le h₂⟩
  have same : (xs.filter fun x => ∀ c ∈ cs, ¬ c.span.Contains x.span) =
      xs.filter fun x => ∀ c ∈ cs, x.span.Apart c.span := by
    apply List.filter_congr
    intro x hm
    rw [decide_eq_decide]
    exact forall₂_congr fun c hcm => Span.not_contains_iff (hx x hm).2 (hxc x hm c hcm)
  rw [assemble_eq_layout hne ordered compatible, same]
  exact ⟨rfl, proseOf_layoutFrom _ _ _ _ _, ordered.decorated_layout hne, ordered.plain_layout⟩

/-- A segment in the first comment, one behind it, and a comment without text before the end. -/
theorem assemble_exact_nested :
    proseOf (assemble [['#', 'a'], ['b', ' ', 'c', ' ']]
      [⟨⟨⟨0, 1⟩, ⟨0, 2⟩⟩, {}⟩, ⟨⟨⟨1, 0⟩, ⟨1, 1⟩⟩, {}⟩]
      [⟨⟨⟨0, 0⟩, ⟨0, 2⟩⟩, "a"⟩, ⟨⟨⟨1, 3⟩, ⟨1, 3⟩⟩, ""⟩]).1 = ["a", ""] :=
  (assemble_exact "#a\nb c " (by decide) (by decide) (by decide) (by decide) (by decide)
    (by decide) (by decide) (by decide)).2.1

/-- Comments in the order of their starts only: behind a comment that starts at the same place, one
without text comes too late. -/
theorem prose_lost_behind_same_start :
    ∃ cs : List Comment, (∀ c ∈ cs, Buffer.Within [[' ', ' ', ' ']] c.span) ∧
      cs.Pairwise (fun a b => a.span.start ≤ b.span.start) ∧
      cs.Pairwise (fun a b => a.span.Apart b.span) ∧
      proseOf (assemble [[' ', ' ', ' ']] [] cs).1 ≠ cs.map Comment.content ∧
      (assemble [[' ', ' ', ' ']] [] cs).2 ≠ [] :=
  ⟨[⟨⟨⟨0, 0⟩, ⟨0, 2⟩⟩, "a"⟩, ⟨⟨⟨0, 0⟩, ⟨0, 0⟩⟩, "b"⟩], by decide, by decide, by decide, by decide,
    by decide⟩

end Literate
