import Literate.Proofs.Buffer.Outside
import Literate.Proofs.Comment.Run

/-! What stands between the nodes that form one comment, and goes with them. In front of each of them
there are blanks, but behind one there may be code or another comment, when it stops in the middle of a
line. That is lost from the listings, and nothing else is. -/

namespace Literate

namespace Text

theorem full_eq_nil_iff {s : List Char} : full s = [] ↔ blank s = true := by
  simp [full, blank, List.filter_eq_nil_iff, List.all_eq_true]

theorem blank_append (s t : List Char) : blank (s ++ t) = (blank s && blank t) := List.all_append

theorem isBlank_of_isAsciiBlank {c : Char} (h : isAsciiBlank c = true) : isBlank c = true := by
  rw [Utf8.isAsciiBlank_iff] at h
  simp only [isBlank, Bool.or_eq_true, Bool.and_eq_true, decide_eq_true_eq]
  omega

end Text

namespace Buffer

/-- what stands behind a position on its line -/
def behind (lines : Buffer) (q : Position) : List Char :=
  (lines.getD q.line.toNat []).drop q.column.toNat

/-- the text of a span without what other spans cover of it -/
def remainder (lines : Buffer) (s : Span) (spans : List Span) : List Char :=
  Text.kept (lines.clear spans) (lines.offset s.start) (lines.slice s)

variable {lines : Buffer} {p q : Position}

/-- From a line to the next one. -/
theorem slice_next_line (hp : lines.Holds p) (hq : lines.Holds q) (h : q.line = p.line + 1) :
    lines.slice ⟨p, q⟩ = lines.behind p ++ '\n' :: lines.before q := by
  have hle : p ≤ q := .inl (by omega)
  rcases hp.split_le hq hle with ⟨pre, line, post, j, k, rfl, rfl, rfl, -, -⟩ |
    ⟨pre, line, mid, line', post, j, k, rfl, rfl, rfl, -, -⟩
  · simp only at h
    omega
  · -- no line lies between the two
    obtain rfl : mid = [] := by
      rw [List.eq_nil_iff_length_eq_zero]
      simp only [List.length_append, List.length_cons] at h
      omega
    have here : Buffer.behind (pre ++ line :: ([] ++ line' :: post)) ⟨pre.length, j⟩ = line.drop j := by
      simp [behind]
    have next : Buffer.before (pre ++ line :: ([] ++ line' :: post))
        ⟨(pre ++ [line]).length, k⟩ = line'.take k := by
      simp [before]
    rw [slice_apart, here, next]
    rfl

/-- Spans that stop before a position are of no account behind it. -/
theorem outsideFrom_of_stop_le {spans : List Span} (hq : lines.Holds q)
    (h : ∀ s ∈ spans, lines.Holds s.stop ∧ s.stop ≤ q) :
    lines.outsideFrom q spans = lines.outsideFrom q [] := by
  apply Text.kept_congr
  intro k hk _
  simp only [clear, List.all_nil, List.all_eq_true]
  intro s hs
  obtain ⟨hstop, hle⟩ := h s hs
  have passed := ((offset_le_iff hstop hq).mpr hle).trans hk
  simp [passed.not_gt]

end Buffer

theorem Spaced.sublist {α : Type} {lines : Buffer} {f : α → Span} {as bs : List α}
    (h : Spaced lines f bs) (hs : as.Sublist bs) : Spaced lines f as :=
  ⟨fun a ha => h.within a (hs.subset ha), h.ordered.sublist hs⟩

/-- No span stops behind the last one. -/
theorem Spaced.stop_le_last {α : Type} {lines : Buffer} {f : α → Span} {as : List α} {b : α}
    (h : Spaced lines f as) (hb : b ∈ as.getLast?) : ∀ a ∈ as, (f a).stop ≤ (f b).stop := by
  obtain ⟨cs, rfl⟩ := List.getLast?_eq_some_iff.mp hb
  have last := h.within b (by simp)
  intro a ha
  rcases List.mem_append.mp ha with ha | ha
  · exact ((List.pairwise_append.mp h.ordered).2.2 a ha b (by simp)).trans last.valid
  · rw [List.mem_singleton.mp ha]

namespace RawComment

/-- the texts between one and the next -/
def gaps (lines : Buffer) : List RawComment → List Char
  | [] => []
  | [_] => []
  | a :: b :: r => lines.slice ⟨a.span.stop, b.span.start⟩ ++ gaps lines (b :: r)

variable {lines : Buffer} {p : Position} {a b : RawComment} {r rest : List RawComment}

/-- Outside of a run is what stands in front of it, its gaps, and what stands behind it. -/
theorem outsideFrom_run (hp : lines.Holds p) (hle : p ≤ a.span.start)
    (h : Spaced lines span (a :: r ++ rest)) (hb : b ∈ (a :: r).getLast?) :
    lines.outsideFrom p ((a :: r ++ rest).map span) =
      lines.slice ⟨p, a.span.start⟩ ++ gaps lines (a :: r) ++
        lines.outsideFrom b.span.stop (rest.map span) := by
  induction r generalizing a p with
  | nil =>
    obtain rfl : a = b := Option.some.inj hb
    have hin := h.within a (by simp)
    have behind := (List.pairwise_cons.mp h.ordered).1
    rw [List.cons_append, List.nil_append, List.map_cons, gaps, List.append_nil,
      Buffer.outsideFrom_cons hp hin.start hin.stop hle hin.valid]
    intro s hs
    obtain ⟨c, hc, rfl⟩ := List.mem_map.mp hs
    exact ⟨(h.within c (by simp [hc])).start, behind c hc⟩
  | cons c r ih =>
    have hin := h.within a (by simp)
    have behind := (List.pairwise_cons.mp h.ordered).1
    have tail := ih (p := a.span.stop) hin.stop (behind c (by simp)) h.of_cons
      (List.getLast?_cons_cons ▸ hb)
    rw [List.cons_append, List.map_cons, Buffer.outsideFrom_cons hp hin.start hin.stop hle hin.valid,
      tail, gaps]
    · simp only [List.append_assoc]
    · intro s hs
      obtain ⟨d, hd, rfl⟩ := List.mem_map.mp hs
      exact ⟨(h.within d (List.mem_cons_of_mem a hd)).start, behind d hd⟩

/-- The span of a run without its nodes leaves the gaps. -/
theorem remainder_run (h : Spaced lines span (a :: r)) (hb : b ∈ (a :: r).getLast?) :
    lines.remainder ⟨a.span.start, b.span.stop⟩ ((a :: r).map span) = gaps lines (a :: r) := by
  have first := h.within a (by simp)
  have last := h.within b (List.mem_of_mem_getLast? hb)
  have hle : a.span.start ≤ b.span.stop :=
    first.valid.trans (h.stop_le_last hb a (by simp))
  have parts := Buffer.outsideFrom_split first.start last.stop hle ((a :: r).map span)
  have alone : Spaced lines span (a :: r ++ []) := by rwa [List.append_nil]
  have whole := outsideFrom_run first.start le_rfl alone hb
  have none_behind : lines.outsideFrom b.span.stop ((a :: r).map span) =
      lines.outsideFrom b.span.stop [] := by
    refine Buffer.outsideFrom_of_stop_le last.stop ?_
    intro s hs
    obtain ⟨c, hc, rfl⟩ := List.mem_map.mp hs
    exact ⟨(h.within c hc).stop, h.stop_le_last hb c hc⟩
  rw [List.append_nil, Buffer.slice_self first.start, List.nil_append, parts, none_behind] at whole
  exact List.append_cancel_right whole

theorem Joins.remainder_eq {language : String} {c : Comment} {r : List RawComment}
    (h : Joins language r c) (hr : Spaced lines RawComment.span r) :
    lines.remainder c.span (r.map RawComment.span) = gaps lines r := by
  obtain ⟨⟨a, ha, b, hb, hspan⟩, -⟩ := h
  obtain ⟨r, rfl⟩ := List.head?_eq_some_iff.mp ha
  rw [hspan]
  exact remainder_run hr hb

/-- a comment of the buffer with blanks in front of it on its line -/
structure Alone (lines : Buffer) (c : RawComment) : Prop where
  within : lines.Within c.span
  blank : Text.blank (lines.before c.span.start) = true

/-- The gaps of a run are blank if nothing but blanks stands behind all but the last. -/
theorem blank_gaps_iff (hr : r.IsChain Meets) (h : ∀ c ∈ r, Alone lines c) :
    Text.blank (gaps lines r) = true ↔
      ∀ c ∈ r.dropLast, Text.blank (lines.behind c.span.stop) = true := by
  induction r with
  | nil => simp [gaps, Text.blank]
  | cons a r ih =>
    cases r with
    | nil => simp [gaps, Text.blank]
    | cons b r =>
      obtain ⟨hab, hr⟩ := List.isChain_cons_cons.mp hr
      obtain ⟨ha, hrest⟩ := List.forall_mem_cons.mp h
      have hb := hrest b (by simp)
      have feed : Text.isBlank '\n' = true := by decide
      have gap : Text.blank (lines.slice ⟨a.span.stop, b.span.start⟩) =
          Text.blank (lines.behind a.span.stop) := by
        rw [Buffer.slice_next_line ha.within.stop hb.within.start hab, Text.blank_append]
        have next : Text.blank ('\n' :: lines.before b.span.start) = true := by
          rw [Text.blank, List.all_cons, feed, Bool.true_and]
          exact hb.blank
        rw [next, Bool.and_true]
      rw [gaps, Text.blank_append, gap, Bool.and_eq_true, ih hr hrest, List.dropLast_cons_cons,
        List.forall_mem_cons]

/-- A comment starts with a node. -/
theorem exists_start {language : String} {runs : List (List RawComment)} {cs : List Comment}
    (h : List.Forall₂ (Joins language) runs cs) :
    ∀ c ∈ cs, ∃ n ∈ runs.flatten, c.span.start = n.span.start := by
  induction h with
  | nil => simp
  | @cons r c runs cs hrc _ ih =>
    intro d hd
    rcases List.mem_cons.mp hd with rfl | hd
    · obtain ⟨⟨a, ha, b, -, hspan⟩, -⟩ := hrc
      refine ⟨a, List.mem_append_left _ (List.mem_of_mem_head? ha), ?_⟩
      rw [hspan]
    · obtain ⟨n, hn, hstart⟩ := ih d hd
      exact ⟨n, List.mem_append_right _ hn, hstart⟩

/-- Comments take nothing from the listings but their nodes, if and only if their gaps are blank. -/
theorem full_outsideFrom_iff {language : String} {runs : List (List RawComment)} {cs : List Comment}
    (hp : lines.Holds p) (hle : ∀ n ∈ runs.flatten, p ≤ n.span.start)
    (h : Spaced lines span runs.flatten) (hjoins : List.Forall₂ (Joins language) runs cs) :
    (Text.full (lines.outsideFrom p (cs.map Comment.span))).Sublist
        (Text.full (lines.outsideFrom p (runs.flatten.map span))) ∧
      (Text.full (lines.outsideFrom p (cs.map Comment.span)) =
          Text.full (lines.outsideFrom p (runs.flatten.map span)) ↔
        ∀ r ∈ runs, Text.full (gaps lines r) = []) := by
  induction hjoins generalizing p with
  | nil => simp
  | @cons r c runs cs hrc hjoins ih =>
    obtain ⟨⟨a, ha, b, hb, hspan⟩, -⟩ := hrc
    obtain ⟨r, rfl⟩ := List.head?_eq_some_iff.mp ha
    rw [List.flatten_cons] at hle h ⊢
    have run := h.sublist (List.sublist_append_left (a :: r) runs.flatten)
    have rest := h.sublist (List.sublist_append_right (a :: r) runs.flatten)
    have first := run.within a (by simp)
    have last := run.within b (List.mem_of_mem_getLast? hb)
    have start_le := first.valid.trans (run.stop_le_last hb a (by simp))
    have behind : ∀ n ∈ runs.flatten, b.span.stop ≤ n.span.start :=
      (List.pairwise_append.mp h.ordered).2.2 b (List.mem_of_mem_getLast? hb)
    obtain ⟨sublist, same⟩ := ih last.stop behind rest
    have outside_nodes := outsideFrom_run hp (hle a (by simp)) h hb
    have outside_comments : lines.outsideFrom p ((c :: cs).map Comment.span) =
        lines.slice ⟨p, a.span.start⟩ ++ lines.outsideFrom b.span.stop (cs.map Comment.span) := by
      rw [List.map_cons, hspan]
      refine Buffer.outsideFrom_cons hp first.start last.stop (hle a (by simp)) start_le ?_
      intro s hs
      obtain ⟨d, hd, rfl⟩ := List.mem_map.mp hs
      obtain ⟨n, hn, hstart⟩ := exists_start hjoins d hd
      rw [hstart]
      exact ⟨(rest.within n hn).start, behind n hn⟩
    rw [outside_nodes, outside_comments]
    simp only [Text.full_append, List.append_assoc, List.forall_mem_cons]
    refine ⟨(List.Sublist.refl _).append (sublist.trans (List.sublist_append_right _ _)), ?_⟩
    rw [List.append_cancel_left_eq, ← same]
    constructor
    · intro heq
      -- the shorter one is no shorter, so there is nothing in the gaps
      have lengths := congrArg List.length heq
      have le := sublist.length_le
      rw [List.length_append] at lengths
      have none_between : Text.full (gaps lines (a :: r)) = [] :=
        List.length_eq_zero_iff.mp (by omega)
      rw [none_between, List.nil_append] at heq
      exact ⟨none_between, heq⟩
    · rintro ⟨none_between, heq⟩
      rw [none_between, List.nil_append]
      exact heq

end RawComment

section

variable {grammars : Grammars} {language source : String} {p : Parsed}

theorem alone_standalone (h : p.Reads source) (hw : p.root.WellFormed source.toList) :
    ∀ c ∈ p.standalone.map (RawComment.ofNode p), RawComment.Alone p.lines c := by
  intro c hc
  obtain ⟨t, ht, rfl⟩ := List.mem_map.mp hc
  have sited := RawComment.sited_of_standalone h hw t ht
  obtain ⟨hstart, hin, -, -⟩ := RawComment.ofNode_spec h sited
  refine ⟨hin, ?_⟩
  rw [hstart, Text.blank, List.all_eq_true]
  have ascii : (p.lines.before (p.span t).start).all Text.isAsciiBlank = true := by
    obtain ⟨n, hn, rfl⟩ := List.mem_map.mp ht
    exact (Bool.and_eq_true_iff.mp (List.mem_filter.mp hn).2).2
  intro b hb
  exact Text.isBlank_of_isAsciiBlank (List.all_eq_true.mp ascii b hb)

/-- The text of a comment is blank but for its nodes exactly when nothing but blanks stands behind each
of them, the last one apart; and the comments take nothing from the listings but their nodes exactly
when that is so in all of them. -/
theorem extractComments_bare_iff (hl : Language.isPython language = false)
    (hp : Parsed.ofSource grammars language source = .ok p)
    (hw : p.root.WellFormed source.toList) :
    ∃ cs runs, extractComments grammars language source = .ok (cs, []) ∧
      RawComment.Runs (p.standalone.map (RawComment.ofNode p)) runs ∧
      List.Forall₂ (fun r c => RawComment.Joins language r c ∧
        (Text.blank (p.lines.remainder c.span (r.map RawComment.span)) = true ↔
          ∀ n ∈ r.dropLast, Text.blank (p.lines.behind n.span.stop) = true)) runs cs ∧
      (Text.full (p.lines.outside (cs.map Comment.span)) =
          Text.full (p.lines.outside (p.standalone.map fun t => (RawComment.ofNode p t).span)) ↔
        ∀ r ∈ runs, ∀ n ∈ r.dropLast, Text.blank (p.lines.behind n.span.stop) = true) := by
  have h := Parsed.reads_of_ofSource hp
  have hne : p.lines ≠ [] := h.lines ▸ Buffer.ofText_ne_nil source
  obtain ⟨runs, hruns, hjoins⟩ := RawComment.runs_group language (RawComment.ofTree p)
  have spaced := RawComment.spaced_ofTree h hw
  rw [RawComment.ofTree_eq h hw] at hruns spaced
  have bare : ∀ r ∈ runs, Text.blank (RawComment.gaps p.lines r) = true ↔
      ∀ n ∈ r.dropLast, Text.blank (p.lines.behind n.span.stop) = true := by
    intro r hr
    apply RawComment.blank_gaps_iff (hruns.meets r hr)
    intro c hc
    exact alone_standalone h hw c ((hruns.sublist hr).subset hc)
  refine ⟨_, runs, extractComments_eq hl hp, hruns, ?_, ?_⟩
  · refine ((List.forall₂_and_left runs _).mpr ⟨fun r hr => hr, hjoins⟩).imp ?_
    rintro r c ⟨hr, hjoin⟩
    refine ⟨hjoin, ?_⟩
    rw [hjoin.remainder_eq (spaced.sublist (hruns.sublist hr))]
    exact bare r hr
  · have starts : ∀ n ∈ runs.flatten, (⟨0, 0⟩ : Position) ≤ n.span.start := by
      intro n hn
      rw [hruns.flatten] at hn
      exact (spaced.within n hn).start.zero_le
    obtain ⟨-, same⟩ := RawComment.full_outsideFrom_iff (Buffer.holds_zero hne) starts
      (hruns.flatten.symm ▸ spaced) hjoins
    rw [hruns.flatten, List.map_map, ← Buffer.outside_eq_outsideFrom,
      ← Buffer.outside_eq_outsideFrom] at same
    refine same.trans ?_
    constructor
    · intro none_between r hr
      exact (bare r hr).mp (Text.full_eq_nil_iff.mp (none_between r hr))
    · intro none_behind r hr
      exact Text.full_eq_nil_iff.mpr ((bare r hr).mpr (none_behind r hr))

end
open Page in
/-- On the page code stands behind the first node of the first comment. -/
theorem extractComments_bare_iff_page :
    Language.isPython "rust" = false ∧ root.WellFormed source.toList ∧
    parsed.lines.behind ⟨2, 11⟩ = " x;".toList ∧
    ∃ cs runs, extractComments grammars "rust" source = .ok (cs, []) ∧
      RawComment.Runs (parsed.standalone.map (RawComment.ofNode parsed)) runs ∧
      List.Forall₂ (fun r c => RawComment.Joins "rust" r c ∧
        (Text.blank (parsed.lines.remainder c.span (r.map RawComment.span)) = true ↔
          ∀ n ∈ r.dropLast, Text.blank (parsed.lines.behind n.span.stop) = true)) runs cs := by
  have python : Language.isPython "rust" = false := by decide
  obtain ⟨cs, runs, hcs, hruns, hbare, -⟩ := extractComments_bare_iff python ofSource_eq wellFormed
  exact ⟨python, wellFormed, by decide, cs, runs, hcs, hruns, hbare⟩

/-! A block comment with a statement behind it, and a line comment on the next line. -/

namespace Inline

def source : String := "/* a */ x;\n// b\n"

def block : Tree := .spanning source.toList "comment" 0 7 []

def name : Tree := .spanning source.toList "identifier" 8 9 []

def semicolon : Tree := .node ⟨";", false, ⟨9, 10⟩, ⟨0, 9⟩, ⟨0, 10⟩, none⟩ []

def statement : Tree := .spanning source.toList "expression_statement" 8 10 [name, semicolon]

def line : Tree := .spanning source.toList "comment" 11 15 []

def root : Tree := .spanning source.toList "translation_unit" 0 16 [block, statement, line]

def grammars : Grammars := { trees := [("c", root)] }

def parsed : Parsed := ⟨Utf8.encode source.toList, Buffer.ofText source, root⟩

theorem ofSource_eq : Parsed.ofSource grammars "c" source = .ok parsed := rfl

theorem wellFormed : root.WellFormed source.toList := by
  have sited_block : block.Sited source.toList :=
    ⟨0, 7, Tree.covers_spanning (by decide) (by decide)⟩
  have sited_name : name.Sited source.toList :=
    ⟨8, 9, Tree.covers_spanning (by decide) (by decide)⟩
  have sited_semicolon : semicolon.Sited source.toList := ⟨9, 10, by decide⟩
  have sited_statement : statement.Sited source.toList :=
    ⟨8, 10, Tree.covers_spanning (by decide) (by decide)⟩
  have sited_line : line.Sited source.toList :=
    ⟨11, 15, Tree.covers_spanning (by decide) (by decide)⟩
  have sited_root : root.Sited source.toList :=
    ⟨0, 16, Tree.covers_spanning (by decide) (by decide)⟩
  have inner : statement.WellFormed source.toList := by
    refine .node sited_statement (by decide) (by decide) ?_
    intro c hc
    rcases List.mem_pair.mp hc with rfl | rfl
    · exact .leaf sited_name
    · exact .leaf sited_semicolon
  refine .node sited_root (by decide) (by decide) ?_
  simp only [List.forall_mem_cons, List.not_mem_nil, false_implies, implies_true, and_true]
  exact ⟨.leaf sited_block, inner, .leaf sited_line⟩

theorem ofTree_eq : RawComment.ofTree parsed =
    [⟨⟨⟨0, 0⟩, ⟨0, 7⟩⟩, "/* a */".toList⟩, ⟨⟨⟨1, 0⟩, ⟨1, 4⟩⟩, "// b".toList⟩] := by
  have h := Parsed.reads_of_ofSource ofSource_eq
  have found : parsed.standalone = [block, line] := rfl
  have text_block : parsed.text block = Text.between source.toList 0 7 :=
    h.text_eq_between (Tree.covers_spanning (by decide) (by decide))
  have text_line : parsed.text line = Text.between source.toList 11 15 :=
    h.text_eq_between (Tree.covers_spanning (by decide) (by decide))
  rw [RawComment.ofTree_eq h wellFormed, found, List.map_cons, List.map_cons, List.map_nil,
    RawComment.ofNode, RawComment.ofNode, text_block, text_line]
  rfl

end Inline

open Inline in
/-- The two comments become one, and the statement between them is lost: the text of the comment
without its nodes is not blank. -/
theorem code_lost_between_comments :
    root.WellFormed source.toList ∧ Parsed.ofSource grammars "c" source = .ok parsed ∧
    extractComments grammars "c" source = .ok ([⟨⟨⟨0, 0⟩, ⟨1, 4⟩⟩, "a\nb"⟩], []) ∧
    RawComment.ofTree parsed =
      [⟨⟨⟨0, 0⟩, ⟨0, 7⟩⟩, "/* a */".toList⟩, ⟨⟨⟨1, 0⟩, ⟨1, 4⟩⟩, "// b".toList⟩] ∧
    parsed.lines.remainder ⟨⟨0, 0⟩, ⟨1, 4⟩⟩ [⟨⟨0, 0⟩, ⟨0, 7⟩⟩, ⟨⟨1, 0⟩, ⟨1, 4⟩⟩] = " x;\n".toList ∧
    Text.blank " x;\n".toList = false := by
  refine ⟨wellFormed, ofSource_eq, ?_, Inline.ofTree_eq, by decide, by decide⟩
  rw [extractComments_eq (by decide) ofSource_eq, Inline.ofTree_eq]
  decide

end Literate
