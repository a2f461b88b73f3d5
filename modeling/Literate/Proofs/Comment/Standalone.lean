import Literate.Proofs.Comment.Order
import Literate.Proofs.Tree.Lineage

/-! Which nodes of a tree become comments, and with which text. They are the outermost comments with
nothing but ASCII blanks in front of them on their line, and their text is what the source has at their
span: the text of the node without the line breaks at its end. -/

namespace Literate

namespace Text

/-- What is dropped is all of the class, and is all of it that stands at the end. -/
theorem dropTail_spec (p : Char → Bool) (s : List Char) :
    (∃ k, s = dropTail p s ++ k ∧ ∀ c ∈ k, p c = true) ∧
      ∀ c ∈ (dropTail p s).getLast?, p c = false := by
  constructor
  · refine ⟨(s.reverse.takeWhile p).reverse, ?_, ?_⟩
    · have parts := congrArg List.reverse (List.takeWhile_append_dropWhile (p := p) (l := s.reverse))
      rw [List.reverse_append, List.reverse_reverse] at parts
      exact parts.symm
    · intro c hc
      exact List.mem_takeWhile_imp (List.mem_reverse.mp hc)
  · intro c hc
    rw [dropTail, List.getLast?_reverse] at hc
    have first := List.head?_dropWhile_not p s.reverse
    rw [Option.mem_def.mp hc] at first
    exact first

end Text

namespace Buffer

/-- what stands in front of a position on its line -/
def before (lines : Buffer) (q : Position) : List Char :=
  (lines.getD q.line.toNat []).take q.column.toNat

variable {lines : Buffer} {q : Position}

/-- The text in front of a position ends in what stands in front of it on its line. -/
theorem Holds.take_offset (h : lines.Holds q) :
    ∃ pre : Buffer, lines.whole.take (lines.offset q) = Text.closedLines pre ++ lines.before q := by
  obtain ⟨pre, line, post, j, rfl, rfl, hj⟩ := h.split
  obtain ⟨r, hr⟩ := whole_append_cons pre line post
  have here : Buffer.before (pre ++ line :: post) ⟨pre.length, j⟩ = line.take j := by
    simp [before]
  refine ⟨pre, ?_⟩
  rw [here, offset_append_cons, hr, List.append_assoc, List.take_length_add_append,
    List.take_append_of_le_length hj]

theorem Holds.not_mem_before (h : lines.Holds q) (hflat : lines.Flat) : '\n' ∉ lines.before q := by
  intro hmem
  have hlt : q.line.toNat < lines.length := by
    have h₁ := h.line_nonneg
    have h₂ := h.line_lt
    omega
  rw [before, List.getD_eq_getElem _ _ hlt] at hmem
  exact hflat _ (List.getElem_mem hlt) (List.mem_of_mem_take hmem)

end Buffer

theorem Utf8.encode_closedLines (ls : List (List Char)) :
    encode (Text.closedLines ls) = [] ∨ (encode (Text.closedLines ls)).getLast? = some 10 := by
  induction ls using List.reverseRecOn with
  | nil => exact .inl rfl
  | append_singleton ls l =>
    have feed : encode ['\n'] = [10] := rfl
    refine .inr ?_
    rw [Text.closedLines_append, Text.closedLines_cons, Text.closedLines_nil, ← List.append_assoc,
      encode_append, feed, List.getLast?_concat]

namespace Parsed

variable {source : String} {p : Parsed} {t : Tree}

/-- The text of a node is what it covers. -/
theorem Reads.text_eq_between (h : p.Reads source) {i j : Nat} (hc : t.info.Covers source.toList i j) :
    p.text t = Text.between source.toList i j := by
  obtain ⟨hin, hi, hj⟩ := h.span hc
  rw [h.text ⟨i, j, hc⟩, Buffer.slice_eq_between hin.start hin.stop hin.valid, h.whole, hi, hj]

/-- Whether a node starts its line can be seen in its line. -/
theorem Reads.startsLine (h : p.Reads source) (ht : t.Sited source.toList) :
    startsLine p.bytes t.info.bytes.first =
      (p.lines.before (p.span t).start).all Text.isAsciiBlank := by
  obtain ⟨i, j, hc⟩ := ht
  obtain ⟨hin, hstart, -⟩ := h.span hc
  have flat : p.lines.Flat := h.lines ▸ Buffer.flat_ofText source
  obtain ⟨pre, hwhole⟩ := hin.start.take_offset
  rw [hstart, h.whole] at hwhole
  have bytes_eq : p.bytes.take t.info.bytes.first =
      Utf8.encode (Text.closedLines pre) ++ Utf8.encode (p.lines.before (p.span t).start) := by
    rw [h.bytes, hc.first, encode_take, hwhole, Utf8.encode_append]
  have one_line := Utf8.not_mem_encode (hin.start.not_mem_before flat)
  rw [Literate.startsLine]
  simp only [Int.toNat_natCast, if_neg (Int.not_lt.mpr (Int.natCast_nonneg _))]
  rw [bytes_eq, Utf8.lastLine_append (Utf8.encode_closedLines pre) one_line,
    Utf8.all_isBlank_encode]

/-- the comments with no comment above them and nothing but blanks in front of them on their line, in
the order of the tree -/
def standalone (p : Parsed) : List Tree :=
  ((p.root.lineage []).filter fun n => n.2.isComment && !n.1.any Tree.isComment &&
    (p.lines.before (p.span n.2).start).all Text.isAsciiBlank).map Prod.snd

theorem sited_of_outermost (hw : p.root.WellFormed source.toList) :
    ∀ t ∈ Tree.outermost [] [p.root], t.Sited source.toList := by
  intro t ht
  rw [← Tree.filter_visit] at ht
  exact (hw.queue.visit t (List.mem_filter.mp ht).1).1.sited

/-- The walk over the tree finds these nodes. -/
theorem Reads.standalone (h : p.Reads source) (hw : p.root.WellFormed source.toList) :
    p.standalone = (p.root.nodes Tree.commentKinds).filter fun t =>
      t.isComment && Literate.startsLine p.bytes t.info.bytes.first := by
  have found : p.standalone = (Tree.outermost [] [p.root]).filter fun t =>
      (p.lines.before (p.span t).start).all Text.isAsciiBlank := by
    rw [Tree.outermost, Tree.lineages, Tree.lineages, List.append_nil, List.filter_map,
      List.filter_filter, Parsed.standalone]
    congr 2
    funext n
    rw [Tree.isOutermost, Function.comp, Bool.and_comm]
  have visited : (p.root.nodes Tree.commentKinds).filter (fun t =>
        t.isComment && Literate.startsLine p.bytes t.info.bytes.first) =
      (Tree.outermost [] [p.root]).filter fun t =>
        Literate.startsLine p.bytes t.info.bytes.first := by
    rw [← Tree.filter_visit, List.filter_filter, Tree.nodes]
    congr 1
    funext t
    rw [Bool.and_comm]
  rw [found, visited]
  apply List.filter_congr
  intro t ht
  exact (h.startsLine (sited_of_outermost hw t ht)).symm

end Parsed

namespace RawComment

variable {source : String} {p : Parsed} {t : Tree}

def isBreak (c : Char) : Bool := c == '\r' || c == '\n'

theorem text_ofNode (p : Parsed) (t : Tree) : (ofNode p t).text = Text.dropTail isBreak (p.text t) := by
  unfold ofNode
  simp only
  split
  · next h => exact h.symm
  · rfl

/-- A comment as its node has it in the source: from the start of the node, without line breaks at its
end, and found at its span. -/
structure Written (p : Parsed) (source : String) (t : Tree) (c : RawComment) : Prop where
  start : c.span.start = (p.span t).start
  extract : p.lines.extract c.span = String.ofList c.text
  bare : ∃ i j breaks, t.info.Covers source.toList i j ∧
    Text.between source.toList i j = c.text ++ breaks ∧ ∀ b ∈ breaks, b = '\r' ∨ b = '\n'
  last : ∀ b ∈ c.text.getLast?, b ≠ '\r' ∧ b ≠ '\n'

theorem written_ofNode (h : p.Reads source) (ht : t.Sited source.toList) :
    Written p source t (ofNode p t) := by
  obtain ⟨hstart, -, -, hslice⟩ := ofNode_spec h ht
  obtain ⟨⟨breaks, htext, hbreaks⟩, hlast⟩ := Text.dropTail_spec isBreak (p.text t)
  refine ⟨hstart, ?_, ?_, ?_⟩
  · rw [Buffer.extract, hslice]
  · obtain ⟨i, j, hc⟩ := ht
    refine ⟨i, j, breaks, hc, ?_, ?_⟩
    · rw [text_ofNode, ← htext, h.text_eq_between hc]
    · intro b hb
      simpa [isBreak] using hbreaks b hb
  · intro b hb
    rw [text_ofNode] at hb
    simpa [isBreak] using hlast b hb

theorem ofTree_eq (h : p.Reads source) (hw : p.root.WellFormed source.toList) :
    ofTree p = p.standalone.map (ofNode p) := by
  rw [h.standalone hw]
  rfl

theorem sited_of_standalone (h : p.Reads source) (hw : p.root.WellFormed source.toList) :
    ∀ t ∈ p.standalone, t.Sited source.toList := by
  intro t ht
  rw [h.standalone hw] at ht
  exact (hw.queue.visit t (List.mem_filter.mp ht).1).1.sited

/-- The comments of a tree are made of its outermost comments behind blanks, in the order of the source,
and each has the text of its span. -/
theorem ofTree_standalone {grammars : Grammars} {language : String}
    (hp : Parsed.ofSource grammars language source = .ok p)
    (hw : p.root.WellFormed source.toList) :
    ofTree p = p.standalone.map (ofNode p) ∧
      p.standalone.Pairwise (fun t u => t.info.bytes.stop ≤ u.info.bytes.first) ∧
      ∀ t ∈ p.standalone, Written p source t (ofNode p t) := by
  have h := Parsed.reads_of_ofSource hp
  refine ⟨ofTree_eq h hw, ?_, ?_⟩
  · have outermost : p.standalone.Sublist
        ((p.root.nodes Tree.commentKinds).filter Tree.isComment) := by
      rw [h.standalone hw]
      apply List.monotone_filter_right
      intro t ht
      exact (Bool.and_eq_true_iff.mp ht).1
    exact hw.queue.comments_ordered.sublist outermost
  · intro t ht
    exact written_ofNode h (sited_of_standalone h hw t ht)

end RawComment

/-- the node over the characters from `i` up to `j` -/
def Tree.spanning (s : List Char) (kind : String) (i j : Nat) (cs : List Tree) : Tree :=
  .node ⟨kind, true, ⟨Buffer.byteLength (s.take i), Buffer.byteLength (s.take j)⟩,
    Point.after ⟨0, 0⟩ (s.take i), Point.after ⟨0, 0⟩ (s.take j), none⟩ cs

theorem Tree.covers_spanning {s : List Char} {kind : String} {i j : Nat} {cs : List Tree} (h : i ≤ j)
    (h' : j ≤ s.length) : (spanning s kind i j cs).info.Covers s i j :=
  ⟨h, h', rfl, rfl, rfl, rfl⟩

/-! A page of a program: a comment behind code, a comment around another one and with code behind it,
one with its line break, and one after an empty line. -/

namespace Page

def source : String := "é; // t\n\t/* ü\n /* i */ */ x;\n// b\r\n\n// c"

def trailing : Tree := .spanning source.toList "line_comment" 3 7 []

def inner : Tree := .spanning source.toList "block_comment" 15 22 []

def outer : Tree := .spanning source.toList "block_comment" 9 25 [inner]

def name : Tree := .spanning source.toList "identifier" 26 27 []

def closed : Tree := .spanning source.toList "line_comment" 29 35 []

def last : Tree := .spanning source.toList "line_comment" 36 40 []

def root : Tree :=
  .spanning source.toList "source_file" 0 40 [trailing, outer, name, closed, last]

def grammars : Grammars := { trees := [("rust", root)] }

def parsed : Parsed := ⟨Utf8.encode source.toList, Buffer.ofText source, root⟩

theorem ofSource_eq : Parsed.ofSource grammars "rust" source = .ok parsed := rfl

theorem wellFormed : root.WellFormed source.toList := by
  have leaf (kind : String) {i j : Nat} (h : i ≤ j) (h' : j ≤ source.toList.length) :
      (Tree.spanning source.toList kind i j []).WellFormed source.toList :=
    .leaf ⟨i, j, Tree.covers_spanning h h'⟩
  have around : outer.Sited source.toList :=
    ⟨9, 25, Tree.covers_spanning (by decide) (by decide)⟩
  have block : outer.WellFormed source.toList := by
    refine .node around (by decide) (by decide) ?_
    intro c hc
    rw [List.mem_singleton.mp hc]
    exact leaf _ (by decide) (by decide)
  have whole : root.Sited source.toList :=
    ⟨0, 40, Tree.covers_spanning (by decide) (by decide)⟩
  refine .node whole (by decide) (by decide) ?_
  simp only [List.forall_mem_cons, List.not_mem_nil, false_implies, implies_true, and_true]
  exact ⟨leaf _ (by decide) (by decide), block, leaf _ (by decide) (by decide),
    leaf _ (by decide) (by decide), leaf _ (by decide) (by decide)⟩

theorem standalone_eq : parsed.standalone = [outer, closed, last] := rfl

theorem ofTree_eq : RawComment.ofTree parsed =
    [⟨⟨⟨1, 1⟩, ⟨2, 11⟩⟩, "/* ü\n /* i */ */".toList⟩, ⟨⟨⟨3, 0⟩, ⟨3, 4⟩⟩, "// b".toList⟩,
      ⟨⟨⟨5, 0⟩, ⟨5, 4⟩⟩, "// c".toList⟩] := by
  have h := Parsed.reads_of_ofSource ofSource_eq
  have text (kind : String) {i j : Nat} (cs : List Tree) (hij : i ≤ j)
      (hj : j ≤ source.toList.length) :
      parsed.text (.spanning source.toList kind i j cs) = Text.between source.toList i j :=
    h.text_eq_between (Tree.covers_spanning hij hj)
  rw [RawComment.ofTree_eq h wellFormed, standalone_eq, List.map_cons, List.map_cons, List.map_cons,
    List.map_nil, RawComment.ofNode, RawComment.ofNode, RawComment.ofNode, outer, closed, last,
    text _ _ (by decide) (by decide), text _ _ (by decide) (by decide),
    text _ _ (by decide) (by decide)]
  rfl

end Page

open Page in
/-- The comment behind code and the one inside another are no comments of their own, and a line break
at the end goes. -/
theorem RawComment.ofTree_standalone_page :
    root.WellFormed source.toList ∧ parsed.standalone = [outer, closed, last] ∧
    ofTree parsed = [⟨⟨⟨1, 1⟩, ⟨2, 11⟩⟩, "/* ü\n /* i */ */".toList⟩,
      ⟨⟨⟨3, 0⟩, ⟨3, 4⟩⟩, "// b".toList⟩, ⟨⟨⟨5, 0⟩, ⟨5, 4⟩⟩, "// c".toList⟩] ∧
    Written parsed source closed ⟨⟨⟨3, 0⟩, ⟨3, 4⟩⟩, "// b".toList⟩ := by
  obtain ⟨found, -, written⟩ := ofTree_standalone ofSource_eq wellFormed
  have closed_eq : ofNode parsed closed = ⟨⟨⟨3, 0⟩, ⟨3, 4⟩⟩, "// b".toList⟩ := by
    rw [Page.ofTree_eq, standalone_eq] at found
    exact (List.cons.inj (List.cons.inj found).2).1.symm
  exact ⟨wellFormed, standalone_eq, Page.ofTree_eq, closed_eq ▸ written closed (by simp [standalone_eq])⟩

end Literate
