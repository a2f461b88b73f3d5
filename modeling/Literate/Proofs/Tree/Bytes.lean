import Literate.Proofs.Tree.Site

/-! Three ways to name a place of a source: by the bytes in front of it, by a row and the bytes on that
row, by a position of the buffer. The first two are what a parser tells of a node. They agree with the
third: a node that is cut between characters has the text of its span, and positions are in the order
of bytes. -/

namespace Literate

/-- the point of a byte offset: the line feeds in front of it, and the bytes behind the last of them -/
def Point.ofByte (bytes : List UInt8) (n : Nat) : Point :=
  ⟨(bytes.take n).count 10, (Utf8.lastLine (bytes.take n)).length⟩

/-- The bytes of the node run forward, from one place between characters to another, and its points are
those of the bytes. -/
structure NodeInfo.Exact (n : NodeInfo) (source : String) : Prop where
  le : n.bytes.first ≤ n.bytes.stop
  first : String.Pos.Raw.IsValid source ⟨n.bytes.first⟩
  stop : String.Pos.Raw.IsValid source ⟨n.bytes.stop⟩
  startPoint : n.start = Point.ofByte (Utf8.encode source.toList) n.bytes.first
  stopPoint : n.stop = Point.ofByte (Utf8.encode source.toList) n.bytes.stop

namespace Utf8

variable {source : String} {n : Nat}

theorem utf8ByteSize_ofList (s : List Char) :
    (String.ofList s).utf8ByteSize = Buffer.byteLength s := by
  rw [← String.size_toByteArray, String.toByteArray_ofList, List.utf8Encode, List.size_toByteArray]
  exact length_encode s

/-- Between characters the bytes in front are those of some characters. -/
theorem isValid_iff_take :
    String.Pos.Raw.IsValid source ⟨n⟩ ↔
      ∃ i ≤ source.toList.length, n = Buffer.byteLength (source.toList.take i) := by
  rw [String.Pos.Raw.isValid_iff_exists_take_toList]
  constructor
  · rintro ⟨i, hi⟩
    refine ⟨min i source.toList.length, min_le_right _ _, ?_⟩
    rw [← List.take_eq_take_min]
    exact hi.trans (utf8ByteSize_ofList _)
  · rintro ⟨i, -, rfl⟩
    exact ⟨i, (utf8ByteSize_ofList _).symm⟩

end Utf8

/-- Counting bytes and reading characters lead to the same point. -/
theorem Point.after_eq (s : List Char) :
    Point.after ⟨0, 0⟩ s = ⟨(Utf8.encode s).count 10, (Utf8.lastLine (Utf8.encode s)).length⟩ := by
  induction s using List.reverseRecOn with
  | nil => rfl
  | append_singleton s c ih =>
    rw [Point.after_append, ih, Utf8.encode_append]
    by_cases hc : c = '\n'
    · have feed : Utf8.encode [c] = [10] := by rw [hc]; rfl
      rw [feed, Utf8.lastLine_concat, List.count_append, hc]
      rfl
    · have other : 10 ∉ Utf8.encode [c] := by
        apply Utf8.not_mem_encode
        rw [List.mem_singleton]
        exact fun h => hc h.symm
      have one : Point.after ⟨(Utf8.encode s).count 10, (Utf8.lastLine (Utf8.encode s)).length⟩ [c] =
          ⟨(Utf8.encode s).count 10, (Utf8.lastLine (Utf8.encode s)).length + c.utf8Size⟩ :=
        if_neg hc
      rw [one, Utf8.lastLine_append_of_notMem _ other, List.count_append,
        List.count_eq_zero_of_not_mem other, List.length_append, Utf8.length_encode [c]]
      rfl

theorem Point.ofByte_take (s : List Char) (i : Nat) :
    Point.ofByte (Utf8.encode s) (Buffer.byteLength (s.take i)) = Point.after ⟨0, 0⟩ (s.take i) := by
  rw [Point.ofByte, Parsed.encode_take, Point.after_eq]

/-- What the bytes say of a node is what the characters say of it. -/
theorem NodeInfo.exact_iff {n : NodeInfo} {source : String} :
    n.Exact source ↔ ∃ i j, n.Covers source.toList i j := by
  constructor
  · rintro ⟨le, first, stop, startPoint, stopPoint⟩
    obtain ⟨i, hi, first⟩ := Utf8.isValid_iff_take.mp first
    obtain ⟨j, hj, stop⟩ := Utf8.isValid_iff_take.mp stop
    rw [first, Point.ofByte_take] at startPoint
    rw [stop, Point.ofByte_take] at stopPoint
    rw [first, stop, Buffer.byteLength_take_le_iff hi hj] at le
    exact ⟨i, j, le, hj, first, stop, startPoint, stopPoint⟩
  · rintro ⟨i, j, h⟩
    have hi := h.le.trans h.length
    refine ⟨?_, ?_, ?_, ?_, ?_⟩
    · rw [h.first, h.stop, Buffer.byteLength_take_le_iff hi h.length]
      exact h.le
    · exact Utf8.isValid_iff_take.mpr ⟨i, hi, h.first⟩
    · exact Utf8.isValid_iff_take.mpr ⟨j, h.length, h.stop⟩
    · rw [h.first, Point.ofByte_take, h.startPoint]
    · rw [h.stop, Point.ofByte_take, h.stopPoint]

namespace Parsed

variable {source : String} {p : Parsed} {m n : Nat}

/-- The position of a byte offset has as many bytes in front of it. -/
theorem Reads.position_ofByte (h : p.Reads source) (hn : String.Pos.Raw.IsValid source ⟨n⟩) :
    p.lines.Holds (p.position (Point.ofByte p.bytes n)) ∧
      Buffer.byteLength
        (source.toList.take (p.lines.offset (p.position (Point.ofByte p.bytes n)))) = n := by
  obtain ⟨i, hi, rfl⟩ := Utf8.isValid_iff_take.mp hn
  obtain ⟨holds, offset⟩ := h.position hi
  rw [h.bytes, Point.ofByte_take, offset]
  exact ⟨holds, rfl⟩

theorem Reads.position_lt_iff (h : p.Reads source) (hm : String.Pos.Raw.IsValid source ⟨m⟩)
    (hn : String.Pos.Raw.IsValid source ⟨n⟩) :
    p.position (Point.ofByte p.bytes m) < p.position (Point.ofByte p.bytes n) ↔ m < n := by
  obtain ⟨holds, front⟩ := h.position_ofByte hm
  obtain ⟨holds', front'⟩ := h.position_ofByte hn
  have length := Buffer.offset_le_length holds
  have length' := Buffer.offset_le_length holds'
  rw [h.whole] at length length'
  rw [← Buffer.offset_lt_iff holds holds', ← not_le, ← not_le,
    ← Buffer.byteLength_take_le_iff length' length, front, front']

end Parsed

/-- A node that is cut between characters has a span in the buffer, which does not run backward, and the
text of the span is the text of its bytes. Of two places between characters the one with more bytes in
front of it has the later position. -/
theorem Parsed.span_of_bytes {source : String} {p : Parsed} (h : p.Reads source) :
    (∀ t : Tree, t.info.Exact source →
      (p.span t).start ≤ (p.span t).stop ∧ p.lines.Holds (p.span t).start ∧
        p.lines.Holds (p.span t).stop ∧
        p.lines.extract (p.span t) = String.ofList (p.text t)) ∧
    ∀ m n, String.Pos.Raw.IsValid source ⟨m⟩ → String.Pos.Raw.IsValid source ⟨n⟩ →
      (p.position (Point.ofByte p.bytes m) < p.position (Point.ofByte p.bytes n) ↔ m < n) := by
  constructor
  · intro t cut
    have sited : t.Sited source.toList := NodeInfo.exact_iff.mp cut
    have within := h.within sited
    refine ⟨within.valid, within.start, within.stop, ?_⟩
    rw [Buffer.extract, h.text sited]
  · intro m n hm hn
    exact h.position_lt_iff hm hn

/-- A node over a line end, from a character of two bytes up to and with one of four. -/
theorem Parsed.span_of_bytes_two_lines :
    let node : Tree := .node ⟨"string", true, ⟨2, 10⟩, ⟨1, 0⟩, ⟨2, 4⟩, none⟩ []
    let p : Parsed := ⟨Utf8.encode "x\nü\r\n𝄞b".toList, Buffer.ofText "x\nü\r\n𝄞b", node⟩
    p.Reads "x\nü\r\n𝄞b" ∧ node.info.Exact "x\nü\r\n𝄞b" ∧
      p.span node = ⟨⟨1, 0⟩, ⟨2, 1⟩⟩ ∧ p.lines.extract (p.span node) = String.ofList (p.text node) := by
  intro node p
  have reads : p.Reads "x\nü\r\n𝄞b" := ⟨rfl, rfl⟩
  have cut : node.info.Exact "x\nü\r\n𝄞b" := NodeInfo.exact_iff.mpr ⟨2, 6, by decide⟩
  exact ⟨reads, cut, rfl, ((Parsed.span_of_bytes reads).1 node cut).2.2.2⟩

end Literate
