import Literate.Proofs.Buffer.Place
import Literate.Proofs.Text.Utf8
import Literate.Proofs.Assembly.Trace
import Literate.Tree

/-! Well-formed trees of a text. The bytes and the points of a node mean the same characters, so its
span in the buffer is ordered as its bytes are, and the text of the span is the text of the node. -/

namespace Literate

/-- The node covers the characters from `i` up to `j`, by its bytes as by its points. -/
structure NodeInfo.Covers (n : NodeInfo) (s : List Char) (i j : Nat) : Prop where
  le : i ≤ j
  length : j ≤ s.length
  first : n.bytes.first = Buffer.byteLength (s.take i)
  stop : n.bytes.stop = Buffer.byteLength (s.take j)
  startPoint : n.start = Point.after ⟨0, 0⟩ (s.take i)
  stopPoint : n.stop = Point.after ⟨0, 0⟩ (s.take j)

instance (n : NodeInfo) (s : List Char) (i j : Nat) : Decidable (n.Covers s i j) :=
  decidable_of_iff (i ≤ j ∧ j ≤ s.length ∧ n.bytes.first = Buffer.byteLength (s.take i) ∧
      n.bytes.stop = Buffer.byteLength (s.take j) ∧ n.start = Point.after ⟨0, 0⟩ (s.take i) ∧
      n.stop = Point.after ⟨0, 0⟩ (s.take j))
    ⟨fun ⟨h₁, h₂, h₃, h₄, h₅, h₆⟩ => ⟨h₁, h₂, h₃, h₄, h₅, h₆⟩,
      fun ⟨h₁, h₂, h₃, h₄, h₅, h₆⟩ => ⟨h₁, h₂, h₃, h₄, h₅, h₆⟩⟩

namespace Tree

/-- the bytes of whole characters, and the points that belong to them -/
def Sited (s : List Char) (t : Tree) : Prop := ∃ i j, t.info.Covers s i j

/-- Each node is sited, and its children stand in it one behind the other. -/
inductive WellFormed (s : List Char) : Tree → Prop where
  | node {i : NodeInfo} {cs : List Tree} (sited : Sited s (.node i cs))
      (nested : ∀ c ∈ cs, i.bytes.first ≤ c.info.bytes.first ∧ c.info.bytes.stop ≤ i.bytes.stop)
      (ordered : cs.Pairwise fun a b => a.info.bytes.stop ≤ b.info.bytes.first)
      (children : ∀ c ∈ cs, WellFormed s c) : WellFormed s (.node i cs)

variable {s : List Char} {t u : Tree} {b : Nat} {prune : List String} {waiting : List Tree}

theorem Sited.first_le_stop (h : t.Sited s) : t.info.bytes.first ≤ t.info.bytes.stop := by
  obtain ⟨i, j, h⟩ := h
  rw [h.first, h.stop, Buffer.byteLength_take_le_iff (h.le.trans h.length) h.length]
  exact h.le

theorem WellFormed.sited (h : t.WellFormed s) : t.Sited s := by
  cases h with
  | node sited _ _ _ => exact sited

theorem WellFormed.leaf {i : NodeInfo} (h : Sited s (.node i [])) : WellFormed s (.node i []) :=
  .node h (by simp) List.Pairwise.nil (by simp)

theorem WellFormed.children (h : t.WellFormed s) : ∀ c ∈ t.children, c.WellFormed s := by
  cases h with
  | node _ _ _ children => exact children

theorem WellFormed.nested (h : t.WellFormed s) : ∀ c ∈ t.children,
    t.info.bytes.first ≤ c.info.bytes.first ∧ c.info.bytes.stop ≤ t.info.bytes.stop := by
  cases h with
  | node _ nested _ _ => exact nested

theorem WellFormed.ordered (h : t.WellFormed s) :
    t.children.Pairwise fun a b => a.info.bytes.stop ≤ b.info.bytes.first := by
  cases h with
  | node _ _ ordered _ => exact ordered

/-- Trees that wait for their visit: well-formed, behind the byte `b`, and one behind the other. -/
structure Queue (s : List Char) (b : Nat) (waiting : List Tree) : Prop where
  wellFormed : ∀ t ∈ waiting, t.WellFormed s
  behind : ∀ t ∈ waiting, b ≤ t.info.bytes.first
  ordered : waiting.Pairwise fun a b => a.info.bytes.stop ≤ b.info.bytes.first

theorem WellFormed.queue (h : t.WellFormed s) : Queue s 0 [t] :=
  ⟨by simpa using h, by simp, List.pairwise_singleton _ _⟩

theorem Queue.tail (h : Queue s b (t :: waiting)) : Queue s t.info.bytes.stop waiting :=
  ⟨fun u hu => h.wellFormed u (by simp [hu]), (List.pairwise_cons.mp h.ordered).1,
    (List.pairwise_cons.mp h.ordered).2⟩

/-- The children of the first tree take its place. -/
theorem Queue.expand (h : Queue s b (t :: waiting)) : Queue s b (t.children ++ waiting) := by
  have ht := h.wellFormed t (by simp)
  have hb := h.behind t (by simp)
  refine ⟨fun u hu => ?_, fun u hu => ?_, ?_⟩
  · rcases List.mem_append.mp hu with hu | hu
    · exact ht.children u hu
    · exact h.wellFormed u (by simp [hu])
  · rcases List.mem_append.mp hu with hu | hu
    · exact hb.trans (ht.nested u hu).1
    · exact h.behind u (by simp [hu])
  · rw [List.pairwise_append]
    refine ⟨ht.ordered, h.tail.ordered, fun u hu v hv => ?_⟩
    exact (ht.nested u hu).2.trans (h.tail.behind v hv)

/-- What is visited is well-formed, and behind what is in front of the queue. -/
theorem Queue.visit (h : Queue s b waiting) :
    ∀ u ∈ visit prune waiting, u.WellFormed s ∧ b ≤ u.info.bytes.first := by
  fun_induction Tree.visit prune waiting generalizing b with
  | case1 => simp
  | case2 t rest _ ih =>
    intro u hu
    have ht := h.wellFormed t (by simp)
    rcases List.mem_cons.mp hu with rfl | hu
    · exact ⟨ht, h.behind u (by simp)⟩
    · obtain ⟨hw, hle⟩ := ih h.tail u hu
      exact ⟨hw, (h.behind t (by simp)).trans (ht.sited.first_le_stop.trans hle)⟩
  | case3 t rest _ ih =>
    intro u hu
    rcases List.mem_cons.mp hu with rfl | hu
    · exact ⟨h.wellFormed u (by simp), h.behind u (by simp)⟩
    · exact ih h.expand u hu

/-- Comments, below which nothing is visited, come one behind the other. -/
theorem Queue.comments_ordered (h : Queue s b waiting) :
    ((Tree.visit commentKinds waiting).filter isComment).Pairwise fun t u =>
      t.info.bytes.stop ≤ u.info.bytes.first := by
  fun_induction Tree.visit commentKinds waiting generalizing b with
  | case1 => simp
  | case2 t rest hc ih =>
    rw [List.filter_cons_of_pos (by exact hc), List.pairwise_cons]
    exact ⟨fun u hu => (h.tail.visit u (List.mem_filter.mp hu).1).2, ih h.tail⟩
  | case3 t rest hc ih =>
    rw [List.filter_cons_of_neg (by exact hc)]
    exact ih h.expand

end Tree

/-- The source and its tree are read as bytes and lines of this text. -/
structure Parsed.Reads (p : Parsed) (source : String) : Prop where
  bytes : p.bytes = Utf8.encode source.toList
  lines : p.lines = Buffer.ofText source

namespace Parsed

theorem reads_of_ofSource {grammars : Grammars} {language source : String} {p : Parsed}
    (h : ofSource grammars language source = .ok p) : p.Reads source := by
  unfold ofSource at h
  split at h
  · simp at h
  · split at h
    · simp at h
    · simp at h
    · obtain rfl := Except.ok.inj h
      exact ⟨rfl, rfl⟩

variable {source : String} {p : Parsed} {t u : Tree} {i j : Nat}

theorem Reads.whole (h : p.Reads source) : p.lines.whole = source.toList := by
  rw [h.lines, Buffer.whole_ofText]

/-- The point behind `i` characters is the position behind them. -/
theorem Reads.position (h : p.Reads source) (hi : i ≤ source.toList.length) :
    p.lines.Holds (p.position (Point.after ⟨0, 0⟩ (source.toList.take i))) ∧
      p.lines.offset (p.position (Point.after ⟨0, 0⟩ (source.toList.take i))) = i := by
  have hflat : p.lines.Flat := h.lines ▸ Buffer.flat_ofText source
  have hne : p.lines ≠ [] := h.lines ▸ Buffer.ofText_ne_nil source
  rw [← h.whole] at hi ⊢
  obtain ⟨line, q, hline, hq, hholds, hoff⟩ := Buffer.place_of_point hflat hne hi
  have here : p.position (Point.after ⟨0, 0⟩ (p.lines.whole.take i)) = q := by
    rw [Parsed.position, hline, hq]
  rw [here]
  exact ⟨hholds, hoff⟩

/-- The span of a node, by the characters it covers. -/
theorem Reads.span (h : p.Reads source) (ht : t.info.Covers source.toList i j) :
    p.lines.Within (p.span t) ∧ p.lines.offset (p.span t).start = i ∧
      p.lines.offset (p.span t).stop = j := by
  obtain ⟨h₁, h₂⟩ := h.position (ht.le.trans ht.length)
  obtain ⟨h₃, h₄⟩ := h.position ht.length
  rw [← ht.startPoint] at h₁ h₂
  rw [← ht.stopPoint] at h₃ h₄
  refine ⟨⟨h₁, h₃, ?_⟩, h₂, h₄⟩
  rw [Parsed.span, ← Buffer.offset_le_iff h₁ h₃, h₂, h₄]
  exact ht.le

theorem Reads.within (h : p.Reads source) (ht : t.Sited source.toList) :
    p.lines.Within (p.span t) := by
  obtain ⟨i, j, ht⟩ := ht
  exact (h.span ht).1

/-- Nodes follow one another in the buffer as their bytes do. -/
theorem Reads.stop_le_start (h : p.Reads source) (ht : t.Sited source.toList)
    (hu : u.Sited source.toList) (hle : t.info.bytes.stop ≤ u.info.bytes.first) :
    (p.span t).stop ≤ (p.span u).start := by
  obtain ⟨i, j, ht⟩ := ht
  obtain ⟨k, l, hu⟩ := hu
  obtain ⟨h₁, -, h₂⟩ := h.span ht
  obtain ⟨h₃, h₄, -⟩ := h.span hu
  rw [← Buffer.offset_le_iff h₁.stop h₃.start, h₂, h₄]
  rw [ht.stop, hu.first, Buffer.byteLength_take_le_iff ht.length (hu.le.trans hu.length)] at hle
  exact hle

theorem Reads.start_lt_stop (h : p.Reads source) (ht : t.Sited source.toList)
    (hlt : t.info.bytes.first < t.info.bytes.stop) : (p.span t).start < (p.span t).stop := by
  obtain ⟨i, j, ht⟩ := ht
  obtain ⟨h₁, h₂, h₃⟩ := h.span ht
  rw [← Buffer.offset_lt_iff h₁.start h₁.stop, h₂, h₃]
  rw [ht.first, ht.stop, ← not_le,
    Buffer.byteLength_take_le_iff ht.length (ht.le.trans ht.length), not_le] at hlt
  exact hlt

theorem encode_take (s : List Char) (i : Nat) :
    (Utf8.encode s).take (Buffer.byteLength (s.take i)) = Utf8.encode (s.take i) := by
  conv_lhs => rw [← List.take_append_drop i s, Utf8.encode_append]
  rw [List.take_append_drop, Buffer.byteLength, ← Utf8.length_encode, List.take_left]

/-- The text of a node is the text of its span. -/
theorem Reads.text (h : p.Reads source) (ht : t.Sited source.toList) :
    p.text t = p.lines.slice (p.span t) := by
  obtain ⟨i, j, ht⟩ := ht
  obtain ⟨h₁, h₂, h₃⟩ := h.span ht
  have front : (source.toList.take j).take i = source.toList.take i := by
    rw [List.take_take, Nat.min_eq_left ht.le]
  have cut : (Utf8.encode (source.toList.take j)).drop (Buffer.byteLength (source.toList.take i)) =
      Utf8.encode ((source.toList.take j).drop i) := by
    conv_lhs => rw [← List.take_append_drop i (source.toList.take j), Utf8.encode_append, front]
    rw [Buffer.byteLength, ← Utf8.length_encode, List.drop_left]
  have slice_eq : p.lines.slice (p.span t) = Text.between source.toList i j := by
    rw [← h.whole, ← h₂, ← h₃]
    exact Buffer.slice_eq_between h₁.start h₁.stop h₁.valid
  rw [slice_eq, Parsed.text, Parsed.slice, h.bytes, ht.first, ht.stop, encode_take, cut,
    Utf8.decodeLenient_encode]
  rfl

end Parsed
end Literate
