import Literate.Proofs.Buffer.Offset

/-! Every place of a text is a position of its buffer, and the point that a parser gives for the
place leads to that position. -/

namespace Literate

namespace Text

/-- Behind one more character a piece is empty, or is one from before, or starts with it. -/
theorem mem_splitAt_cons {α : Type} [BEq α] [LawfulBEq α] {sep c : α} {s l : List α}
    (h : l ∈ splitAt sep (c :: s)) :
    l = [] ∨ l ∈ splitAt sep s ∨ c ≠ sep ∧ ∃ m ∈ splitAt sep s, l = c :: m := by
  rw [splitAt, List.splitOn_cons_eq_if_modifyHead] at h
  split at h
  · exact (List.mem_cons.mp h).imp_right .inl
  · next hc =>
    obtain ⟨m, ms, hm⟩ := List.exists_cons_of_ne_nil (List.splitOn_ne_nil sep s)
    rw [hm, List.modifyHead_cons] at h
    rw [splitAt, hm]
    rcases List.mem_cons.mp h with rfl | h
    · exact .inr (.inr ⟨by simpa using hc, m, List.mem_cons_self, rfl⟩)
    · exact .inr (.inl (List.mem_cons_of_mem m h))

theorem not_mem_of_mem_splitAt {sep : Char} {s l : List Char} (h : l ∈ splitAt sep s) :
    sep ∉ l := by
  induction s generalizing l with
  | nil =>
    rw [splitAt, List.splitOn_nil, List.mem_singleton] at h
    rw [h]
    exact List.not_mem_nil
  | cons c s ih =>
    rcases mem_splitAt_cons h with rfl | h | ⟨hc, m, hm, rfl⟩
    · exact List.not_mem_nil
    · exact ih h
    · exact List.not_mem_cons_of_ne_of_not_mem hc.symm (ih hm)

theorem subset_of_mem_splitAt {α : Type} [BEq α] [LawfulBEq α] {sep : α} {s l : List α}
    (h : l ∈ splitAt sep s) : l ⊆ s := by
  induction s generalizing l with
  | nil =>
    rw [splitAt, List.splitOn_nil, List.mem_singleton] at h
    rw [h]
    exact List.nil_subset []
  | cons c s ih =>
    rcases mem_splitAt_cons h with rfl | h | ⟨-, m, hm, rfl⟩
    · exact List.nil_subset _
    · exact List.subset_cons_of_subset c (ih h)
    · exact List.cons_subset_cons c (ih hm)

theorem splitAt_joinWith {sep : Char} {ls : List (List Char)} (h : ∀ l ∈ ls, sep ∉ l)
    (hne : ls ≠ []) :
    splitAt sep (joinWith [sep] ls) = ls := by
  rw [joinWith_eq_intercalate, splitAt]
  exact List.splitOn_intercalate sep h hne

end Text

namespace Buffer

/-- No line holds a line feed. -/
def Flat (lines : Buffer) : Prop := ∀ l ∈ lines, '\n' ∉ l

theorem flat_ofText (text : String) : Flat (ofText text) := fun _ h => Text.not_mem_of_mem_splitAt h

theorem whole_append_cons (pre : Buffer) (line : List Char) (post : Buffer) :
    ∃ r, whole (pre ++ line :: post) = Text.closedLines pre ++ line ++ r := by
  obtain ⟨r, hr⟩ := Text.exists_joinWith_cons line post
  exact ⟨r, by rw [whole, Text.joinWith_append, hr, List.append_assoc]⟩

/-- Every place of the text is a position. -/
theorem exists_place {lines : Buffer} (hne : lines ≠ []) {i : Nat} (hi : i ≤ lines.whole.length) :
    ∃ pre line post, ∃ j : Nat, lines = pre ++ line :: post ∧ j ≤ line.length ∧
      (Text.closedLines pre).length + j = i := by
  induction lines generalizing i with
  | nil => exact absurd rfl hne
  | cons line post ih =>
    by_cases hl : i ≤ line.length
    · exact ⟨[], line, post, i, rfl, hl, by simp⟩
    · cases post with
      | nil =>
        rw [whole, Text.joinWith] at hi
        exact absurd hi hl
      | cons m post =>
        rw [whole, Text.joinWith_cons, List.length_append, List.length_cons] at hi
        obtain ⟨pre, line', post', j, hlines, hj, hk⟩ :=
          ih (List.cons_ne_nil _ _) (i := i - (line.length + 1)) (by rw [whole]; omega)
        refine ⟨line :: pre, line', post', j, by rw [hlines]; rfl, hj, ?_⟩
        rw [Text.closedLines_cons, List.length_append, List.length_cons]
        omega

theorem exists_position {lines : Buffer} (hne : lines ≠ []) {i : Nat}
    (hi : i ≤ lines.whole.length) :
    ∃ p, lines.Holds p ∧ lines.offset p = i := by
  obtain ⟨pre, line, post, j, rfl, hj, rfl⟩ := exists_place hne hi
  exact ⟨⟨pre.length, j⟩, holds_append_cons hj, offset_append_cons⟩

theorem byteLength_append (s t : List Char) :
    byteLength (s ++ t) = byteLength s + byteLength t := by
  induction s with
  | nil => simp [byteLength]
  | cons c s ih =>
    simp only [byteLength, List.cons_append, List.foldr_cons] at ih ⊢
    omega

theorem byteLength_cons (c : Char) (s : List Char) :
    byteLength (c :: s) = c.utf8Size + byteLength s :=
  rfl

theorem byteLength_pos {s : List Char} (h : s ≠ []) : 0 < byteLength s := by
  obtain ⟨c, s, rfl⟩ := List.exists_cons_of_ne_nil h
  have := c.utf8Size_pos
  rw [byteLength_cons]
  omega

/-- More characters take more bytes. -/
theorem byteLength_take_lt {s : List Char} {i j : Nat} (hij : i < j) (hj : j ≤ s.length) :
    byteLength (s.take i) < byteLength (s.take j) := by
  have split : s.take i ++ (s.take j).drop i = s.take j :=
    Text.between_append (Nat.zero_le i) hij.le
  have hne : (s.take j).drop i ≠ [] := by
    rw [ne_eq, List.drop_eq_nil_iff, List.length_take]
    omega
  rw [← split, byteLength_append]
  have := byteLength_pos hne
  omega

theorem byteLength_take_le_iff {s : List Char} {i j : Nat} (hi : i ≤ s.length) (hj : j ≤ s.length) :
    byteLength (s.take i) ≤ byteLength (s.take j) ↔ i ≤ j := by
  constructor
  · intro h
    by_contra hlt
    exact absurd (byteLength_take_lt (by omega) hi) h.not_gt
  · intro h
    rcases h.lt_or_eq with hlt | rfl
    · exact (byteLength_take_lt hlt hj).le
    · exact le_rfl

theorem fits_le_length (line : List Char) (bytes : Nat) : fits line bytes ≤ line.length := by
  fun_induction fits line bytes with
  | case1 => exact le_rfl
  | case2 c line bytes hfit ih => exact Nat.succ_le_succ ih
  | case3 => exact Nat.zero_le _

theorem fits_byteLength {line : List Char} {j : Nat} (hj : j ≤ line.length) :
    fits line (byteLength (line.take j)) = j := by
  induction line generalizing j with
  | nil =>
    obtain rfl : j = 0 := by simpa using hj
    rfl
  | cons c line ih =>
    have hc := c.utf8Size_pos
    cases j with
    | zero =>
      rw [List.take_zero, fits, if_neg]
      simp only [byteLength, List.foldr_nil]
      omega
    | succ j =>
      rw [List.take_succ_cons, byteLength_cons, fits, if_pos (by omega), Nat.add_sub_cancel_left,
        ih (by simpa using hj)]

theorem columnOfByte_natCast (line : List Char) (b : Nat) : columnOfByte line b = fits line b := by
  rw [columnOfByte, if_neg (by omega), Int.toNat_natCast]

/-- The bytes in front of a column lead back to the column. -/
theorem columnOfByte_byteLength {line : List Char} {j : Nat} (hj : j ≤ line.length) :
    columnOfByte line (byteLength (line.take j)) = j := by
  rw [columnOfByte_natCast, fits_byteLength hj]

end Buffer

namespace Point

theorem after_append (p : Point) (s t : List Char) : p.after (s ++ t) = (p.after s).after t :=
  List.foldl_append

theorem after_line (p : Point) {l : List Char} (h : '\n' ∉ l) :
    p.after l = ⟨p.row, p.byte + Buffer.byteLength l⟩ := by
  induction l generalizing p with
  | nil => rfl
  | cons c l ih =>
    rw [List.mem_cons, not_or] at h
    have hc : c ≠ '\n' := fun k => h.1 k.symm
    have head : p.after (c :: l) = after ⟨p.row, p.byte + c.utf8Size⟩ l := by
      rw [after, List.foldl_cons, if_neg hc]
      rfl
    rw [head, ih _ h.2, Buffer.byteLength_cons, Nat.add_assoc]

theorem after_closedLines (r : Nat) {ls : List (List Char)} (h : ∀ l ∈ ls, '\n' ∉ l) :
    after ⟨r, 0⟩ (Text.closedLines ls) = ⟨r + ls.length, 0⟩ := by
  induction ls generalizing r with
  | nil => rfl
  | cons l ls ih =>
    have head : after ⟨r, 0⟩ (l ++ ['\n']) = ⟨r + 1, 0⟩ := by
      rw [after_append, after_line _ (h l (by simp))]
      rfl
    rw [Text.closedLines_cons, ← List.singleton_append, ← List.append_assoc, after_append, head,
      ih _ fun m hm => h m (by simp [hm]), List.length_cons, Nat.add_assoc, Nat.add_comm 1]

end Point

namespace Buffer

/-- The position behind the first `i` characters of a text is found by the point behind them. -/
theorem place_of_point {lines : Buffer} (hflat : lines.Flat) (hne : lines ≠ []) {i : Nat}
    (hi : i ≤ lines.whole.length) :
    ∃ line p, lines[(Point.after ⟨0, 0⟩ (lines.whole.take i)).row]? = some line ∧
      p = ⟨(Point.after ⟨0, 0⟩ (lines.whole.take i)).row,
        columnOfByte line (Point.after ⟨0, 0⟩ (lines.whole.take i)).byte⟩ ∧
      lines.Holds p ∧ lines.offset p = i := by
  obtain ⟨pre, line, post, j, rfl, hj, rfl⟩ := exists_place hne hi
  obtain ⟨r, hr⟩ := whole_append_cons pre line post
  have front : (whole (pre ++ line :: post)).take ((Text.closedLines pre).length + j) =
      Text.closedLines pre ++ line.take j := by
    rw [hr, List.append_assoc, List.take_length_add_append, List.take_append_of_le_length hj]
  have hpre : ∀ l ∈ pre, '\n' ∉ l := fun l hl => hflat l (by simp [hl])
  have hline : '\n' ∉ line.take j := fun k => hflat line (by simp) (List.mem_of_mem_take k)
  have point : Point.after ⟨0, 0⟩
      ((whole (pre ++ line :: post)).take ((Text.closedLines pre).length + j)) =
      ⟨pre.length, byteLength (line.take j)⟩ := by
    rw [front, Point.after_append, Point.after_closedLines 0 hpre, Point.after_line _ hline]
    simp
  rw [point]
  refine ⟨line, ⟨pre.length, j⟩, by simp, ?_, holds_append_cons hj, offset_append_cons⟩
  rw [columnOfByte_byteLength hj]

/-- Behind a text the position is as many lines on as the text has line feeds, and as many columns
as its last line has, counted on from the start if that is the only one. -/
theorem stop_of_slice {lines : Buffer} (hflat : lines.Flat) {p q : Position} (hp : lines.Holds p)
    (hq : lines.Holds q) (h : p ≤ q) :
    q = if (Text.splitAt '\n' (lines.slice ⟨p, q⟩)).length = 1 then
        ⟨p.line, p.column + ((Text.splitAt '\n' (lines.slice ⟨p, q⟩)).getLast?.getD []).length⟩
      else ⟨p.line + (Text.splitAt '\n' (lines.slice ⟨p, q⟩)).length - 1,
        ((Text.splitAt '\n' (lines.slice ⟨p, q⟩)).getLast?.getD []).length⟩ := by
  rcases hp.split_le hq h with ⟨pre, line, post, j, k, rfl, rfl, rfl, hjk, hk⟩ |
    ⟨pre, line, mid, line', post, j, k, rfl, rfl, rfl, hj, hk⟩
  · have hline : '\n' ∉ (line.take k).drop j := fun hm =>
      hflat line (by simp) (List.mem_of_mem_take (List.mem_of_mem_drop hm))
    have pieces : Text.splitAt '\n' ((line.take k).drop j) = [(line.take k).drop j] :=
      List.splitOn_eq_singleton hline
    rw [slice_same hjk hk, pieces, if_pos List.length_singleton, Position.ext_iff']
    simp only [List.getLast?_singleton, Option.getD_some, List.length_drop, List.length_take,
      true_and]
    omega
  · have pieces : Text.splitAt '\n'
        (line.drop j ++ '\n' :: (Text.closedLines mid ++ line'.take k)) =
        line.drop j :: (mid ++ [line'.take k]) := by
      have joined : line.drop j ++ '\n' :: (Text.closedLines mid ++ line'.take k) =
          Text.joinWith ['\n'] (line.drop j :: (mid ++ [line'.take k])) := by
        have := Text.joinWith_append (line.drop j :: mid) (line'.take k) []
        rw [List.cons_append] at this
        rw [this, Text.closedLines_cons]
        simp [Text.joinWith]
      rw [joined, Text.splitAt_joinWith _ (List.cons_ne_nil _ _)]
      intro l hl
      simp only [List.mem_cons, List.mem_append, List.not_mem_nil, or_false] at hl
      rcases hl with rfl | hl | rfl
      · exact fun hm => hflat line (by simp) (List.mem_of_mem_drop hm)
      · exact hflat l (by simp [hl])
      · exact fun hm => hflat line' (by simp) (List.mem_of_mem_take hm)
    have last : (line.drop j :: (mid ++ [line'.take k])).getLast? = some (line'.take k) := by
      rw [← List.cons_append, List.getLast?_concat]
    rw [slice_apart, pieces, last, if_neg (by simp), Position.ext_iff']
    simp only [Option.getD_some, List.length_cons, List.length_append, List.length_nil,
      List.length_take]
    omega

end Buffer
end Literate
