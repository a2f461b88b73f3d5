import Literate.Buffer
import Literate.Proofs.Order

/-! A buffer as one text: a position of the buffer has an offset in that text, positions are ordered
as their offsets are, and the text of a span is what stands between the two offsets. -/

namespace Literate

namespace Text

/-- the characters from place `i` up to place `j` -/
def between (s : List Char) (i j : Nat) : List Char := (s.take j).drop i

theorem between_append {s : List Char} {i j k : Nat} (hij : i ≤ j) (hjk : j ≤ k) :
    between s i j ++ between s j k = between s i k := by
  obtain ⟨m, rfl⟩ := Nat.exists_eq_add_of_le hij
  obtain ⟨n, rfl⟩ := Nat.exists_eq_add_of_le hjk
  unfold between
  rw [List.drop_take, List.drop_take, List.drop_take, Nat.add_sub_cancel_left,
    Nat.add_sub_cancel_left, Nat.add_assoc, Nat.add_sub_cancel_left, List.take_add, List.drop_drop]

@[simp] theorem between_self (s : List Char) (i : Nat) : between s i i = [] := by
  simp [between]

@[simp] theorem between_all (s : List Char) : between s 0 s.length = s := by
  simp [between]

theorem length_between {s : List Char} {i j : Nat} (hj : j ≤ s.length) :
    (between s i j).length = j - i := by
  simp [between, hj]

theorem between_middle (a b c : List Char) :
    between (a ++ b ++ c) a.length (a ++ b).length = b := by
  simp only [between, List.take_left, List.drop_left]

/-- lines, each with a line feed behind it -/
def closedLines (ls : List (List Char)) : List Char := ls.flatMap (· ++ ['\n'])

@[simp] theorem closedLines_nil : closedLines [] = [] := rfl

@[simp] theorem closedLines_cons (l : List Char) (ls : List (List Char)) :
    closedLines (l :: ls) = l ++ '\n' :: closedLines ls := by
  simp [closedLines]

theorem closedLines_append (ls ms : List (List Char)) :
    closedLines (ls ++ ms) = closedLines ls ++ closedLines ms := by
  simp [closedLines]

theorem length_closedLines (ls : List (List Char)) :
    (closedLines ls).length = (ls.map fun l => l.length + 1).sum := by
  induction ls with
  | nil => rfl
  | cons l ls ih => simp [ih]; omega

theorem joinWith_cons (l m : List Char) (ls : List (List Char)) :
    joinWith ['\n'] (l :: m :: ls) = l ++ '\n' :: joinWith ['\n'] (m :: ls) := by
  simp [joinWith]

theorem exists_joinWith_cons (l : List Char) (ls : List (List Char)) :
    ∃ r, joinWith ['\n'] (l :: ls) = l ++ r := by
  cases ls with
  | nil => exact ⟨[], by simp [joinWith]⟩
  | cons m ls => exact ⟨_, joinWith_cons l m ls⟩

theorem joinWith_append (ls : List (List Char)) (l : List Char) (ms : List (List Char)) :
    joinWith ['\n'] (ls ++ l :: ms) = closedLines ls ++ joinWith ['\n'] (l :: ms) := by
  induction ls with
  | nil => rfl
  | cons k ls ih =>
    have h : ls ++ l :: ms ≠ [] := by simp
    obtain ⟨m, ns, hm⟩ := List.exists_cons_of_ne_nil h
    rw [List.cons_append, hm, joinWith_cons, ← hm, ih, closedLines_cons, List.append_assoc,
      List.cons_append]

theorem joinWith_eq_intercalate (sep : List Char) (ls : List (List Char)) :
    joinWith sep ls = sep.intercalate ls := by
  induction ls with
  | nil => rfl
  | cons l ls ih =>
    cases ls with
    | nil => simp [joinWith]
    | cons m ls => simp [joinWith, ih]

end Text

namespace Buffer

/-- the lines as one text -/
def whole (lines : Buffer) : List Char := Text.joinWith ['\n'] lines

theorem whole_ofText (text : String) : (ofText text).whole = text.toList := by
  rw [whole, Text.joinWith_eq_intercalate]
  exact List.intercalate_splitOn '\n'

theorem ofText_ne_nil (text : String) : ofText text ≠ [] := List.splitOn_ne_nil '\n' _

/-- A position of the buffer: in front of one of its characters, or at the end of a line. -/
structure Holds (lines : Buffer) (p : Position) : Prop where
  line_nonneg : 0 ≤ p.line
  line_lt : p.line < lines.length
  column_nonneg : 0 ≤ p.column
  column_le : p.column ≤ (lines.getD p.line.toNat []).length

instance (lines : Buffer) (p : Position) : Decidable (lines.Holds p) :=
  decidable_of_iff (0 ≤ p.line ∧ p.line < lines.length ∧ 0 ≤ p.column ∧
      p.column ≤ (lines.getD p.line.toNat []).length)
    ⟨fun ⟨h₁, h₂, h₃, h₄⟩ => ⟨h₁, h₂, h₃, h₄⟩, fun ⟨h₁, h₂, h₃, h₄⟩ => ⟨h₁, h₂, h₃, h₄⟩⟩

/-- how many characters of the whole text stand in front of the position -/
def offset (lines : Buffer) (p : Position) : Nat :=
  ((lines.take p.line.toNat).map fun l => l.length + 1).sum + p.column.toNat

variable {lines : Buffer} {p q : Position}

theorem Holds.split (h : lines.Holds p) :
    ∃ pre line post, ∃ j : Nat, lines = pre ++ line :: post ∧ p = ⟨pre.length, j⟩ ∧
      j ≤ line.length := by
  obtain ⟨h₁, h₂, h₃, h₄⟩ := h
  have hi : p.line.toNat < lines.length := by omega
  rw [List.getD_eq_getElem _ _ hi] at h₄
  refine ⟨lines.take p.line.toNat, lines[p.line.toNat], lines.drop (p.line.toNat + 1),
    p.column.toNat, ?_, ?_, by omega⟩
  · rw [List.getElem_cons_drop, List.take_append_drop]
  · rw [Position.ext_iff', List.length_take]
    simp only
    omega

theorem holds_append_cons {pre post : Buffer} {line : List Char} {j : Nat}
    (hj : j ≤ line.length) : Holds (pre ++ line :: post) ⟨pre.length, j⟩ := by
  refine ⟨by simp, by simp, by simp, ?_⟩
  simpa using hj

theorem offset_append_cons {pre post : Buffer} {line : List Char} {j : Nat} :
    offset (pre ++ line :: post) ⟨pre.length, j⟩ = (Text.closedLines pre).length + j := by
  simp [offset, Text.length_closedLines]

/-- Two positions in order stand on one line, or on two lines one behind the other. -/
theorem Holds.split_le (hp : lines.Holds p) (hq : lines.Holds q) (h : p ≤ q) :
    (∃ pre line post, ∃ j k : Nat, lines = pre ++ line :: post ∧ p = ⟨pre.length, j⟩ ∧
      q = ⟨pre.length, k⟩ ∧ j ≤ k ∧ k ≤ line.length) ∨
    ∃ pre line mid line' post, ∃ j k : Nat, lines = pre ++ line :: (mid ++ line' :: post) ∧
      p = ⟨pre.length, j⟩ ∧ q = ⟨(pre ++ line :: mid).length, k⟩ ∧ j ≤ line.length ∧
      k ≤ line'.length := by
  obtain ⟨pre, line, post, j, rfl, rfl, hj⟩ := hp.split
  obtain ⟨h₁, h₂, h₃, h₄⟩ := hq
  rcases h with h | ⟨h, hle⟩
  · right
    simp only at h
    have inner : Holds post ⟨q.line - (pre.length + 1), q.column⟩ := by
      refine ⟨by simp only; omega, ?_, h₃, ?_⟩
      · simp only [List.length_append, List.length_cons] at h₂ ⊢
        omega
      · have hn : q.line.toNat = pre.length + ((q.line - (pre.length + 1)).toNat + 1) := by omega
        rw [hn, List.getD_append_right _ _ _ _ (by omega), Nat.add_sub_cancel_left,
          List.getD_cons_succ] at h₄
        exact h₄
    obtain ⟨mid, line', post', k, rfl, hk, hk'⟩ := inner.split
    refine ⟨pre, line, mid, line', post', j, k, rfl, rfl, ?_, hj, hk'⟩
    rw [Position.ext_iff'] at hk ⊢
    simp only [List.length_append, List.length_cons] at hk ⊢
    omega
  · left
    simp only at h hle
    rw [← h, Int.toNat_natCast, List.getD_append_right _ _ _ _ le_rfl, Nat.sub_self,
      List.getD_cons_zero] at h₄
    refine ⟨pre, line, post, j, q.column.toNat, rfl, rfl, ?_, by omega, by omega⟩
    rw [Position.ext_iff']
    simp only
    omega

theorem slice_same {pre post : Buffer} {line : List Char} {j k : Nat} (hjk : j ≤ k)
    (hk : k ≤ line.length) :
    slice (pre ++ line :: post) ⟨⟨pre.length, j⟩, ⟨pre.length, k⟩⟩ = (line.take k).drop j := by
  have hstop : min (pre.length : Int) ((pre ++ line :: post).length - 1) = pre.length := by
    simp only [List.length_append, List.length_cons]
    omega
  unfold slice
  simp only [hstop]
  rw [if_neg (by simp only [List.length_append, List.length_cons]; omega), if_pos trivial,
    Int.toNat_natCast, List.getD_append_right _ _ _ _ le_rfl, Nat.sub_self, List.getD_cons_zero]
  unfold cut
  rw [if_neg (by omega), if_neg (by omega)]
  simp

theorem slice_apart {pre mid post : Buffer} {line line' : List Char} {j k : Nat} :
    slice (pre ++ line :: (mid ++ line' :: post))
        ⟨⟨pre.length, j⟩, ⟨(pre ++ line :: mid).length, k⟩⟩ =
      line.drop j ++ '\n' :: (Text.closedLines mid ++ line'.take k) := by
  have hlen : (pre ++ line :: (mid ++ line' :: post)).length =
      (pre ++ line :: mid).length + 1 + post.length := by
    simp only [List.length_append, List.length_cons]
    omega
  have hlt : pre.length < (pre ++ line :: mid).length := by simp
  have hstop : min ((pre ++ line :: mid).length : Int)
      ((pre ++ line :: (mid ++ line' :: post)).length - 1) =
      (pre ++ line :: mid).length := by omega
  have lines_eq : pre ++ line :: (mid ++ line' :: post) =
      (pre ++ line :: mid) ++ line' :: post := by simp
  unfold slice
  simp only [hstop]
  rw [if_neg (by omega), if_neg (by omega), if_neg (by omega), Int.toNat_natCast, Int.toNat_natCast,
    Int.toNat_natCast, Int.toNat_natCast]
  have head_eq : (pre ++ line :: (mid ++ line' :: post)).getD pre.length [] = line := by
    rw [List.getD_append_right _ _ _ _ le_rfl, Nat.sub_self, List.getD_cons_zero]
  have tail_eq : (pre ++ line :: (mid ++ line' :: post)).getD (pre ++ line :: mid).length [] =
      line' := by
    rw [lines_eq, List.getD_append_right _ _ _ _ le_rfl, Nat.sub_self, List.getD_cons_zero]
  have mid_eq : ((pre ++ line :: (mid ++ line' :: post)).take (pre ++ line :: mid).length).drop
      (pre.length + 1) = mid := by
    rw [lines_eq, List.take_left]
    simp
  rw [head_eq, tail_eq, mid_eq, ← List.cons_append, Text.joinWith_append]
  simp [Text.joinWith]

/-- A span cuts the whole text in three. -/
theorem whole_eq_slice (hp : lines.Holds p) (hq : lines.Holds q) (h : p ≤ q) :
    ∃ a c, lines.whole = a ++ lines.slice ⟨p, q⟩ ++ c ∧ a.length = lines.offset p ∧
      (a ++ lines.slice ⟨p, q⟩).length = lines.offset q := by
  rcases hp.split_le hq h with ⟨pre, line, post, j, k, rfl, rfl, rfl, hjk, hk⟩ |
    ⟨pre, line, mid, line', post, j, k, rfl, rfl, rfl, hj, hk⟩
  · obtain ⟨r, hr⟩ := Text.exists_joinWith_cons line post
    have front : line.take j ++ (line.take k).drop j = line.take k := by
      rw [← Nat.min_eq_left hjk, ← List.take_take, Nat.min_eq_left hjk, List.take_append_drop]
    refine ⟨Text.closedLines pre ++ line.take j, line.drop k ++ r, ?_, ?_, ?_⟩
    · rw [slice_same hjk hk, List.append_assoc (Text.closedLines pre), front, whole,
        Text.joinWith_append, hr, List.append_assoc, ← List.append_assoc (line.take k),
        List.take_append_drop]
    · rw [offset_append_cons, List.length_append, List.length_take_of_le (hjk.trans hk)]
    · rw [slice_same hjk hk, List.append_assoc, front, offset_append_cons, List.length_append,
        List.length_take_of_le hk]
  · obtain ⟨r, hr⟩ := Text.exists_joinWith_cons line' post
    have lines_eq : pre ++ line :: (mid ++ line' :: post) =
        (pre ++ line :: mid) ++ line' :: post := by
      simp
    have front : Text.closedLines pre ++ line.take j ++
        (line.drop j ++ '\n' :: (Text.closedLines mid ++ line'.take k)) =
          Text.closedLines (pre ++ line :: mid) ++ line'.take k := by
      rw [Text.closedLines_append, Text.closedLines_cons]
      nth_rewrite 3 [← List.take_append_drop j line]
      simp only [List.append_assoc, List.cons_append]
    refine ⟨Text.closedLines pre ++ line.take j, line'.drop k ++ r, ?_, ?_, ?_⟩
    · rw [slice_apart, front, whole, lines_eq, Text.joinWith_append, hr, List.append_assoc,
        ← List.append_assoc (line'.take k), List.take_append_drop]
    · rw [offset_append_cons, List.length_append, List.length_take_of_le hj]
    · rw [slice_apart, front, lines_eq, offset_append_cons, List.length_append,
        List.length_take_of_le hk]

/-- The text of a span stands between the offsets of its ends. -/
theorem slice_eq_between (hp : lines.Holds p) (hq : lines.Holds q) (h : p ≤ q) :
    lines.slice ⟨p, q⟩ = Text.between lines.whole (lines.offset p) (lines.offset q) := by
  obtain ⟨a, c, hw, ha, hb⟩ := whole_eq_slice hp hq h
  rw [hw, ← ha, ← hb, Text.between_middle]

theorem offset_le_length (hp : lines.Holds p) : lines.offset p ≤ lines.whole.length := by
  obtain ⟨a, c, hw, ha, -⟩ := whole_eq_slice hp hp le_rfl
  rw [hw, ← ha]
  simp

theorem offset_lt_offset (hp : lines.Holds p) (hq : lines.Holds q) (h : p < q) :
    lines.offset p < lines.offset q := by
  rcases hp.split_le hq h.le with ⟨pre, line, post, j, k, rfl, rfl, rfl, hjk, hk⟩ |
    ⟨pre, line, mid, line', post, j, k, rfl, rfl, rfl, hj, hk⟩
  · rw [offset_append_cons, offset_append_cons]
    rcases h with h | ⟨-, h⟩
    · exact absurd h (lt_irrefl _)
    · simp only at h
      omega
  · have lines_eq : pre ++ line :: (mid ++ line' :: post) =
        (pre ++ line :: mid) ++ line' :: post := by
      simp
    nth_rewrite 2 [lines_eq]
    rw [offset_append_cons, offset_append_cons, Text.closedLines_append, Text.closedLines_cons]
    simp only [List.length_append, List.length_cons]
    omega

theorem offset_lt_iff (hp : lines.Holds p) (hq : lines.Holds q) :
    lines.offset p < lines.offset q ↔ p < q := by
  refine ⟨fun h => ?_, offset_lt_offset hp hq⟩
  by_contra hn
  rcases (le_of_not_gt hn).lt_or_eq with k | rfl
  · exact absurd (offset_lt_offset hq hp k) h.not_gt
  · exact lt_irrefl _ h

theorem offset_le_iff (hp : lines.Holds p) (hq : lines.Holds q) :
    lines.offset p ≤ lines.offset q ↔ p ≤ q := by
  rw [← not_lt, ← not_lt, offset_lt_iff hq hp]

theorem slice_append {r : Position} (hp : lines.Holds p) (hq : lines.Holds q) (hr : lines.Holds r)
    (hpq : p ≤ q) (hqr : q ≤ r) :
    lines.slice ⟨p, q⟩ ++ lines.slice ⟨q, r⟩ = lines.slice ⟨p, r⟩ := by
  rw [slice_eq_between hp hq hpq, slice_eq_between hq hr hqr,
    slice_eq_between hp hr (hpq.trans hqr),
    Text.between_append ((offset_le_iff hp hq).mpr hpq) ((offset_le_iff hq hr).mpr hqr)]

@[simp] theorem slice_self (hp : lines.Holds p) : lines.slice ⟨p, p⟩ = [] := by
  rw [slice_eq_between hp hp le_rfl, Text.between_self]

theorem slice_ne_nil (hp : lines.Holds p) (hq : lines.Holds q) (h : p < q) :
    lines.slice ⟨p, q⟩ ≠ [] := by
  have hlt := offset_lt_offset hp hq h
  have hlen := Text.length_between (i := lines.offset p) (offset_le_length hq)
  rw [slice_eq_between hp hq h.le]
  intro hn
  rw [hn, List.length_nil] at hlen
  omega

theorem holds_zero (h : lines ≠ []) : lines.Holds ⟨0, 0⟩ := by
  obtain ⟨line, post, rfl⟩ := List.exists_cons_of_ne_nil h
  exact @holds_append_cons [] post line 0 (Nat.zero_le _)

@[simp] theorem offset_zero : lines.offset ⟨0, 0⟩ = 0 := by simp [offset]

theorem last_append (pre : Buffer) (line : List Char) :
    last (pre ++ [line]) = ⟨pre.length, line.length⟩ := by
  simp [last]

theorem holds_last (h : lines ≠ []) : lines.Holds lines.last := by
  rw [← List.dropLast_append_getLast h, last_append]
  exact holds_append_cons le_rfl

theorem offset_last (h : lines ≠ []) : lines.offset lines.last = lines.whole.length := by
  rw [← List.dropLast_append_getLast h, last_append, offset_append_cons, whole,
    Text.joinWith_append]
  simp [Text.joinWith]

theorem Holds.ne_nil (hp : lines.Holds p) : lines ≠ [] := by
  rintro rfl
  have h₁ := hp.line_nonneg
  have h₂ := hp.line_lt
  simp at h₂
  omega

theorem Holds.le_last (hp : lines.Holds p) : p ≤ lines.last := by
  have hne := hp.ne_nil
  rw [← offset_le_iff hp (holds_last hne), offset_last hne]
  exact offset_le_length hp

theorem Holds.zero_le (hp : lines.Holds p) : ⟨0, 0⟩ ≤ p := by
  have h₁ := hp.line_nonneg
  have h₂ := hp.column_nonneg
  rw [Position.le_def]
  simp only
  omega

theorem advance_eq {line : List Char} {next : Position} (h₀ : 0 ≤ p.line)
    (hline : lines[p.line.toNat]? = some line) (hnext : lines.Holds next)
    (h : (if (line.length : Int) < p.column + 1 then ⟨p.line + 1, 0⟩ else ⟨p.line, p.column + 1⟩) =
      next) :
    lines.advance lines.last p = next := by
  unfold advance
  simp only [if_neg (not_lt.mpr h₀), hline, h]
  rw [if_neg]
  rintro (k | k)
  · exact absurd hnext.line_lt k.not_gt
  · exact absurd hnext.le_last k.not_ge

/-- One step forward is one character further in the text. -/
theorem advance_spec (hp : lines.Holds p) (h : p < lines.last) :
    lines.Holds (lines.advance lines.last p) ∧
      lines.offset (lines.advance lines.last p) = lines.offset p + 1 := by
  obtain ⟨pre, line, post, j, rfl, rfl, hj⟩ := hp.split
  have here : (pre ++ line :: post)[(pre.length : Int).toNat]? = some line := by simp
  rcases hj.lt_or_eq with hlt | rfl
  · have hnext : Holds (pre ++ line :: post) ⟨pre.length, (j + 1 : Nat)⟩ := holds_append_cons hlt
    have step := advance_eq (p := ⟨pre.length, j⟩) (by simp) here hnext (by
      rw [if_neg (by simp only; omega)]
      simp)
    rw [step, offset_append_cons, offset_append_cons]
    exact ⟨hnext, by omega⟩
  · -- the end of a line that is not the last one
    obtain ⟨line', post, rfl⟩ : ∃ line' post', post = line' :: post' := by
      refine List.exists_cons_of_ne_nil ?_
      rintro rfl
      rw [last_append] at h
      exact lt_irrefl _ h
    have lines_eq : pre ++ line :: line' :: post = (pre ++ [line]) ++ line' :: post := by simp
    have hnext : Holds (pre ++ line :: line' :: post) ⟨(pre ++ [line]).length, (0 : Nat)⟩ :=
      lines_eq ▸ holds_append_cons (Nat.zero_le _)
    have step := advance_eq (p := ⟨pre.length, line.length⟩) (by simp) here hnext (by
      rw [if_pos (by simp only; omega)]
      simp)
    refine ⟨step ▸ hnext, ?_⟩
    rw [step, offset_append_cons]
    nth_rewrite 1 [lines_eq]
    rw [offset_append_cons, Text.closedLines_append]
    simp
    omega

end Buffer
end Literate
