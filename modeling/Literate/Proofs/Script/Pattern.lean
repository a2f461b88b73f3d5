import Literate.Proofs.Order
import Literate.Script.Lexeme

/-! No lexeme that shows takes a line break along. The characters in front of the line break are the
room that a pattern has, and each pattern takes some of them. -/

namespace Literate.Script

/-- how many characters stand in front of the first line break -/
def room (s : List Char) : Nat := (s.takeWhile (· ≠ '\n')).length

@[simp] theorem room_nil : room [] = 0 := rfl

theorem room_cons (c : Char) (cs : List Char) :
    room (c :: cs) = if c = '\n' then 0 else room cs + 1 := by
  unfold room
  by_cases h : c = '\n' <;> simp [h]

theorem room_cons_of_ne {c : Char} (h : c ≠ '\n') (cs : List Char) :
    room (c :: cs) = room cs + 1 := by rw [room_cons, if_neg h]

theorem room_drop {s : List Char} {n : Nat} (h : n ≤ room s) : room (s.drop n) = room s - n := by
  induction n generalizing s with
  | zero => rfl
  | succ n ih =>
    cases s with
    | nil => simp at h
    | cons c cs =>
      rw [room_cons] at h ⊢
      split at h
      · omega
      · next hc => rw [List.drop_succ_cons, if_neg hc, ih (by omega), Nat.add_sub_add_right]

theorem room_append {a : List Char} (h : '\n' ∉ a) (s : List Char) :
    room (a ++ s) = a.length + room s := by
  induction a with
  | nil => simp
  | cons c a ih =>
    rw [List.mem_cons, not_or] at h
    rw [List.cons_append, room_cons_of_ne (Ne.symm h.1), ih h.2, List.length_cons]
    omega

/-- A class of characters without the line break stays in front of it. -/
theorem length_takeWhile_le_room {p : Char → Bool} (hp : p '\n' = false) (s : List Char) :
    (s.takeWhile p).length ≤ room s := by
  induction s with
  | nil => rfl
  | cons c s ih =>
    by_cases hc : p c
    · have hne : c ≠ '\n' := fun k => by simp [k, hp] at hc
      rw [List.takeWhile_cons_of_pos hc, room_cons_of_ne hne, List.length_cons]
      omega
    · rw [List.takeWhile_cons_of_neg hc]
      exact Nat.zero_le _

/-- a line break at most, at the end -/
def OneLine (s : List Char) : Prop := s.length ≤ room s + 1

theorem OneLine.drop {s : List Char} (h : OneLine s) (n : Nat) : OneLine (s.drop n) := by
  unfold OneLine at *
  rw [List.length_drop]
  rcases Nat.lt_or_ge (room s) n with hlt | hge
  · omega
  · rw [room_drop hge]
    omega

theorem OneLine.tail {c : Char} {cs : List Char} (h : OneLine (c :: cs)) : OneLine cs := h.drop 1

/-- A line break has nothing behind it. -/
theorem OneLine.ne_of_some {c : Char} {cs : List Char} (h : OneLine (c :: cs)) (hcs : cs ≠ []) :
    c ≠ '\n' := by
  rintro rfl
  have hlen := List.length_pos_of_ne_nil hcs
  rw [OneLine, room_cons, if_pos rfl, List.length_cons] at h
  omega

/-- The characters in front of the line break, and the line break if there is one. -/
theorem OneLine.split {s : List Char} (h : OneLine s) :
    ∃ a d, s = a ++ d ∧ a.length = room s ∧ (d = [] ∨ d = ['\n']) := by
  induction s with
  | nil => exact ⟨[], [], rfl, rfl, .inl rfl⟩
  | cons c cs ih =>
    by_cases hc : c = '\n'
    · have hcs : cs = [] := by_contra fun k => h.ne_of_some k hc
      rw [hc, hcs]
      exact ⟨[], ['\n'], rfl, rfl, .inr rfl⟩
    · obtain ⟨a, d, hs, ha, hd⟩ := ih h.tail
      refine ⟨c :: a, d, by rw [hs, List.cons_append], ?_, hd⟩
      rw [room_cons_of_ne hc, List.length_cons, ha]

/-- `n` characters, one at least, in front of the line break -/
def OnLine (s : List Char) (n : Nat) : Prop := 0 < n ∧ n ≤ room s

/-- What holds of either choice holds of the first that there is. -/
theorem of_orElse {α : Type} {P : α → Prop} {a b : Option α} {x : α} (h : (a <|> b) = some x)
    (ha : a = some x → P x) (hb : b = some x → P x) : P x := by
  cases a with
  | none => exact hb h
  | some y => exact ha h

namespace Pattern

variable {p : Char → Bool} {s : List Char} {n : Nat} {q : Char}

theorem more_le_room (hp : p '\n' = false) (s : List Char) : more p s ≤ room s := by
  have hne {c : Char} (h : p c = true) : c ≠ '\n' := fun k => by simp [k, hp] at h
  fun_induction more p s with
  | case1 c cs h ih => rw [room_cons_of_ne (by decide), room_cons_of_ne (hne h)]; omega
  | case2 => exact Nat.zero_le _
  | case3 c cs _ h ih => rw [room_cons_of_ne (hne h)]; omega
  | case4 => exact Nat.zero_le _
  | case5 => exact Nat.zero_le _

theorem run_le_room (hp : p '\n' = false) (s : List Char) : run p s ≤ room s := by
  unfold run
  split
  · next c cs =>
    split
    · next h =>
      have hne : c ≠ '\n' := fun k => by simp [k, hp] at h
      rw [room_cons_of_ne hne]
      exact Nat.succ_le_succ (more_le_room hp cs)
    · exact Nat.zero_le _
  · exact Nat.zero_le _

theorem run_digit_le (s : List Char) : run Char.isDigit s ≤ room s := run_le_room (by decide) s

theorem exponent_le_room (s : List Char) : exponent s ≤ room s := by
  unfold exponent
  split
  · next e c rest =>
    split
    · next he =>
      have hne : e ≠ '\n' := fun k => by simp [k] at he
      rw [room_cons_of_ne hne]
      split
      · next hs =>
        have hne : c ≠ '\n' := fun k => by simp [k] at hs
        have hrun := run_digit_le rest
        rw [room_cons_of_ne hne]
        split <;> omega
      · have hrun := run_digit_le (c :: rest)
        split <;> omega
    · exact Nat.zero_le _
  · exact Nat.zero_le _

theorem real_onLine (h : real s = some n) : OnLine s n := by
  have hwhole := run_digit_le s
  have hdrop := room_drop hwhole
  unfold real at h
  simp only at h
  split at h
  · next rest hzero hs =>
    have hrun := run_digit_le rest
    rw [hs, room_cons_of_ne (by decide)] at hdrop
    split at h
    · cases h
    · have hexp := exponent_le_room (rest.drop (run Char.isDigit rest))
      rw [room_drop hrun] at hexp
      cases h
      constructor <;> omega
  · cases h
  · next rest hs _ =>
    have hrun := run_digit_le rest
    have hexp := exponent_le_room (rest.drop (run Char.isDigit rest))
    rw [hs, room_cons_of_ne (by decide)] at hdrop
    rw [room_drop hrun] at hexp
    cases h
    constructor <;> omega
  · have hexp := exponent_le_room (s.drop (run Char.isDigit s))
    split at h
    · cases h
    · next hne =>
      have hpos := Nat.pos_of_ne_zero hne
      cases h
      constructor <;> omega

theorem room_pos_of_imaginaryMark (h : imaginaryMark s = true) : 0 < room s := by
  unfold imaginaryMark at h
  split at h
  · rw [room_cons_of_ne (by decide)]; omega
  · rw [room_cons_of_ne (by decide)]; omega
  · cases h

theorem imaginary_onLine (h : imaginary s = some n) : OnLine s n := by
  have hwhole := run_digit_le s
  unfold imaginary at h
  simp only at h
  split at h
  · next hm =>
    have hpos := room_pos_of_imaginaryMark hm.2
    rw [room_drop hwhole] at hpos
    cases h
    constructor <;> omega
  · split at h
    · next k hreal =>
      obtain ⟨hk, hle⟩ := real_onLine hreal
      split at h
      · next hm =>
        have hpos := room_pos_of_imaginaryMark hm
        rw [room_drop hle] at hpos
        cases h
        constructor <;> omega
      · cases h
    · cases h

theorem based_onLine {lower upper : Char} (hp : p '\n' = false) (hl : lower ≠ '\n')
    (hu : upper ≠ '\n') (h : based lower upper p s = some n) : OnLine s n := by
  unfold based at h
  split at h
  · next x rest =>
    have hmore := more_le_room hp rest
    split at h
    · next hx =>
      have hne : x ≠ '\n' := by
        rintro rfl
        simp [hl.symm, hu.symm] at hx
      rw [OnLine, room_cons_of_ne (by decide), room_cons_of_ne hne]
      split at h
      · cases h
      · cases h
        constructor <;> omega
    · cases h
  · cases h

theorem decimal_onLine (h : decimal s = some n) : OnLine s n := by
  unfold decimal at h
  split at h
  · next rest =>
    have hmore := @more_le_room (· == '0') (by decide) rest
    cases h
    rw [OnLine, room_cons_of_ne (by decide)]
    constructor <;> omega
  · next c rest _ =>
    split at h
    · next hc =>
      have hne : c ≠ '\n' := by
        rintro rfl
        simp at hc
      have hmore := @more_le_room Char.isDigit (by decide) rest
      cases h
      rw [OnLine, room_cons_of_ne hne]
      constructor <;> omega
    · cases h
  · cases h

theorem number_onLine (h : number s = some n) : OnLine s n := by
  refine of_orElse h imaginary_onLine fun h => of_orElse h real_onLine fun h => ?_
  refine of_orElse h (based_onLine (by decide) (by decide) (by decide)) fun h => ?_
  refine of_orElse h (based_onLine (by decide) (by decide) (by decide)) fun h => ?_
  exact of_orElse h (based_onLine (by decide) (by decide) (by decide)) decimal_onLine

theorem operator_onLine (h : operator s = some n) : OnLine s n := by
  obtain ⟨o, ho, rfl⟩ := Option.map_eq_some_iff.mp h
  have hop : ∀ o ∈ operators, 0 < o.toList.length ∧ '\n' ∉ o.toList := by decide
  obtain ⟨hpos, hnot⟩ := hop o (List.mem_of_find?_eq_some ho)
  have hpre := List.find?_some ho
  obtain ⟨t, rfl⟩ := List.isPrefixOf_iff_prefix.mp hpre
  rw [OnLine, room_append hnot, ← String.length_toList]
  constructor <;> omega

/-- Marks and a quote stand on one line. -/
theorem stringStart_onLine (h : stringStart s = some (n, q)) : n + 1 ≤ room s ∧ q ≠ '\n' := by
  obtain ⟨m, -, hsome⟩ := List.exists_of_findSome?_eq_some h
  split at hsome
  · next c cs hdrop =>
    split at hsome
    · next hq =>
      cases hsome
      rw [Bool.and_eq_true, List.contains_iff_mem] at hq
      have hne : q ≠ '\n' := fun k => by simp [k] at hq
      have marks : ∀ w ∈ stringMarks, '\n' ∉ w.toList := by decide
      have hnot : '\n' ∉ s.take n := fun k =>
        marks _ hq.2 (String.toList_ofList ▸ List.mem_map.mpr ⟨'\n', k, rfl⟩)
      have hlen := congrArg List.length hdrop
      rw [List.length_drop, List.length_cons] at hlen
      refine ⟨?_, hne⟩
      rw [← List.take_append_drop n s, room_append hnot, hdrop, room_cons_of_ne hne,
        List.length_take]
      omega
    · cases hsome
  · cases hsome

theorem firstLine_onLine {k : Nat} (hq : q ≠ '\n') (h : firstLine q s = some (k, .closed)) :
    k ≤ room s := by
  fun_induction firstLine q s generalizing k with
  | case1 => cases h
  | case2 => cases h
  | case3 c cs hc _ ih =>
    obtain ⟨⟨m, e⟩, hm, he⟩ := Option.map_eq_some_iff.mp h
    cases he
    have hle := ih hm
    rw [room_cons_of_ne (by decide), room_cons_of_ne hc]
    omega
  | case4 c cs _ _ _ hc =>
    cases h
    rw [room_cons_of_ne (eq_of_beq hc ▸ hq)]
    omega
  | case5 => cases h
  | case6 c cs _ _ _ _ hc ih =>
    obtain ⟨⟨m, e⟩, hm, he⟩ := Option.map_eq_some_iff.mp h
    cases he
    have hle := ih hm
    rw [room_cons_of_ne fun k => by simp [k] at hc]
    omega
  | case7 => cases h

theorem closing_onLine {k : Nat} (hq : q ≠ '\n') (hs : OneLine s) (h : closing q s = some k) :
    k ≤ room s := by
  fun_induction closing q s generalizing k with
  | case1 => cases h
  | case2 c cs hc ih =>
    obtain ⟨m, hm, rfl⟩ := Option.map_eq_some_iff.mp h
    have hle := ih hs.tail.tail hm
    rw [room_cons_of_ne (by decide), room_cons_of_ne fun k => by simp [k] at hc]
    omega
  | case3 c cs _ hc =>
    cases h
    rw [room_cons_of_ne (eq_of_beq hc ▸ hq)]
    omega
  | case4 => cases h
  | case5 c cs _ _ _ ih =>
    obtain ⟨m, hm, rfl⟩ := Option.map_eq_some_iff.mp h
    have hle := ih hs.tail hm
    rw [room_cons_of_ne (hs.ne_of_some fun k => by simp [k, closing] at hm)]
    omega
  | case6 => cases h

theorem closingTriple_onLine {k : Nat} (hq : q ≠ '\n') (hs : OneLine s)
    (h : closingTriple q s = some k) : k ≤ room s := by
  fun_induction closingTriple q s generalizing k with
  | case1 => cases h
  | case2 c cs hc ih =>
    obtain ⟨m, hm, rfl⟩ := Option.map_eq_some_iff.mp h
    have hle := ih hs.tail.tail hm
    rw [room_cons_of_ne (by decide), room_cons_of_ne fun k => by simp [k] at hc]
    omega
  | case3 c cs _ hc =>
    cases h
    rw [Bool.and_eq_true, beq_iff_eq, beq_iff_eq] at hc
    obtain ⟨rfl, hcs⟩ := hc
    have quotes : '\n' ∉ [c, c] := by simpa using hq.symm
    rw [room_cons_of_ne hq, ← List.take_append_drop 2 cs, hcs, room_append quotes,
      List.length_cons, List.length_singleton]
    omega
  | case4 => cases h
  | case5 c cs _ _ _ ih =>
    obtain ⟨m, hm, rfl⟩ := Option.map_eq_some_iff.mp h
    have hle := ih hs.tail hm
    rw [room_cons_of_ne (hs.ne_of_some fun k => by simp [k, closingTriple] at hm)]
    omega
  | case6 => cases h

end Pattern

/-- What a piece takes of the line: a lexeme all its characters, a string its quotes at least. -/
def Piece.Fits (s : List Char) : Piece → Prop
  | .hidden _ | .lineEnd _ => True
  | .lexeme _ n => n + 1 ≤ room s
  | .triple q n => n + 1 ≤ room s ∧ q ≠ '\n'
  | .continuedString q _ => 0 < room s ∧ q ≠ '\n'

namespace Piece

variable {s : List Char} {x : Piece}

theorem fits_ofLength {kind : LexemeKind} {n : Nat} (hn : OnLine s n)
    (h : ofLength (.lexeme kind) n = some x) : x.Fits s := by
  obtain ⟨hpos, hle⟩ := hn
  cases h
  rw [Fits]
  omega

theorem fits_string? (h : string? s = some x) : x.Fits s := by
  unfold string? at h
  split at h
  · next n q hstart =>
    obtain ⟨hn, hq⟩ := Pattern.stringStart_onLine hstart
    split at h
    · next k hfirst =>
      have hk := Pattern.firstLine_onLine hq hfirst
      rw [room_drop hn] at hk
      cases h
      rw [Fits]
      omega
    · cases h
      exact ⟨by omega, hq⟩
    · cases h
  · cases h

theorem fits_triple? (h : triple? s = some x) : x.Fits s := by
  unfold triple? at h
  split at h
  · next n q hstart =>
    obtain ⟨hn, hq⟩ := Pattern.stringStart_onLine hstart
    split at h
    · next htake =>
      cases h
      have quotes : '\n' ∉ [q, q] := by simpa using hq.symm
      have hdrop := room_drop hn
      rw [← List.take_append_drop 2 (s.drop (n + 1)), eq_of_beq htake, room_append quotes,
        List.length_cons, List.length_singleton] at hdrop
      exact ⟨by omega, hq⟩
    · cases h
  · cases h

theorem fits_word? (h : word? s = some x) : x.Fits s := by
  unfold word? at h
  split at h
  · next c cs =>
    split at h
    · next hc =>
      have hne : c ≠ '\n' := fun k => by rw [k] at hc; revert hc; decide
      have hle := @length_takeWhile_le_room Text.isWord (by decide) cs
      cases h
      rw [Fits, room_cons_of_ne hne]
      omega
    · cases h
  · cases h

theorem fits_comment? (h : comment? s = some x) : x.Fits s := by
  unfold comment? at h
  split at h
  · next cs =>
    have hle := @length_takeWhile_le_room (fun c => c != '\r' && c != '\n') (by decide) cs
    cases h
    rw [Fits, room_cons_of_ne (by decide)]
    omega
  · cases h

theorem fits_hidden? (h : hidden? s = some x) : x.Fits s := by
  unfold hidden? at h
  split at h <;> cases h <;> trivial

theorem fits_lineEnd? (h : lineEnd? s = some x) : x.Fits s := by
  unfold lineEnd? at h
  split at h <;> cases h <;> trivial

/-- The piece that a text starts with fits into its line. -/
theorem fits_first? (h : first? s = some x) : x.Fits s := by
  have counted {kind : LexemeKind} {count : Option Nat} (hn : ∀ n, count = some n → OnLine s n)
      (h : count.bind (ofLength (.lexeme kind)) = some x) : x.Fits s := by
    obtain ⟨n, hcount, hx⟩ := Option.bind_eq_some_iff.mp h
    exact fits_ofLength (hn n hcount) hx
  refine of_orElse h fits_hidden? fun h => of_orElse h fits_comment? fun h => ?_
  refine of_orElse h fits_triple? fun h => ?_
  refine of_orElse h (counted fun _ => Pattern.number_onLine) fun h => ?_
  refine of_orElse h fits_lineEnd? fun h => ?_
  refine of_orElse h (counted fun _ => Pattern.operator_onLine) fun h => ?_
  exact of_orElse h fits_string? fits_word?

end Piece
end Literate.Script
