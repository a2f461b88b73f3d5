import Mathlib
import Literate.Proofs.Basic
import Literate.Text.Utf8

/-! The bytes of a text read back as the text, and no other bytes are read. ASCII bytes stand for ASCII
characters alone, so that blank bytes and the line feed can be looked for in the bytes. -/

namespace Literate

/-- a space, a tab, or an ASCII character that ends a line or a page -/
def Text.isAsciiBlank (c : Char) : Bool := [' ', '\t', '\n', '\r', '\x0b', '\x0c'].contains c

namespace Utf8

section

variable {a b c d : UInt8} {rest : List UInt8}

theorem isTail_iff : isTail b = true ↔ 0x80 ≤ b.toNat ∧ b.toNat < 0xC0 := by
  simp [isTail, UInt8.le_iff_toNat_le, UInt8.lt_iff_toNat_lt]

theorem isSecond_iff : isSecond a b = true ↔
    isTail b = true ∧ (a.toNat = 0xE0 → 0xA0 ≤ b.toNat) ∧ (a.toNat = 0xED → b.toNat < 0xA0) ∧
      (a.toNat = 0xF0 → 0x90 ≤ b.toNat) ∧ (a.toNat = 0xF4 → b.toNat < 0x90) := by
  simp [isSecond, UInt8.le_iff_toNat_le, UInt8.lt_iff_toNat_lt, ← UInt8.toNat_inj, imp_iff_not_or,
    and_assoc]

theorem step_one (h : a.toNat < 0x80) : step a rest = ⟨.ok (Char.ofNat a.toNat), 0⟩ := by
  have hlt : a < 0x80 := UInt8.lt_iff_toNat_lt.mpr h
  rw [step.eq_def, if_pos hlt]

/-- first bytes that ask for more -/
theorem first_of_more (h : 0xC2 ≤ a.toNat) (h' : a.toNat < 0xF5) :
    ¬ a < 0x80 ∧ (decide (a < 0xC2) || decide (0xF5 ≤ a)) = false := by
  simp [UInt8.le_iff_toNat_le, UInt8.lt_iff_toNat_lt]
  omega

theorem step_two (h : 0xC2 ≤ a.toNat) (h' : a.toNat < 0xE0) (hb : isSecond a b = true) :
    step a (b :: rest) = ⟨.ok (assemble (a.toNat - 0xC0) [b]), 1⟩ := by
  obtain ⟨h₁, h₂⟩ := first_of_more h (by omega)
  have hlt : a < 0xE0 := UInt8.lt_iff_toNat_lt.mpr h'
  rw [step.eq_def, if_neg h₁, h₂]
  simp only [Bool.false_eq_true, if_false, hb, Bool.not_true, if_pos hlt]

theorem step_three (h : 0xE0 ≤ a.toNat) (h' : a.toNat < 0xF0) (hb : isSecond a b = true)
    (hc : isTail c = true) :
    step a (b :: c :: rest) = ⟨.ok (assemble (a.toNat - 0xE0) [b, c]), 2⟩ := by
  obtain ⟨h₁, h₂⟩ := first_of_more (a := a) (by omega) (by omega)
  have hge : ¬ a < 0xE0 := fun k => absurd (UInt8.lt_iff_toNat_lt.mp k) h.not_gt
  have hlt : a < 0xF0 := UInt8.lt_iff_toNat_lt.mpr h'
  rw [step.eq_def, if_neg h₁, h₂]
  simp only [Bool.false_eq_true, if_false, hb, hc, Bool.not_true, if_neg hge, if_pos hlt]

theorem step_four (h : 0xF0 ≤ a.toNat) (h' : a.toNat < 0xF5) (hb : isSecond a b = true)
    (hc : isTail c = true) (hd : isTail d = true) :
    step a (b :: c :: d :: rest) = ⟨.ok (assemble (a.toNat - 0xF0) [b, c, d]), 3⟩ := by
  obtain ⟨h₁, h₂⟩ := first_of_more (a := a) (by omega) h'
  have hge' : ¬ a < 0xF0 := fun k => absurd (UInt8.lt_iff_toNat_lt.mp k) h.not_gt
  have hge : ¬ a < 0xE0 := by
    rw [UInt8.lt_iff_toNat_lt]
    exact fun k => absurd (k.trans_le (by decide : (0xE0 : UInt8).toNat ≤ 0xF0)) h.not_gt
  rw [step.eq_def, if_neg h₁, h₂]
  simp only [Bool.false_eq_true, if_false, hb, hc, hd, Bool.not_true, if_neg hge, if_neg hge']

end

/-- The bytes of a character are read as that character, whatever stands behind them. -/
theorem step_encode (c : Char) (rest : List UInt8) :
    ∃ a ts, String.utf8EncodeChar c = a :: ts ∧ step a (ts ++ rest) = ⟨.ok c, ts.length⟩ := by
  have hv := c.valid
  have same : Char.ofNat c.val.toNat = c := Char.ofNat_toNat c
  have hr : c.val.toNat < 0xD800 ∨ (0xDFFF < c.val.toNat ∧ c.val.toNat < 0x110000) := hv
  unfold String.utf8EncodeChar
  generalize c.val.toNat = v at hr same ⊢
  have byte (n : Nat) (h : n < 256) : (UInt8.ofNat n).toNat = n := by
    rw [UInt8.toNat_ofNat', Nat.mod_eq_of_lt h]
  simp only
  split_ifs with h₁ h₂ h₃
  · refine ⟨_, _, rfl, ?_⟩
    have ha := byte v (by omega)
    rw [step_one (by omega), ha, same]
    rfl
  · refine ⟨_, _, rfl, ?_⟩
    have ha := byte (v / 64 % 32 + 0xC0) (by omega)
    have hb := byte (v % 64 + 0x80) (by omega)
    have second : isSecond (UInt8.ofNat (v / 64 % 32 + 0xC0)) (UInt8.ofNat (v % 64 + 0x80)) =
        true := by
      rw [isSecond_iff, isTail_iff, ha, hb]
      omega
    rw [List.singleton_append, step_two (by omega) (by omega) second, assemble]
    simp only [List.foldl_cons, List.foldl_nil, ha, hb]
    rw [show (v / 64 % 32 + 192 - 192) * 64 + (v % 64 + 128 - 128) = v by omega, same]
    rfl
  · refine ⟨_, _, rfl, ?_⟩
    have ha := byte (v / 4096 % 16 + 0xE0) (by omega)
    have hb := byte (v / 64 % 64 + 0x80) (by omega)
    have hc := byte (v % 64 + 0x80) (by omega)
    have second :
        isSecond (UInt8.ofNat (v / 4096 % 16 + 0xE0)) (UInt8.ofNat (v / 64 % 64 + 0x80)) =
            true := by
      rw [isSecond_iff, isTail_iff, ha, hb]
      omega
    have third : isTail (UInt8.ofNat (v % 64 + 0x80)) = true := by
      rw [isTail_iff, hc]
      omega
    rw [List.cons_append, List.singleton_append, step_three (by omega) (by omega) second third,
      assemble]
    simp only [List.foldl_cons, List.foldl_nil, ha, hb, hc]
    rw [show ((v / 4096 % 16 + 224 - 224) * 64 + (v / 64 % 64 + 128 - 128)) * 64 +
      (v % 64 + 128 - 128) = v
      by omega, same]
    rfl
  · refine ⟨_, _, rfl, ?_⟩
    have ha := byte (v / 262144 % 8 + 0xF0) (by omega)
    have hb := byte (v / 4096 % 64 + 0x80) (by omega)
    have hc := byte (v / 64 % 64 + 0x80) (by omega)
    have hd := byte (v % 64 + 0x80) (by omega)
    have second :
        isSecond (UInt8.ofNat (v / 262144 % 8 + 0xF0)) (UInt8.ofNat (v / 4096 % 64 + 0x80)) =
            true := by
      rw [isSecond_iff, isTail_iff, ha, hb]
      omega
    have third : isTail (UInt8.ofNat (v / 64 % 64 + 0x80)) = true := by
      rw [isTail_iff, hc]
      omega
    have fourth : isTail (UInt8.ofNat (v % 64 + 0x80)) = true := by
      rw [isTail_iff, hd]
      omega
    rw [List.cons_append, List.cons_append, List.singleton_append,
      step_four (by omega) (by omega) second third fourth, assemble]
    simp only [List.foldl_cons, List.foldl_nil, ha, hb, hc, hd]
    rw [show (((v / 262144 % 8 + 240 - 240) * 64 + (v / 4096 % 64 + 128 - 128)) * 64 +
      (v / 64 % 64 + 128 - 128)) * 64 + (v % 64 + 128 - 128) = v by omega, same]
    rfl

section

variable {a b c d : UInt8} {rest : List UInt8}

theorem ofNat_eq {n : Nat} (h : a.toNat = n) : UInt8.ofNat n = a := by
  rw [← h, UInt8.ofNat_toNat]

theorem encodeChar_one (h : a.toNat < 0x80) : String.utf8EncodeChar (Char.ofNat a.toNat) = [a] := by
  unfold String.utf8EncodeChar
  rw [show (Char.ofNat a.toNat).val.toNat = a.toNat from toNat_ofNat (.inl (by omega))]
  simp only [if_pos (show a.toNat ≤ 127 by omega)]
  rw [ofNat_eq (a := a) rfl]

theorem encodeChar_two (h : 0xC2 ≤ a.toNat) (h' : a.toNat < 0xE0) (hb : isSecond a b = true) :
    String.utf8EncodeChar (assemble (a.toNat - 0xC0) [b]) = [a, b] := by
  rw [isSecond_iff, isTail_iff] at hb
  simp only [assemble, List.foldl_cons, List.foldl_nil]
  generalize hn : (a.toNat - 0xC0) * 64 + (b.toNat - 0x80) = n
  unfold String.utf8EncodeChar
  rw [show (Char.ofNat n).val.toNat = n from toNat_ofNat (.inl (by omega))]
  simp only [if_neg (show ¬ n ≤ 127 by omega), if_pos (show n ≤ 2047 by omega)]
  rw [ofNat_eq (a := a) (by omega), ofNat_eq (a := b) (by omega)]

theorem encodeChar_three (h : 0xE0 ≤ a.toNat) (h' : a.toNat < 0xF0) (hb : isSecond a b = true)
    (hc : isTail c = true) : String.utf8EncodeChar (assemble (a.toNat - 0xE0) [b, c]) = [a, b, c] := by
  rw [isSecond_iff, isTail_iff] at hb
  rw [isTail_iff] at hc
  simp only [assemble, List.foldl_cons, List.foldl_nil]
  generalize hn : ((a.toNat - 0xE0) * 64 + (b.toNat - 0x80)) * 64 + (c.toNat - 0x80) = n
  have valid : n.isValidChar := by
    unfold Nat.isValidChar
    omega
  unfold String.utf8EncodeChar
  rw [show (Char.ofNat n).val.toNat = n from toNat_ofNat valid]
  simp only [if_neg (show ¬ n ≤ 127 by omega), if_neg (show ¬ n ≤ 2047 by omega),
    if_pos (show n ≤ 65535 by omega)]
  rw [ofNat_eq (a := a) (by omega), ofNat_eq (a := b) (by omega), ofNat_eq (a := c) (by omega)]

theorem encodeChar_four (h : 0xF0 ≤ a.toNat) (h' : a.toNat < 0xF5) (hb : isSecond a b = true)
    (hc : isTail c = true) (hd : isTail d = true) :
    String.utf8EncodeChar (assemble (a.toNat - 0xF0) [b, c, d]) = [a, b, c, d] := by
  rw [isSecond_iff, isTail_iff] at hb
  rw [isTail_iff] at hc hd
  simp only [assemble, List.foldl_cons, List.foldl_nil]
  generalize hn : (((a.toNat - 0xF0) * 64 + (b.toNat - 0x80)) * 64 + (c.toNat - 0x80)) * 64 +
    (d.toNat - 0x80) = n
  have valid : n.isValidChar := by
    unfold Nat.isValidChar
    omega
  unfold String.utf8EncodeChar
  rw [show (Char.ofNat n).val.toNat = n from toNat_ofNat valid]
  simp only [if_neg (show ¬ n ≤ 127 by omega), if_neg (show ¬ n ≤ 2047 by omega),
    if_neg (show ¬ n ≤ 65535 by omega)]
  rw [ofNat_eq (a := a) (by omega), ofNat_eq (a := b) (by omega), ofNat_eq (a := c) (by omega),
    ofNat_eq (a := d) (by omega)]

theorem more_of_first (h : ¬ (decide (a < 0xC2) || decide (0xF5 ≤ a)) = true) :
    0xC2 ≤ a.toNat ∧ a.toNat < 0xF5 := by
  simpa [UInt8.le_iff_toNat_le, UInt8.lt_iff_toNat_lt] using h

/-- What is read as a character are the bytes of that character. -/
theorem encodeChar_of_step {x : Char} (h : (step a rest).read = .ok x) :
    String.utf8EncodeChar x = a :: rest.take (step a rest).more := by
  revert h
  fun_cases step a rest with
  | case1 _ one =>
    intro h
    rw [← Except.ok.inj h]
    exact encodeChar_one (UInt8.lt_iff_toNat_lt.mp one)
  | case5 _ first b rest second two =>
    intro h
    rw [← Except.ok.inj h]
    rw [Bool.not_eq_true, Bool.not_eq_false'] at second
    have below := UInt8.lt_iff_toNat_lt.mp two
    exact encodeChar_two (more_of_first first).1 below second
  | case8 _ first b second two c rest third three =>
    intro h
    rw [← Except.ok.inj h]
    rw [Bool.not_eq_true, Bool.not_eq_false'] at second third
    have above := UInt8.le_iff_toNat_le.mp (UInt8.not_lt.mp two)
    have below := UInt8.lt_iff_toNat_lt.mp three
    exact encodeChar_three above below second third
  | case11 _ first b second two c third three d rest fourth =>
    intro h
    rw [← Except.ok.inj h]
    rw [Bool.not_eq_true, Bool.not_eq_false'] at second third fourth
    have above := UInt8.le_iff_toNat_le.mp (UInt8.not_lt.mp three)
    exact encodeChar_four above (more_of_first first).2 second third fourth
  | _ => nofun

end

/-- Nothing is replaced in the bytes of a text. -/
theorem decodeLenient_encode (s : List Char) : decodeLenient (encode s) = s := by
  induction s with
  | nil => rw [encode, List.flatMap_nil, decodeLenient]
  | cons c s ih =>
    obtain ⟨a, ts, hc, hs⟩ := step_encode c (encode s)
    have bytes_eq : encode (c :: s) = a :: (ts ++ encode s) := by
      rw [encode, List.flatMap_cons, hc]
      rfl
    rw [bytes_eq, decodeLenient]
    simp only [hs, List.drop_left, ih]

theorem length_encode (s : List Char) :
    (encode s).length = s.foldr (fun c n => c.utf8Size + n) 0 := by
  induction s with
  | nil => rfl
  | cons c s ih => rw [encode, List.flatMap_cons, List.length_append, String.length_utf8EncodeChar,
      ← encode, ih, List.foldr_cons]

theorem encode_append (s t : List Char) : encode (s ++ t) = encode s ++ encode t :=
  List.flatMap_append

/-- A character is one ASCII byte, or some bytes none of which is ASCII. -/
theorem encodeChar_cases (c : Char) :
    (c.toNat < 0x80 ∧ String.utf8EncodeChar c = [UInt8.ofNat c.toNat]) ∨
      (0x80 ≤ c.toNat ∧ ∀ b ∈ String.utf8EncodeChar c, 0x80 ≤ b.toNat) := by
  have hr : c.toNat < 0xD800 ∨ (0xDFFF < c.toNat ∧ c.toNat < 0x110000) := c.valid
  have high (n m : Nat) (hm : 0x80 ≤ m) (h : n + m < 0x100) : 0x80 ≤ (UInt8.ofNat (n + m)).toNat := by
    rw [UInt8.toNat_ofNat', Nat.mod_eq_of_lt h]
    omega
  have hv : c.val.toNat = c.toNat := rfl
  unfold String.utf8EncodeChar
  rw [hv]
  generalize c.toNat = v at hr
  simp only
  split_ifs with h₁ h₂ h₃
  · exact .inl ⟨by omega, rfl⟩
  · refine .inr ⟨by omega, ?_⟩
    simp only [List.forall_mem_cons, List.not_mem_nil, false_implies, implies_true, and_true]
    exact ⟨high _ _ (by omega) (by omega), high _ _ (by omega) (by omega)⟩
  · refine .inr ⟨by omega, ?_⟩
    simp only [List.forall_mem_cons, List.not_mem_nil, false_implies, implies_true, and_true]
    exact ⟨high _ _ (by omega) (by omega), high _ _ (by omega) (by omega),
      high _ _ (by omega) (by omega)⟩
  · refine .inr ⟨by omega, ?_⟩
    simp only [List.forall_mem_cons, List.not_mem_nil, false_implies, implies_true, and_true]
    exact ⟨high _ _ (by omega) (by omega), high _ _ (by omega) (by omega),
      high _ _ (by omega) (by omega), high _ _ (by omega) (by omega)⟩

theorem encode_cons (c : Char) (s : List Char) :
    encode (c :: s) = String.utf8EncodeChar c ++ encode s :=
  List.flatMap_cons

theorem decode_encode (s : List Char) (position : Nat) : decode.go position (encode s) = .ok s := by
  induction s generalizing position with
  | nil => rw [encode, List.flatMap_nil, decode.go]
  | cons c s ih =>
    obtain ⟨a, ts, hc, hs⟩ := step_encode c (encode s)
    rw [encode_cons, hc, List.cons_append, decode.go]
    simp only [hs, List.drop_left, ih]

theorem eq_encode_of_decode {bytes : List UInt8} {position : Nat} :
    ∀ s, decode.go position bytes = .ok s → bytes = encode s := by
  fun_induction decode.go position bytes with
  | case1 position =>
    rintro s ⟨⟩
    rfl
  | case2 => nofun
  | case3 position a rest first c hread cs hrest ih =>
    rintro s ⟨⟩
    have char := encodeChar_of_step hread
    rw [encode_cons, char, List.cons_append, ← ih cs hrest, List.take_append_drop]
  | case4 => nofun

/-- The bytes that are read are those of texts. -/
theorem decode_eq_ok_iff {bytes : List UInt8} {s : List Char} : decode bytes = .ok s ↔ bytes = encode s := by
  constructor
  · exact eq_encode_of_decode s
  · rintro rfl
    exact decode_encode s 0

theorem chars?_eq_some_iff {w : Wording} {s : List Char} :
    chars? w = some s ↔ w = s.map Code.char := by
  induction w generalizing s with
  | nil => cases s <;> simp [chars?]
  | cons c w ih =>
    cases c with
    | char c =>
      rw [chars?, List.mapM_cons]
      change (chars? w).bind (fun cs => some (c :: cs)) = some s ↔ _
      cases s <;> simp [Option.bind_eq_some_iff, ih]
      grind
    | half n => cases s <;> simp [chars?]

theorem encodeCodes_map_char (s : List Char) : encodeCodes (s.map Code.char) = .ok (encode s) := by
  rw [encodeCodes, chars?_eq_some_iff.mpr rfl]

/-- A text has an encoding just where it is one of characters. -/
theorem encodeCodes_eq_ok_iff {w : Wording} {bytes : List UInt8} :
    encodeCodes w = .ok bytes ↔ ∃ s, w = s.map Code.char ∧ bytes = encode s := by
  unfold encodeCodes
  cases h : chars? w with
  | none =>
    simp only [reduceCtorEq, false_iff, not_exists, not_and]
    rintro s rfl -
    rw [chars?_eq_some_iff.mpr rfl] at h
    cases h
  | some s =>
    rw [chars?_eq_some_iff] at h
    simp [h, eq_comm]

/-- The byte of the line feed stands for line feeds alone. -/
theorem not_mem_encode {s : List Char} (h : '\n' ∉ s) : 10 ∉ encode s := by
  induction s with
  | nil => simp [encode]
  | cons c s ih =>
    rw [List.mem_cons, not_or] at h
    rw [encode_cons, List.mem_append, not_or]
    refine ⟨fun hmem => ?_, ih h.2⟩
    rcases encodeChar_cases c with ⟨hlt, hc⟩ | ⟨-, hc⟩
    · rw [hc, List.mem_singleton, ← UInt8.toNat_inj, UInt8.toNat_ofNat',
        Nat.mod_eq_of_lt (by omega)] at hmem
      apply h.1
      rw [← Char.ofNat_toNat c, ← hmem]
      rfl
    · exact absurd (hc 10 hmem) (by decide)

theorem isAsciiBlank_iff {c : Char} :
    Text.isAsciiBlank c = true ↔ c.toNat = 32 ∨ (9 ≤ c.toNat ∧ c.toNat ≤ 13) := by
  simp only [Text.isAsciiBlank, List.contains_iff_mem, List.mem_cons, List.not_mem_nil, or_false]
  constructor
  · rintro (rfl | rfl | rfl | rfl | rfl | rfl) <;> decide
  · intro h
    have number : c.toNat = 32 ∨ c.toNat = 9 ∨ c.toNat = 10 ∨ c.toNat = 11 ∨ c.toNat = 12 ∨
        c.toNat = 13 := by omega
    rw [← Char.ofNat_toNat c]
    rcases number with h | h | h | h | h | h <;> rw [h] <;> decide

theorem isBlank_iff {b : UInt8} : isBlank b = true ↔ b.toNat = 32 ∨ (9 ≤ b.toNat ∧ b.toNat ≤ 13) := by
  simp [isBlank, UInt8.le_iff_toNat_le, ← UInt8.toNat_inj]

/-- Blank bytes are those of ASCII blanks. -/
theorem all_isBlank_encode (s : List Char) :
    (encode s).all isBlank = s.all Text.isAsciiBlank := by
  induction s with
  | nil => rfl
  | cons c s ih =>
    rw [encode_cons, List.all_append, ih, List.all_cons]
    congr 1
    rcases encodeChar_cases c with ⟨hlt, hc⟩ | ⟨hle, hc⟩
    · rw [hc, List.all_cons, List.all_nil, Bool.and_true, Bool.eq_iff_iff, isBlank_iff,
        isAsciiBlank_iff, UInt8.toNat_ofNat', Nat.mod_eq_of_lt (by omega)]
    · -- neither the character nor its bytes are ASCII
      obtain ⟨b, bs, hb⟩ := List.exists_cons_of_ne_nil (String.utf8EncodeChar_ne_nil (c := c))
      have hb80 := hc b (by rw [hb]; exact List.mem_cons_self)
      have not_blank : isBlank b = false := by
        rw [Bool.eq_false_iff, ne_eq, isBlank_iff]
        omega
      have not_ascii : Text.isAsciiBlank c = false := by
        rw [Bool.eq_false_iff, ne_eq, isAsciiBlank_iff]
        omega
      rw [hb, List.all_cons, not_blank, not_ascii, Bool.false_and]

/-- Bytes that hold no line feed go on with the last line. -/
theorem lastLine_append_of_notMem (bs : List UInt8) {cs : List UInt8} (h : 10 ∉ cs) :
    lastLine (bs ++ cs) = lastLine bs ++ cs := by
  have all : ∀ b ∈ cs.reverse, (b != 10) = true := by
    intro b hb
    rw [bne_iff_ne]
    rintro rfl
    exact h (List.mem_reverse.mp hb)
  rw [lastLine, List.reverse_append, List.takeWhile_append_of_pos all, List.reverse_append,
    List.reverse_reverse]
  rfl

@[simp] theorem lastLine_concat (bs : List UInt8) : lastLine (bs ++ [10]) = [] := by
  simp [lastLine]

/-- Behind the last line feed. -/
theorem lastLine_append {bs cs : List UInt8} (hbs : bs = [] ∨ bs.getLast? = some 10)
    (hcs : 10 ∉ cs) : lastLine (bs ++ cs) = cs := by
  have fresh : lastLine bs = [] := by
    rcases hbs with rfl | hlast
    · rfl
    · obtain ⟨ds, rfl⟩ := List.getLast?_eq_some_iff.mp hlast
      exact lastLine_concat ds
  rw [lastLine_append_of_notMem bs hcs, fresh, List.nil_append]

end Utf8
end Literate
