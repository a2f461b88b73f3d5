import Mathlib.Data.Nat.Digits.Defs
import Mathlib.Tactic.IntervalCases
import Literate.Anchor
import Literate.Proofs.Basic

/-! What an anchor tells of its symbol. The code behind a percent sign has no end mark: its last digits
may as well be digits of the symbol. A reader that takes as few digits as it can finds the symbol with
each long code shortened, and two symbols have one anchor just where these readings agree. -/

namespace Literate.Anchor

/-- written with a percent sign -/
def Escaped (c : Char) : Prop := isSafe c = false ∧ c ≠ ' '

instance (c : Char) : Decidable (Escaped c) := inferInstanceAs (Decidable (_ ∧ _))

/-- the digit of a value below 16 -/
def digit (d : Nat) : Char := d.digitChar.toUpper

/-- the value of a digit -/
def valueOf (c : Char) : Nat := if c.isDigit then c.toNat - 48 else c.toNat - 55

/-- A code in as few digits as its first ones allow, and the other digits as they are: two digits, or
three where two would be those of a character that is not escaped. -/
def shorten (n : Nat) : List Char :=
  if n < 0x100 ∨ (n < 0x1000 ∧ ¬ Escaped (Char.ofNat (n / 16))) then [Char.ofNat n]
  else shorten (n / 16) ++ [digit (n % 16)]
termination_by n

/-- what the anchor of a character is the shortest reading of -/
def narrow (c : Char) : List Char := if Escaped c then shorten c.toNat else [c]

/-- reads an anchor with as few digits behind each percent sign as there can be -/
def read : List Char → List Char
  | [] => []
  | c :: s =>
    if c = '+' then ' ' :: read s
    else if c = '%' then
      match s with
      | a :: b :: s =>
        let n := 16 * valueOf a + valueOf b
        if Escaped (Char.ofNat n) then Char.ofNat n :: read s
        else
          match s with
          | d :: s => Char.ofNat (16 * n + valueOf d) :: read s
          | [] => []
      | _ => []
    else c :: read s

section

variable {c : Char} {d n : Nat} {s : List Char}

theorem valueOf_digit (h : d < 16) : valueOf (digit d) = d := by
  interval_cases d <;> decide

theorem isSafe_digit (h : d < 16) : isSafe (digit d) = true := by
  interval_cases d <;> decide

theorem digit_ne (h : d < 16) : digit d ≠ '+' ∧ digit d ≠ '%' := by
  interval_cases d <;> decide

theorem hexText_of_lt (h : n < 0x100) : hexText n = [digit (n / 16), digit (n % 16)] := by
  unfold hexText
  rcases lt_or_ge n 16 with small | large
  · rw [Nat.toDigits_of_lt_base small, Nat.div_eq_of_lt small, Nat.mod_eq_of_lt small]
    rfl
  · rw [Nat.toDigits_of_base_le (by decide) large, Nat.toDigits_of_lt_base (by omega)]
    rfl

theorem hexText_of_ge (h : 0x100 ≤ n) : hexText n = hexText (n / 16) ++ [digit (n % 16)] := by
  have long : 2 ≤ (Nat.toDigits 16 (n / 16)).length := by
    rw [Nat.toDigits_of_base_le (by decide) (by omega), List.length_append]
    have := List.length_pos_iff.mpr (Nat.toDigits_ne_nil (n := n / 16 / 16) (b := 16))
    simp only [List.length_singleton]
    omega
  unfold hexText
  rw [Nat.toDigits_of_base_le (by decide) (by omega : 16 ≤ n), List.map_append]
  simp only [List.length_append, List.length_map]
  rw [if_neg (by omega), if_neg (by omega)]
  rfl

theorem lt_of_isAlphanum (h : c.isAlphanum = true) : c.toNat < 0x80 := by
  have under {b : UInt32} (h : c.val ≤ b) (hb : b.toNat < 0x80) : c.toNat < 0x80 :=
    (UInt32.le_iff_toNat_le.mp h).trans_lt hb
  rcases Bool.or_eq_true_iff.mp h with letter | number
  · rcases Bool.or_eq_true_iff.mp letter with upper | lower
    · exact under (of_decide_eq_true upper).2 (by decide)
    · exact under (of_decide_eq_true (Bool.and_eq_true_iff.mp lower).2) (by decide)
  · exact under (of_decide_eq_true (Bool.and_eq_true_iff.mp number).2) (by decide)

theorem escaped_of_ge (h : 0x80 ≤ c.toNat) : Escaped c := by
  constructor
  · rw [isSafe, Bool.or_eq_false_iff, Bool.eq_false_iff, Bool.eq_false_iff]
    refine ⟨fun letter => h.not_gt (lt_of_isAlphanum letter), fun sign => ?_⟩
    have sign : c = '-' ∨ c = '_' ∨ c = '.' ∨ c = '/' ∨ c = '~' := by
      simpa using List.contains_iff_mem.mp sign
    rcases sign with rfl | rfl | rfl | rfl | rfl <;> exact absurd h (by decide)
  · rintro rfl
    exact absurd h (by decide)

/-- What is left of a code that is shortened stands for an escaped character again. -/
theorem escaped_of_long (long : ¬ (n < 0x100 ∨ (n < 0x1000 ∧ ¬ Escaped (Char.ofNat (n / 16)))))
    (two : n / 16 < 0x100) : Escaped (Char.ofNat (n / 16)) := by
  by_contra plain
  exact long (.inr ⟨by omega, plain⟩)

theorem read_nil : read [] = [] := by
  rw [read.eq_def]

theorem read_plus (s : List Char) : read ('+' :: s) = ' ' :: read s := by
  rw [read.eq_def]
  rfl

theorem read_cons (plain : c ≠ '+' ∧ c ≠ '%') (s : List Char) : read (c :: s) = c :: read s := by
  rw [read.eq_def]
  dsimp only
  rw [if_neg plain.1, if_neg plain.2]

theorem read_two {a b : Char} (code : 16 * valueOf a + valueOf b = n)
    (escaped : Escaped (Char.ofNat n)) (s : List Char) :
    read ('%' :: a :: b :: s) = Char.ofNat n :: read s := by
  rw [read.eq_def]
  dsimp only
  rw [code, if_pos escaped]
  rfl

theorem read_three {a b d : Char} (code : 16 * valueOf a + valueOf b = n)
    (plain : ¬ Escaped (Char.ofNat n)) (s : List Char) :
    read ('%' :: a :: b :: d :: s) = Char.ofNat (16 * n + valueOf d) :: read s := by
  rw [read.eq_def]
  dsimp only
  rw [code, if_neg plain]
  rfl

/-- Reading back what a code is written as: a code that is shortened is read as its first digits, the
others as characters of the symbol. -/
theorem read_hexText (h : n < 0x100 → Escaped (Char.ofNat n)) (s : List Char) :
    read ('%' :: (hexText n ++ s)) = shorten n ++ read s := by
  fun_induction shorten n generalizing s with
  | case1 n short =>
    rcases lt_or_ge n 0x100 with two | three
    · have value : 16 * valueOf (digit (n / 16)) + valueOf (digit (n % 16)) = n := by
        rw [valueOf_digit (by omega), valueOf_digit (by omega)]
        omega
      rw [hexText_of_lt two, List.cons_append, List.singleton_append, read_two value (h two)]
      rfl
    · obtain ⟨small, plain⟩ := short.resolve_left three.not_gt
      have value : 16 * valueOf (digit (n / 16 / 16)) + valueOf (digit (n / 16 % 16)) = n / 16 := by
        rw [valueOf_digit (by omega), valueOf_digit (by omega)]
        omega
      have whole : 16 * (n / 16) + valueOf (digit (n % 16)) = n := by
        rw [valueOf_digit (by omega)]
        omega
      rw [hexText_of_ge three, hexText_of_lt (by omega), List.append_assoc, List.cons_append,
        List.cons_append, List.nil_append, List.singleton_append, read_three value plain, whole]
      rfl
  | case2 n long ih =>
    have three : 0x100 ≤ n := not_lt.mp (not_or.mp long).1
    have digit_plain : digit (n % 16) ≠ '+' ∧ digit (n % 16) ≠ '%' := digit_ne (by omega)
    rw [hexText_of_ge three, List.append_assoc, List.singleton_append, ih (escaped_of_long long),
      List.append_assoc, List.singleton_append, read_cons digit_plain]

theorem read_encodeChar (c : Char) (s : List Char) :
    read (encodeChar c ++ s) = narrow c ++ read s := by
  unfold encodeChar narrow
  by_cases safe : isSafe c = true
  · have plain : c ≠ '+' ∧ c ≠ '%' := by
      constructor <;> rintro rfl <;> exact absurd safe (by decide)
    rw [if_pos safe, if_neg (by simp [Escaped, safe]), List.singleton_append, read_cons plain]
    rfl
  · rw [if_neg safe]
    by_cases blank : c = ' '
    · rw [if_pos blank, if_neg (by simp [Escaped, blank]), List.singleton_append, read_plus, blank]
      rfl
    · have escaped : Escaped c := ⟨by simpa using safe, blank⟩
      rw [if_neg blank, if_pos escaped, List.cons_append, read_hexText]
      intro _
      rwa [Char.ofNat_toNat]

theorem read_encode (s : List Char) : read (encode s) = s.flatMap narrow := by
  induction s with
  | nil => rw [encode, List.flatMap_nil, read_nil, List.flatMap_nil]
  | cons c s ih => rw [encode, List.flatMap_cons, read_encodeChar, ← encode, ih, List.flatMap_cons]

theorem encode_append (s t : List Char) : encode (s ++ t) = encode s ++ encode t :=
  List.flatMap_append

theorem encode_shorten (h : n < 0x100 → Escaped (Char.ofNat n)) :
    encode (shorten n) = '%' :: hexText n := by
  fun_induction shorten n with
  | case1 n short =>
    have code : (Char.ofNat n).toNat = n := toNat_ofNat (.inl (by omega))
    have escaped : Escaped (Char.ofNat n) := by
      rcases lt_or_ge n 0x100 with two | three
      · exact h two
      · exact escaped_of_ge (by omega)
    rw [encode, List.flatMap_singleton, encodeChar, if_neg (by simp [escaped.1]),
      if_neg escaped.2, code]
  | case2 n long ih =>
    have three : 0x100 ≤ n := not_lt.mp (not_or.mp long).1
    have last : encode [digit (n % 16)] = [digit (n % 16)] := by
      rw [encode, List.flatMap_singleton, encodeChar, if_pos (isSafe_digit (by omega))]
    rw [encode_append, ih (escaped_of_long long), last, hexText_of_ge three, List.cons_append]

theorem encode_narrow (c : Char) : encode (narrow c) = encodeChar c := by
  unfold narrow
  split
  · next escaped =>
    rw [encode_shorten fun _ => by rwa [Char.ofNat_toNat], encodeChar, if_neg (by simp [escaped.1]),
      if_neg escaped.2]
  · exact List.flatMap_singleton ..

theorem encode_flatMap_narrow (s : List Char) : encode (s.flatMap narrow) = encode s := by
  rw [encode, List.flatMap_assoc]
  exact congrArg (s.flatMap ·) (funext encode_narrow)

/-- Anchors tell of a symbol what it is with its codes shortened, no less and no more. -/
theorem encode_eq_iff (s t : List Char) :
    encode s = encode t ↔ s.flatMap narrow = t.flatMap narrow := by
  constructor
  · intro h
    rw [← read_encode, ← read_encode, h]
  · intro h
    rw [← encode_flatMap_narrow s, h, encode_flatMap_narrow]

end

theorem shorten_eq_singleton {n : Nat} {c : Char} (h : shorten n = [c]) :
    n < 0x100 ∨ (n < 0x1000 ∧ ¬ Escaped (Char.ofNat (n / 16))) := by
  have filled (m : Nat) : shorten m ≠ [] := by
    rw [shorten]
    split <;> simp
  rw [shorten] at h
  split at h
  · next short => exact short
  · obtain ⟨x, xs, first⟩ := List.exists_cons_of_ne_nil (filled (n / 16))
    rw [first, List.cons_append, List.cons.injEq] at h
    exact absurd h.2 (by simp)

/-- A character is short if it is not escaped, or its code has two digits, or three of which the first
two are no code of an escaped character. -/
def Short (c : Char) : Prop :=
  Escaped c → c.toNat < 0x100 ∨ (c.toNat < 0x1000 ∧ ¬ Escaped (Char.ofNat (c.toNat / 16)))

theorem narrow_eq_self_iff {c : Char} : narrow c = [c] ↔ Short c := by
  unfold narrow Short
  by_cases escaped : Escaped c
  · rw [if_pos escaped]
    refine ⟨fun h _ => shorten_eq_singleton h, fun short => ?_⟩
    rw [shorten, if_pos (short escaped), Char.ofNat_toNat]
  · rw [if_neg escaped]
    exact iff_of_true rfl fun h => absurd h escaped

theorem flatMap_narrow_of_short {s : List Char} (h : ∀ c ∈ s, Short c) : s.flatMap narrow = s := by
  induction s with
  | nil => rfl
  | cons c s ih =>
    obtain ⟨hc, hs⟩ := List.forall_mem_cons.mp h
    rw [List.flatMap_cons, narrow_eq_self_iff.mpr hc, ih hs]
    rfl

/-- Two symbols have one anchor just where they are the same once their codes are shortened, so the
anchors of different symbols differ if all their characters are short. -/
theorem ofSymbol_eq_iff (s t : String) :
    (ofSymbol s = ofSymbol t ↔ s.toList.flatMap narrow = t.toList.flatMap narrow) ∧
      ((∀ c ∈ s.toList ++ t.toList, Short c) → (ofSymbol s = ofSymbol t ↔ s = t)) := by
  have exact : ofSymbol s = ofSymbol t ↔ s.toList.flatMap narrow = t.toList.flatMap narrow := by
    rw [ofSymbol, ofSymbol, String.ofList_inj, encode_eq_iff]
  refine ⟨exact, fun short => ?_⟩
  obtain ⟨hs, ht⟩ := List.forall_mem_append.mp short
  rw [exact, flatMap_narrow_of_short hs, flatMap_narrow_of_short ht, String.toList_inj]

/-- A letter of three digits, and one of two digits with a digit behind it. -/
theorem ofSymbol_three_digits : "ກ" ≠ "è1" ∧ ofSymbol "ກ" = ofSymbol "è1" := by
  decide +kernel

end Literate.Anchor
