import Mathlib
import Literate.Json.Printer
import Literate.Json.Reader

/-! What is printed for strings and integers is read as the same again, with anything behind a string,
and with a comma or a line break behind an integer. -/

namespace Literate.Json

open Code (char)

theorem hexValue_hexChar {n : Nat} (h : n < 16) : hexValue (char (Text.hexChar n)) = some n := by
  revert n
  decide

theorem hex4_hexText {n : Nat} (h : n < 65536) {t : Wording} (ht : t ≠ []) :
    hex4 ((Text.hexText 4 n).map char ++ t) = some (n, t) := by
  obtain ⟨c, t, rfl⟩ := List.exists_cons_of_ne_nil ht
  have digit (m : Nat) : hexValue (char (Text.hexChar (m % 16))) = some (m % 16) :=
    hexValue_hexChar (Nat.mod_lt m (by omega))
  simp only [Text.hexText, List.nil_append, List.cons_append, List.map_cons, List.map_nil, hex4, digit]
  congr 2
  omega

section

variable {opening t : Wording} {fuel : Nat}

/-- A character is read back from its escape. -/
theorem stringTail_escapeChar (c : Code) (ht : t ≠ []) :
    stringTail opening (fuel + 1) (escapeChar c ++ t) =
      stringTail.push c (stringTail opening fuel t) := by
  unfold escapeChar
  split_ifs with h₁ h₂ h₃ h₄ h₅ h₆ h₇ h₈
  · subst h₁; rfl
  · subst h₂; rfl
  · subst h₃; rfl
  · subst h₄; rfl
  · subst h₅; rfl
  · subst h₆; rfl
  · subst h₇; rfl
  · have alone : isHigh c.toNat = false := by
      simp only [isHigh, Bool.and_eq_false_iff, decide_eq_false_iff_not]
      omega
    have digits : hex4 ((Text.hexText 4 c.toNat).map char ++ t) = some (c.toNat, t) :=
      hex4_hexText (by omega) ht
    simp only [List.cons_append, stringTail, digits, alone, Code.ofNat_toNat]
    rfl
  · -- the character stands for itself
    simp [stringTail, h₂, h₈]

theorem stringTail_escaped (s : Wording) (h : s.length < fuel) :
    stringTail opening fuel (s.flatMap escapeChar ++ char '"' :: t) = .ok (s, t) := by
  induction s generalizing fuel with
  | nil =>
    obtain ⟨fuel, rfl⟩ := Nat.exists_eq_add_one_of_ne_zero (Nat.ne_of_gt h)
    rfl
  | cons c s ih =>
    obtain ⟨fuel, rfl⟩ := Nat.exists_eq_add_one_of_ne_zero (Nat.ne_zero_of_lt h)
    rw [List.flatMap_cons, List.append_assoc, stringTail_escapeChar c (by simp),
      ih (Nat.lt_of_succ_lt_succ h)]
    rfl

theorem length_escapeChar_pos (c : Code) : 0 < (escapeChar c).length := by
  unfold escapeChar
  split_ifs <;> simp

theorem length_le_escaped (s : Wording) : s.length ≤ (s.flatMap escapeChar).length := by
  induction s with
  | nil => rfl
  | cons c s ih =>
    have := length_escapeChar_pos c
    rw [List.flatMap_cons, List.length_append, List.length_cons]
    omega

/-- A string is read back, whatever stands behind it. -/
theorem readString_escaped (s : Wording) :
    readString (s.flatMap escapeChar ++ char '"' :: t) = .ok (s, t) := by
  have := length_le_escaped s
  rw [readString, stringTail_escaped s (by rw [List.length_append, List.length_cons]; omega)]

end

/-- nothing, or what ends a number -/
def Ends (t : Wording) : Prop := ∀ c ∈ t.head?, c = char ',' ∨ c = char '\n'

variable {t : Wording}

theorem Ends.cases (h : Ends t) : t = [] ∨ ∃ u, t = char ',' :: u ∨ t = char '\n' :: u := by
  cases t with
  | nil => exact .inl rfl
  | cons c u =>
    right
    rcases h c rfl with rfl | rfl
    · exact ⟨u, .inl rfl⟩
    · exact ⟨u, .inr rfl⟩

theorem Ends.digits_eq (h : Ends t) : digits t = [] := by
  rcases h.cases with rfl | ⟨u, rfl | rfl⟩ <;> rfl

theorem Ends.fraction_eq (h : Ends t) : fraction t = ([], t) := by
  rcases h.cases with rfl | ⟨u, rfl | rfl⟩ <;> rfl

theorem Ends.exponent_eq (h : Ends t) : exponent t = none := by
  rcases h.cases with rfl | ⟨u, rfl | rfl⟩ <;> rfl

theorem isDigit_of_mem {n : Nat} : ∀ c ∈ Nat.toDigits 10 n, c.isDigit = true :=
  fun _ => Nat.isDigit_of_mem_toDigits (by omega) (by omega)

theorem toDigits_eq_cons (n : Nat) : ∃ c ds, Nat.toDigits 10 n = c :: ds ∧ c.isDigit = true := by
  obtain ⟨c, ds, hd⟩ := List.exists_cons_of_ne_nil (Nat.toDigits_ne_nil (n := n) (b := 10))
  exact ⟨c, ds, hd, isDigit_of_mem (n := n) c (by simp [hd])⟩

theorem ne_of_isDigit {c d : Char} (hc : c.isDigit = true) (hd : d.isDigit = false) : c ≠ d := by
  rintro rfl
  simp [hc] at hd

theorem natOf_toDigits (n : Nat) : natOf ((Nat.toDigits 10 n).map char) = n :=
  calc natOf ((Nat.toDigits 10 n).map char) = Nat.ofDigitChars 10 (Nat.toDigits 10 n) 0 := by
        simp only [natOf, List.foldl_map, Nat.ofDigitChars, mul_comm]
        rfl
    _ = n := Nat.ofDigitChars_toDigits (by omega) (by omega)

/-- No number but zero starts with a zero. -/
theorem head?_toDigits_ne {n : Nat} (h : 0 < n) : (Nat.toDigits 10 n).head? ≠ some '0' := by
  induction n using Nat.strong_induction_on with
  | _ n ih =>
    rw [Nat.toDigits_eq_if (by omega)]
    split
    · next hlt =>
      interval_cases n <;> decide
    · have before := ih (n / 10) (by omega) (by omega)
      obtain ⟨c, ds, hd, -⟩ := toDigits_eq_cons (n / 10)
      rw [hd] at before ⊢
      exact before

theorem digits_toDigits (h : Ends t) (n : Nat) :
    digits ((Nat.toDigits 10 n).map char ++ t) = (Nat.toDigits 10 n).map char := by
  have rest : t.takeWhile (·.is Char.isDigit) = [] := h.digits_eq
  have all : ∀ c ∈ (Nat.toDigits 10 n).map char, c.is Char.isDigit = true :=
    List.forall_mem_map.mpr isDigit_of_mem
  rw [digits, List.takeWhile_append_of_pos all, rest, List.append_nil]

theorem magnitude_toDigits (h : Ends t) (negative : Bool) (n : Nat) :
    magnitude negative ((Nat.toDigits 10 n).map char ++ t) =
      some (.int (if negative then -(n : Int) else n), t) := by
  have number := natOf_toDigits n
  have taken := digits_toDigits h n
  rcases Nat.eq_zero_or_pos n with rfl | hn
  · have zero : natOf [char '0'] = 0 := rfl
    simp [magnitude, h.fraction_eq, h.exponent_eq, zero]
  · obtain ⟨c, ds, hd, -⟩ := toDigits_eq_cons n
    have hc : c ≠ '0' := by simpa [hd] using head?_toDigits_ne hn
    rw [hd, List.map_cons] at number taken ⊢
    rw [List.cons_append] at taken
    simp [magnitude, hc, taken, h.fraction_eq, h.exponent_eq, number]

/-- No word starts with a digit, nor with a sign and a digit. -/
theorem find?_words {c : Char} (hc : c.isDigit = true) (s : Wording) :
    words.find? (fun w => (codes w.1).isPrefixOf (char c :: s)) = none ∧
      words.find? (fun w => (codes w.1).isPrefixOf (char '-' :: char c :: s)) = none := by
  have other {d : Char} (hd : d.isDigit = false) : d ≠ c := (ne_of_isDigit hc hd).symm
  constructor <;> simp [words, codes, other]

/-- An integer is read back in front of what ends a number. -/
theorem scalar_int (h : Ends t) (n : Int) : scalar (codes (toString n) ++ t) = .ok (.int n, t) := by
  rw [Int.toString_eq_repr, Int.repr_eq_if]
  split
  · next hn =>
    obtain ⟨c, ds, hd, hc⟩ := toDigits_eq_cons n.toNat
    have number := magnitude_toDigits h false n.toNat
    have unworded := (find?_words hc (ds.map char ++ t)).1
    have unsigned : c ≠ '-' := ne_of_isDigit hc rfl
    rw [codes, Nat.toList_repr]
    rw [hd, List.map_cons, List.cons_append] at number ⊢
    simp [scalar, unworded, unsigned, number, hn]
  · next hn =>
    obtain ⟨c, ds, hd, hc⟩ := toDigits_eq_cons (-n).toNat
    have number := magnitude_toDigits h true (-n).toNat
    have unworded := (find?_words hc (ds.map char ++ t)).2
    have sign : codes ("-" ++ (-n).toNat.repr) =
        char '-' :: (Nat.toDigits 10 (-n).toNat).map char := by
      rw [codes, String.toList_append, Nat.toList_repr]
      rfl
    rw [sign]
    rw [hd, List.map_cons, List.cons_append] at number ⊢
    rw [List.cons_append]
    simp [scalar, unworded, number]
    omega

theorem toString_eq_cons (n : Int) :
    ∃ c u, codes (toString n) = char c :: u ∧ (c.isDigit = true ∨ c = '-') := by
  rw [Int.toString_eq_repr, Int.repr_eq_if]
  split
  · obtain ⟨c, ds, hd, hc⟩ := toDigits_eq_cons n.toNat
    exact ⟨c, ds.map char, by rw [codes, Nat.toList_repr, hd]; rfl, .inl hc⟩
  · exact ⟨'-', codes (-n).toNat.repr, by rw [codes_append]; rfl, .inr rfl⟩

end Literate.Json
