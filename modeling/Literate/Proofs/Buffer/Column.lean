import Literate.Proofs.Buffer.Place
import Literate.Proofs.Text.Utf8

/-! The column at a byte offset of a line: as many characters as have their bytes in front of the offset,
and no character of which a byte is missing. A strict reading stops at a character that is cut off, and a
reading that leaves out what is no text finds the characters in front of it. -/

namespace Literate

namespace Utf8

/-- the characters that are read in bytes; what is no text is left out -/
def readable (bytes : List UInt8) : List Char :=
  match bytes with
  | [] => []
  | a :: rest =>
    match (step a rest).read with
    | .ok c => c :: readable (rest.drop (step a rest).more)
    | .error _ => readable (rest.drop (step a rest).more)
termination_by bytes.length
decreasing_by all_goals simp only [List.length_drop, List.length_cons]; omega

variable {a : UInt8} {rest : List UInt8} {c : Char} {n j : Nat}

/-- The bytes of a character that is cut off are one fault, up to the end. -/
theorem step_take (h : step a rest = ⟨.ok c, n⟩) (hj : j < n) :
    step a (rest.take j) = ⟨.error .truncated, j⟩ := by
  revert h
  fun_cases step a rest with
  | case1 =>
    intro h
    obtain ⟨-, rfl⟩ := Step.mk.inj h
    exact absurd hj (Nat.not_lt_zero j)
  | case5 one first b rest second two =>
    intro h
    obtain ⟨-, rfl⟩ := Step.mk.inj h
    obtain rfl : j = 0 := by omega
    rw [List.take_zero, step.eq_def, if_neg one, if_neg first]
  | case8 one first b second two c rest third three =>
    intro h
    obtain ⟨-, rfl⟩ := Step.mk.inj h
    rw [step.eq_def, if_neg one, if_neg first]
    obtain rfl | rfl : j = 0 ∨ j = 1 := by omega
    · rfl
    · simp only [List.take_succ_cons, List.take_zero, if_neg second, if_neg two]
  | case11 one first b second two c third three d rest fourth =>
    intro h
    obtain ⟨-, rfl⟩ := Step.mk.inj h
    rw [step.eq_def, if_neg one, if_neg first]
    obtain rfl | rfl | rfl : j = 0 ∨ j = 1 ∨ j = 2 := by omega
    · rfl
    · simp only [List.take_succ_cons, List.take_zero, if_neg second, if_neg two]
    · simp only [List.take_succ_cons, List.take_zero, if_neg second, if_neg two, if_neg third,
        if_neg three]
  | _ =>
    intro h
    cases h

theorem readable_nil : readable [] = [] := by rw [readable]

theorem readable_ok (h : step a rest = ⟨.ok c, n⟩) :
    readable (a :: rest) = c :: readable (rest.drop n) := by
  rw [readable, h]

theorem readable_error {e : Fault} (h : step a rest = ⟨.error e, n⟩) :
    readable (a :: rest) = readable (rest.drop n) := by
  rw [readable, h]

/-- In the bytes of a text up to some offset stand the characters that fit. -/
theorem readable_take (line : List Char) (b : Nat) :
    readable ((encode line).take b) = line.take (Buffer.fits line b) := by
  induction line generalizing b with
  | nil => rw [encode, List.flatMap_nil, List.take_nil, readable_nil, List.take_nil]
  | cons c line ih =>
    rw [encode_cons, List.take_append, String.length_utf8EncodeChar, Buffer.fits]
    split_ifs with hfit
    · obtain ⟨a, ts, hc, hs⟩ := step_encode c ((encode line).take (b - c.utf8Size))
      have whole : (String.utf8EncodeChar c).take b = a :: ts := by
        rw [← hc, List.take_of_length_le ((String.length_utf8EncodeChar c).trans_le hfit)]
      rw [whole, List.cons_append, readable_ok hs, List.drop_left, ih, List.take_succ_cons]
    · obtain ⟨a, ts, hc, hs⟩ := step_encode c []
      have size := congrArg List.length hc
      rw [String.length_utf8EncodeChar, List.length_cons] at size
      rw [List.append_nil] at hs
      rw [show b - c.utf8Size = 0 by omega, List.take_zero, List.append_nil, hc, List.take_zero]
      cases b with
      | zero => rw [List.take_zero, readable_nil]
      | succ b =>
        -- what is there of the character is skipped to the end
        have cut := step_take hs (j := b) (by omega)
        rw [List.take_succ_cons, readable_error cut, List.drop_eq_nil_of_le (List.length_take_le _ _),
          readable_nil]

end Utf8

namespace Buffer

theorem byteLength_take_fits (line : List Char) (b : Nat) :
    byteLength (line.take (fits line b)) ≤ b := by
  fun_induction fits line b with
  | case1 => exact Nat.zero_le _
  | case2 c line b hfit ih =>
    rw [List.take_succ_cons, byteLength_cons]
    omega
  | case3 => exact Nat.zero_le _

theorem fits_mono (line : List Char) : Monotone (fits line) := by
  intro b b' h
  induction line generalizing b b' with
  | nil => exact le_rfl
  | cons c line ih =>
    rw [fits, fits]
    split_ifs with hfit hfit'
    · exact Nat.succ_le_succ (ih (by omega))
    · omega
    · exact Nat.zero_le _
    · exact le_rfl

theorem length_encode_take (line : List Char) (k : Nat) :
    (Utf8.encode (line.take k)).length = byteLength (line.take k) :=
  Utf8.length_encode _

/-- Of the columns whose characters have their bytes in front of the offset it is the greatest. -/
theorem isGreatest_fits (line : List Char) (b : Nat) :
    IsGreatest {k | k ≤ line.length ∧ byteLength (line.take k) ≤ b} (fits line b) := by
  refine ⟨⟨fits_le_length line b, byteLength_take_fits line b⟩, ?_⟩
  rintro k ⟨hk, hb⟩
  calc k = fits line (byteLength (line.take k)) := (fits_byteLength hk).symm
    _ ≤ fits line b := fits_mono line hb

/-- Between the first byte of a character and the first one behind it the column is that of the
character. -/
theorem fits_inside {line : List Char} {k b : Nat} (hk : k < line.length)
    (hb : byteLength (line.take k) ≤ b) (hb' : b < byteLength (line.take (k + 1))) :
    fits line b = k := by
  have least := (isGreatest_fits line b).2 ⟨hk.le, hb⟩
  have front := byteLength_take_fits line b
  refine le_antisymm ?_ least
  by_contra hlt
  have more := (byteLength_take_le_iff (i := k + 1) hk (fits_le_length line b)).mpr (by omega)
  omega

/-- The column at a byte offset is the number of characters that are read in the bytes in front of it,
and the greatest number of characters whose bytes stand there. So it grows with the offset, the offset
behind some characters leads back to their number, and one inside a character to the start of that. -/
theorem columnOfByte_floor (line : List Char) :
    (∀ b : Nat, columnOfByte line b = (Utf8.readable ((Utf8.encode line).take b)).length ∧
      IsGreatest {k | k ≤ line.length ∧ (Utf8.encode (line.take k)).length ≤ b}
        (columnOfByte line b)) ∧
    Monotone (fun b : Nat => columnOfByte line b) ∧
    (∀ k, columnOfByte line (Utf8.encode (line.take k)).length = min k line.length) ∧
    ∀ (k b : Nat), k < line.length → (Utf8.encode (line.take k)).length ≤ b →
      b < (Utf8.encode (line.take (k + 1))).length → columnOfByte line b = k := by
  simp only [columnOfByte_natCast, length_encode_take]
  refine ⟨fun b => ⟨?_, isGreatest_fits line b⟩, fits_mono line, fun k => ?_, fun k b => fits_inside⟩
  · rw [Utf8.readable_take, List.length_take_of_le (fits_le_length line b)]
  · rw [List.take_eq_take_min, fits_byteLength (min_le_right _ _)]

/-- a character of one byte, and one of four that is cut at every place -/
example : ((List.range 7).map fun b => columnOfByte ['a', '𝄞', 'b'] (b : Nat)) = [0, 1, 1, 1, 1, 2, 3] := by
  decide

end Buffer
end Literate
