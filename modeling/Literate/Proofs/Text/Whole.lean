import Literate.Proofs.Text.Utf8
import Literate.Text.Blank

/-! Texts without halves of surrogate pairs. These are the ones that have an encoding, and what is put
together from such texts is such a text again. -/

namespace Literate

/-- no code point of the text is a half -/
def Whole (w : Wording) : Prop := ∀ c ∈ w, c.isHalf = false

section

variable {v w : Wording} {c : Code}

@[simp] theorem whole_nil : Whole [] := by simp [Whole]

@[simp] theorem whole_cons : Whole (c :: w) ↔ c.isHalf = false ∧ Whole w := List.forall_mem_cons

@[simp] theorem whole_append : Whole (v ++ w) ↔ Whole v ∧ Whole w := List.forall_mem_append

@[simp] theorem whole_map_char (s : List Char) : Whole (s.map Code.char) :=
  List.forall_mem_map.mpr fun _ _ => rfl

@[simp] theorem whole_codes (s : String) : Whole (codes s) := whole_map_char _

theorem Whole.subset (h : Whole w) (hv : v ⊆ w) : Whole v := fun c hc => h c (hv hc)

theorem Whole.flatMap {f : Code → Wording} (h : Whole w) (hf : ∀ c, c.isHalf = false → Whole (f c)) :
    Whole (w.flatMap f) := by
  intro d hd
  obtain ⟨c, hc, hd⟩ := List.mem_flatMap.mp hd
  exact hf c (h c hc) d hd

theorem Whole.joinWith {ws : List Wording} (hv : Whole v) (h : ∀ w ∈ ws, Whole w) :
    Whole (Text.joinWith v ws) := by
  fun_induction Text.joinWith v ws with
  | case1 => exact whole_nil
  | case2 w => exact h w List.mem_cons_self
  | case3 w u ws ih =>
    obtain ⟨hw, hws⟩ := List.forall_mem_cons.mp h
    simp only [whole_append]
    exact ⟨⟨hw, hv⟩, ih hws⟩

end

theorem whole_iff {w : Wording} : Whole w ↔ ∃ s : List Char, w = s.map Code.char := by
  constructor
  · intro h
    induction w with
    | nil => exact ⟨[], rfl⟩
    | cons c w ih =>
      rw [whole_cons] at h
      obtain ⟨s, rfl⟩ := ih h.2
      cases c with
      | char c => exact ⟨c :: s, rfl⟩
      | half n => cases h.1
  · rintro ⟨s, rfl⟩
    exact whole_map_char s

/-- A text has an encoding just where it is whole. -/
theorem Utf8.encodeCodes_eq_error_iff {w : Wording} : (∃ e, encodeCodes w = .error e) ↔ ¬ Whole w := by
  rw [whole_iff]
  cases h : encodeCodes w with
  | ok bytes =>
    obtain ⟨s, rfl, -⟩ := encodeCodes_eq_ok_iff.mp h
    simp
  | error e =>
    have none_fits : ¬ ∃ s : List Char, w = s.map Code.char := by
      rintro ⟨s, rfl⟩
      rw [encodeCodes_map_char] at h
      cases h
    simp [none_fits]

end Literate
