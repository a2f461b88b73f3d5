/-! Texts by their code points. Besides characters these can be halves of surrogate pairs that stand
alone, as escapes in other texts may ask for them. Such a text is like any other, but has no encoding. -/

namespace Literate

/-- a character, or half of a surrogate pair -/
inductive Code where
  | char (c : Char)
  /-- counted from U+D800 -/
  | half (n : Fin 2048)
  deriving DecidableEq, Repr, Inhabited

/-- a text that may hold halves of surrogate pairs -/
abbrev Wording := List Code

/-- the code points of a text without halves -/
def codes (s : String) : Wording := s.toList.map Code.char

instance : Coe Char Code := ⟨Code.char⟩

instance : Coe String Wording := ⟨codes⟩

namespace Code

def toNat : Code → Nat
  | char c => c.toNat
  | half n => 0xD800 + n.val

def ofNat (n : Nat) : Code :=
  if h : 0xD800 ≤ n ∧ n < 0xE000 then half ⟨n - 0xD800, by omega⟩ else char (Char.ofNat n)

/-- belongs to a class of characters, as no half does -/
def is (p : Char → Bool) : Code → Bool
  | char c => p c
  | half _ => false

def isHalf : Code → Bool
  | char _ => false
  | half _ => true

@[simp] theorem is_char (p : Char → Bool) (c : Char) : (char c).is p = p c := rfl

@[simp] theorem isHalf_char (c : Char) : (char c).isHalf = false := rfl

@[simp] theorem toNat_char (c : Char) : (char c).toNat = c.toNat := rfl

theorem ofNat_toNat (c : Code) : ofNat c.toNat = c := by
  cases c with
  | char c =>
    have valid : c.toNat < 0xD800 ∨ 0xDFFF < c.toNat ∧ c.toNat < 0x110000 := c.valid
    rw [toNat, ofNat, dif_neg (by omega), Char.ofNat_toNat]
  | half n =>
    rw [toNat, ofNat, dif_pos (by omega)]
    simp

end Code

@[simp] theorem map_char_inj {s t : List Char} : s.map Code.char = t.map Code.char ↔ s = t :=
  List.map_inj_right fun _ _ => Code.char.inj

@[simp] theorem codes_empty : codes "" = [] := rfl

@[simp] theorem codes_inj {s t : String} : codes s = codes t ↔ s = t := by
  rw [codes, codes, map_char_inj, String.toList_inj]

@[simp] theorem codes_eq_nil {s : String} : codes s = [] ↔ s = "" := codes_inj (t := "")

@[simp] theorem codes_beq (s t : String) : (codes s == codes t) = (s == t) := by
  rw [Bool.eq_iff_iff, beq_iff_eq, beq_iff_eq, codes_inj]

theorem codes_append (s t : String) : codes (s ++ t) = codes s ++ codes t := by
  rw [codes, String.toList_append, List.map_append, codes, codes]

end Literate
