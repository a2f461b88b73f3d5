import Literate.Proofs.Render.Escape

/-! Escaping as a series of replacements, each in the whole text. The order counts: the ampersand goes
first, as all entities have one; in a literal the backslash goes before what brings in more of them, and
the dollar sign is looked at with the brace behind it once no other step puts anything between the two. -/

namespace Literate.Escape

open Code (char)

/-- the whole text with another one in place of each `c` -/
def replaceAll (c : Code) (other : String) (s : Wording) : Wording :=
  s.flatMap fun d => if d = c then codes other else [d]

theorem replaceAll_other {c d : Code} {other : String} (h : d ≠ c) : replaceAll c other [d] = [d] := by
  rw [replaceAll, List.flatMap_singleton, if_neg h]

theorem replaceAll_eq (c : Code) (other : String) (s : Wording) :
    replaceAll c other s = s.flatMap fun d => replaceAll c other [d] := by
  simp only [replaceAll, List.flatMap_singleton]

theorem replaceAll_flatMap (c : Code) (other : String) (f : Code → Wording) (s : Wording) :
    replaceAll c other (s.flatMap f) = s.flatMap fun d => replaceAll c other (f d) :=
  List.flatMap_assoc

/-- the whole text with a backslash in front of each dollar sign that an opening brace follows -/
def guardOpenings : Wording → Wording
  | char '$' :: char '\x7b' :: s => char '\\' :: char '$' :: char '\x7b' :: guardOpenings s
  | c :: s => c :: guardOpenings s
  | [] => []

/-- Five replacements, the ampersand first. -/
theorem html_eq_replaceAll (s : Wording) :
    html s = replaceAll '\'' "&#39;" (replaceAll '"' "&quot;" (replaceAll '>' "&gt;"
      (replaceAll '<' "&lt;" (replaceAll '&' "&amp;" s)))) := by
  rw [replaceAll_eq '&', html]
  simp only [replaceAll_flatMap]
  refine List.flatMap_congr fun c _ => ?_
  unfold htmlChar entity?
  split
  case h_6 h₁ h₂ h₃ h₄ h₅ =>
    rw [replaceAll_other h₁, replaceAll_other h₂, replaceAll_other h₃, replaceAll_other h₄, replaceAll_other h₅]
    rfl
  all_goals rfl

theorem attributeValue_eq_replaceAll (s : Wording) :
    attributeValue s = replaceAll '\x7d' "\\\x7d" (replaceAll '\x7b' "\\\x7b" (replaceAll '\t' "\\t"
      (html s))) := by
  rw [html, attributeValue]
  simp only [replaceAll_flatMap]
  refine List.flatMap_congr fun c _ => ?_
  unfold attributeChar
  split_ifs with h₁ h₂
  · rw [h₁]
    rfl
  · rcases h₂ with rfl | rfl <;> rfl
  · rw [not_or] at h₂
    unfold htmlChar entity?
    split
    case h_6 =>
      rw [Option.getD_none, replaceAll_other h₁, replaceAll_other h₂.1, replaceAll_other h₂.2]
    all_goals rfl

/-- a character after all steps in front of the one for dollar signs -/
def guardChar (c : Code) : Wording :=
  if c = char '\\' ∨ c = char '\x60' then [char '\\', c] else markupChar c

theorem flatMap_guardChar (s : Wording) :
    s.flatMap guardChar = replaceAll '\x60' "\\\x60" (replaceAll '\\' "\\\\" (replaceAll '>' "&gt;"
      (replaceAll '<' "&lt;" (replaceAll '&' "&amp;" s)))) := by
  rw [replaceAll_eq '&']
  simp only [replaceAll_flatMap]
  refine List.flatMap_congr fun c _ => ?_
  unfold guardChar markupChar
  split_ifs with h₁ h₂
  · rcases h₁ with rfl | rfl <;> rfl
  · rcases h₂ with rfl | rfl | rfl <;> rfl
  · rw [not_or] at h₁
    rw [not_or, not_or] at h₂
    rw [replaceAll_other h₂.1, replaceAll_other h₂.2.1, replaceAll_other h₂.2.2, replaceAll_other h₁.1,
      replaceAll_other h₁.2]

theorem guardOpenings_append {u : Wording} (hu : char '$' ∉ u) (t : Wording) :
    guardOpenings (u ++ t) = u ++ guardOpenings t := by
  induction u with
  | nil => rfl
  | cons c u ih =>
    rw [List.mem_cons, not_or] at hu
    rw [List.cons_append, guardOpenings, ih hu.2, List.cons_append]
    exact fun _ h => absurd h.symm hu.1

theorem eq_of_guardChar_cons {c d : Code} {t u : Wording} (h : guardChar c ++ t = d :: u)
    (hd : d ≠ char '\\') (hd' : d ≠ char '&') : c = d := by
  unfold guardChar markupChar at h
  split_ifs at h with h₁ h₂
  · exact absurd (List.cons.inj h).1.symm hd
  · rcases h₂ with rfl | rfl | rfl <;> exact absurd (List.cons.inj h).1.symm hd'
  · exact (List.cons.inj h).1

theorem guardOpenings_guardChar {c : Code} {s : Wording}
    (h : ∀ t, c = char '$' → s = char '\x7b' :: t → False) :
    guardOpenings (guardChar c ++ s.flatMap guardChar) =
      guardChar c ++ guardOpenings (s.flatMap guardChar) := by
  by_cases hc : c = char '$'
  · subst hc
    change guardOpenings (char '$' :: s.flatMap guardChar) =
      char '$' :: guardOpenings (s.flatMap guardChar)
    rw [guardOpenings]
    -- what follows starts with a brace only if the text does
    intro u _ hu
    cases s with
    | nil => simp at hu
    | cons d s =>
      rw [List.flatMap_cons] at hu
      exact h s rfl (congrArg (· :: s) (eq_of_guardChar_cons hu (by decide) (by decide)))
  · refine guardOpenings_append ?_ _
    unfold guardChar markupChar
    split_ifs with h₁ h₂
    · rcases h₁ with rfl | rfl <;> decide
    · rcases h₂ with rfl | rfl | rfl <;> decide
    · simpa using Ne.symm hc

/-- Eight replacements, one of them of two characters at once -/
theorem template_eq_replaceAll (s : Wording) :
    template s = replaceAll '\r' "\\r" (replaceAll '\t' "\\t" (guardOpenings
      (replaceAll '\x60' "\\\x60" (replaceAll '\\' "\\\\" (replaceAll '>' "&gt;"
        (replaceAll '<' "&lt;" (replaceAll '&' "&amp;" s))))))) := by
  rw [← flatMap_guardChar]
  fun_induction template s with
  | case1 => rfl
  | case2 s ih =>
    rw [ih]
    rfl
  | case3 c s hne ih =>
    have here : templateChar c = replaceAll '\r' "\\r" (replaceAll '\t' "\\t" (guardChar c)) := by
      unfold templateChar
      split_ifs with h₁ h₂ h₃ h₄
      · rcases h₁ with rfl | rfl | rfl <;> rfl
      · rcases h₂ with rfl | rfl <;> rfl
      · rw [h₃]
        rfl
      · rw [h₄]
        rfl
      · have plain : guardChar c = [c] := by rw [guardChar, if_neg h₂, markupChar, if_neg h₁]
        rw [plain, replaceAll_other h₃, replaceAll_other h₄]
    rw [List.flatMap_cons, guardOpenings_guardChar hne, ih, here]
    simp only [replaceAll, List.flatMap_append]

end Literate.Escape
