import Mathlib
import Literate.Render.Escape

/-! What escaped text is read as again. Entities stand for one character each; in a template literal a
backslash escapes the character behind it, and the entities are read from what that leaves. Escaping
character by character comes to the same as replacing one character after another in the whole
text, as long as the ampersand, and in a literal the backslash, comes before those that bring it in. -/

namespace Literate.Escape

open Code (char)

/-- the entities, and the character that each stands for -/
def entities : List (Code × Wording) :=
  [(char '&', codes "&amp;"), (char '<', codes "&lt;"), (char '>', codes "&gt;"),
    (char '"', codes "&quot;"), (char '\'', codes "&#39;")]

/-- those of text that is not in an attribute -/
def textEntities : List (Code × Wording) := entities.take 3

/-- Reads the entities of a table, and all other text as it is. -/
def unescape (table : List (Code × Wording)) (s : Wording) : Wording :=
  match s with
  | [] => []
  | c :: rest =>
    match table.find? fun e => e.2.isPrefixOf (c :: rest) with
    | some (d, e) => d :: unescape table (rest.drop (e.length - 1))
    | none => c :: unescape table rest
termination_by s.length
decreasing_by
  · simp only [List.length_drop, List.length_cons]; omega
  · simp only [List.length_cons]; omega

section

variable {table : List (Code × Wording)} {c d : Code} {e s t : Wording}

theorem exists_entity_cons (h : (d, e) ∈ entities) : ∃ e', e = char '&' :: e' := by
  simp only [entities, List.mem_cons, Prod.mk.injEq, List.not_mem_nil, or_false] at h
  rcases h with ⟨-, rfl⟩ | ⟨-, rfl⟩ | ⟨-, rfl⟩ | ⟨-, rfl⟩ | ⟨-, rfl⟩ <;> exact ⟨_, rfl⟩

/-- No entity is the start of another. -/
theorem eq_of_entity_start {x y : Code × Wording} (hx : x ∈ entities) (hy : y ∈ entities)
    (h : x.2.isPrefixOf (y.2 ++ t) = true) : x = y := by
  simp only [entities, List.mem_cons, List.not_mem_nil, or_false] at hx hy
  rcases hx with rfl | rfl | rfl | rfl | rfl <;> rcases hy with rfl | rfl | rfl | rfl | rfl <;>
    first | rfl | simp [codes] at h

theorem unescape_nil : unescape table [] = [] := by rw [unescape]

theorem unescape_cons (ht : table ⊆ entities) (hc : c ≠ char '&') :
    unescape table (c :: s) = c :: unescape table s := by
  have none_fits : table.find? (fun e => e.2.isPrefixOf (c :: s)) = none := by
    rw [List.find?_eq_none]
    intro x hx hfits
    obtain ⟨e, he⟩ := exists_entity_cons (ht hx)
    rw [he, List.isPrefixOf, Bool.and_eq_true, beq_iff_eq] at hfits
    exact hc hfits.1.symm
  rw [unescape, none_fits]

theorem unescape_entity (ht : table ⊆ entities) (h : (d, e) ∈ table) :
    unescape table (e ++ s) = d :: unescape table s := by
  have fits : table.find? (fun x => x.2.isPrefixOf (e ++ s)) = some (d, e) := by
    cases hf : table.find? (fun x => x.2.isPrefixOf (e ++ s)) with
    | none =>
      have := List.find?_eq_none.mp hf (d, e) h
      simp at this
    | some x =>
      have hx := List.find?_some hf
      rw [eq_of_entity_start (ht (List.mem_of_find?_eq_some hf)) (ht h) hx]
  obtain ⟨e, rfl⟩ := exists_entity_cons (ht h)
  rw [List.cons_append] at fits ⊢
  rw [unescape, fits]
  simp

/-- Text in which each character is written as its entity or, unless it is an ampersand, as itself. -/
theorem unescape_flatMap {f : Code → Wording} (ht : table ⊆ entities)
    (hf : ∀ c, (c, f c) ∈ table ∨ (f c = [c] ∧ c ≠ char '&')) (s t : Wording) :
    unescape table (s.flatMap f ++ t) = s ++ unescape table t := by
  induction s with
  | nil => rfl
  | cons c s ih =>
    rw [List.flatMap_cons, List.append_assoc, List.cons_append]
    rcases hf c with h | ⟨h, hc⟩
    · rw [unescape_entity ht h, ih]
    · rw [h, List.singleton_append, unescape_cons ht hc, ih]

end

theorem mem_entities_or (c : Code) :
    (c, htmlChar c) ∈ entities ∨ (htmlChar c = [c] ∧ c ≠ char '&') := by
  unfold htmlChar entity?
  split <;> simp_all [entities]

/-- Nothing is lost, nothing escaped twice, whatever stands behind. -/
theorem unescape_html (s t : Wording) :
    unescape entities (html s ++ t) = s ++ unescape entities t :=
  unescape_flatMap (List.Subset.refl _) mem_entities_or s t

/-- characters that could end an attribute value, or start or end a tag -/
def Sealed (s : Wording) : Prop := char '<' ∉ s ∧ char '>' ∉ s ∧ char '"' ∉ s

instance (s : Wording) : Decidable (Sealed s) := inferInstanceAs (Decidable (_ ∧ _))

theorem Sealed.append {s t : Wording} (hs : Sealed s) (ht : Sealed t) : Sealed (s ++ t) := by
  simp only [Sealed, List.mem_append, not_or] at *
  exact ⟨⟨hs.1, ht.1⟩, ⟨hs.2.1, ht.2.1⟩, hs.2.2, ht.2.2⟩

theorem Sealed.flatMap {f : Code → Wording} (hf : ∀ c, Sealed (f c)) (s : Wording) :
    Sealed (s.flatMap f) := by
  induction s with
  | nil => exact (by decide : Sealed [])
  | cons c s ih =>
    rw [List.flatMap_cons]
    exact (hf c).append ih

theorem sealed_htmlChar (c : Code) : Sealed (htmlChar c) := by
  unfold htmlChar entity?
  split
  all_goals first | decide | skip
  · next h₁ h₂ h₃ h₄ h₅ => simp_all [Sealed, eq_comm]

theorem sealed_html (s : Wording) : Sealed (html s) := Sealed.flatMap sealed_htmlChar s

theorem sealed_attributeValue (s : Wording) : Sealed (attributeValue s) := by
  refine Sealed.flatMap (fun c => ?_) s
  unfold attributeChar
  split_ifs with h₁ h₂
  · decide
  · rcases h₂ with rfl | rfl <;> decide
  · exact sealed_htmlChar c

/-- the characters of a template literal, each with whether a backslash in front escapes it -/
def marked : Wording → List (Code × Bool)
  | char '\\' :: c :: s => (c, true) :: marked s
  | c :: s => (c, false) :: marked s
  | [] => []

/-- what an escaped character of a template literal stands for -/
def escaped? : Code → Option Code
  | char '\\' => some (char '\\')
  | char '\x60' => some (char '\x60')
  | char '$' => some (char '$')
  | char 't' => some (char '\t')
  | char 'r' => some (char '\r')
  | char 'n' => some (char '\n')
  | _ => none

/-- The text that a template literal stands for. A bare carriage return would be read as a line feed,
so there must be none. -/
def interpret? (s : Wording) : Option Wording :=
  (marked s).mapM fun (c, escaped) =>
    if escaped then escaped? c else if c = char '\r' then none else some c

/-- The inside of a template literal that neither ends it nor opens an expression. -/
structure Enclosed (s : Wording) : Prop where
  ticks : (char '\x60', false) ∉ marked s
  /-- no backslash is left over at the end -/
  whole : (char '\\', false) ∉ marked s
  dollars : (marked s).IsChain fun a b => a = (char '$', false) → b ≠ (char '\x7b', false)

instance (s : Wording) : Decidable (Enclosed s) :=
  decidable_of_iff ((char '\x60', false) ∉ marked s ∧ (char '\\', false) ∉ marked s ∧
      (marked s).IsChain fun a b => a = (char '$', false) → b ≠ (char '\x7b', false))
    ⟨fun ⟨h₁, h₂, h₃⟩ => ⟨h₁, h₂, h₃⟩, fun h => ⟨h.ticks, h.whole, h.dollars⟩⟩

theorem Enclosed.of_cons {s t : Wording} {x : Code × Bool} (hs : Enclosed s)
    (h : marked s = x :: marked t) : Enclosed t where
  ticks ht := hs.ticks (by rw [h]; exact List.mem_cons_of_mem x ht)
  whole ht := hs.whole (by rw [h]; exact List.mem_cons_of_mem x ht)
  dollars := by
    have := hs.dollars
    rw [h] at this
    exact this.tail

/-- text with entities for what would be a tag -/
def markupChar (c : Code) : Wording :=
  if c = char '&' ∨ c = char '<' ∨ c = char '>' then htmlChar c else [c]

theorem mem_textEntities_or (c : Code) :
    (c, markupChar c) ∈ textEntities ∨ (markupChar c = [c] ∧ c ≠ char '&') := by
  unfold markupChar
  split_ifs with h
  · rcases h with rfl | rfl | rfl <;> exact .inl (by decide)
  · exact .inr ⟨rfl, fun hc => h (.inl hc)⟩

theorem unescape_markup (s : Wording) : unescape textEntities (s.flatMap markupChar) = s := by
  have := unescape_flatMap (List.take_subset 3 entities) mem_textEntities_or s []
  simpa [textEntities, unescape_nil] using this

theorem marked_cons {c : Code} (hc : c ≠ char '\\') (s : Wording) :
    marked (c :: s) = (c, false) :: marked s := by
  conv_lhs => unfold marked
  split <;> simp_all

section

variable {s t : Wording}

theorem interpret?_append (h : marked (s ++ t) = marked s ++ marked t) {u v : Wording}
    (hs : interpret? s = some u) (ht : interpret? t = some v) :
    interpret? (s ++ t) = some (u ++ v) := by
  rw [interpret?] at *
  rw [h, List.mapM_append, hs, ht]
  rfl

theorem Enclosed.append (h : marked (s ++ t) = marked s ++ marked t) (hs : Enclosed s)
    (ht : Enclosed t)
    (hst : (marked s).getLast? = some (char '$', false) →
      (marked t).head? ≠ some (char '\x7b', false)) :
    Enclosed (s ++ t) := by
  refine ⟨?_, ?_, ?_⟩ <;> rw [h]
  · exact List.not_mem_append hs.ticks ht.ticks
  · exact List.not_mem_append hs.whole ht.whole
  · refine List.isChain_append.mpr ⟨hs.dollars, ht.dollars, ?_⟩
    rintro a ha b hb rfl rfl
    exact hst ha hb

end

/-- The pieces that a text is escaped in keep their marks, next to one another. -/
theorem marked_templateChar (c : Code) (t : Wording) :
    marked (templateChar c ++ t) = marked (templateChar c) ++ marked t := by
  unfold templateChar
  split_ifs with h₁ h₂ h₃ h₄
  · rcases h₁ with rfl | rfl | rfl <;> rfl
  · rcases h₂ with rfl | rfl <;> rfl
  · rfl
  · rfl
  · have hc : c ≠ char '\\' := fun hc => h₂ (.inl hc)
    rw [List.singleton_append, marked_cons hc, marked_cons hc]
    rfl

theorem interpret?_templateChar (c : Code) : interpret? (templateChar c) = some (markupChar c) := by
  unfold templateChar markupChar
  split_ifs with h₁ h₂ h₃ h₄
  · rcases h₁ with rfl | rfl | rfl <;> decide
  · rcases h₂ with rfl | rfl <;> decide
  · subst h₃; decide
  · subst h₄; decide
  · have hc : c ≠ char '\\' := fun hc => h₂ (.inl hc)
    simp [interpret?, marked_cons hc, marked, h₄]

theorem enclosed_templateChar (c : Code) : Enclosed (templateChar c) := by
  unfold templateChar
  split_ifs with h₁ h₂ h₃ h₄
  · rcases h₁ with rfl | rfl | rfl <;> decide
  · rcases h₂ with rfl | rfl <;> decide
  · decide
  · decide
  · rw [not_or] at h₂
    constructor <;> simp [marked_cons h₂.1, marked, Ne.symm h₂.1, Ne.symm h₂.2]

theorem last_templateChar {c : Code}
    (h : (marked (templateChar c)).getLast? = some (char '$', false)) : c = char '$' := by
  unfold templateChar at h
  split_ifs at h with h₁ h₂ h₃ h₄
  · rcases h₁ with rfl | rfl | rfl <;> exact absurd h (by decide)
  · rcases h₂ with rfl | rfl <;> exact absurd h (by decide)
  · exact absurd h (by decide)
  · exact absurd h (by decide)
  · rw [marked_cons fun hc => h₂ (.inl hc)] at h
    simpa [marked] using h

/-- Only an opening brace of the text gives one at the start of the literal. -/
theorem head_template {s : Wording} (h : (marked (template s)).head? = some (char '\x7b', false)) :
    ∃ t, s = char '\x7b' :: t := by
  unfold template at h
  split at h
  · simp [marked] at h
  · simp [marked] at h
  · next c s _ =>
    refine ⟨s, ?_⟩
    unfold templateChar at h
    split_ifs at h with h₁ h₂ h₃ h₄
    · rcases h₁ with rfl | rfl | rfl <;> exact absurd h (by simp [marked, htmlChar, entity?, codes])
    · exact absurd h (by simp [marked])
    · exact absurd h (by simp [marked])
    · exact absurd h (by simp [marked])
    · rw [List.singleton_append, marked_cons fun hc => h₂ (.inl hc)] at h
      simp only [List.head?_cons, Option.some.injEq, Prod.mk.injEq, and_true] at h
      rw [h]

/-- The inside of a literal neither ends it nor opens an expression. -/
theorem enclosed_template (s : Wording) : Enclosed (template s) := by
  fun_induction template s with
  | case1 => decide
  | case2 s ih =>
    refine Enclosed.append (s := [char '\\', char '$', char '\x7b']) rfl (by decide) ih ?_
    exact fun h => absurd h (by decide)
  | case3 c s hne ih =>
    refine Enclosed.append (marked_templateChar c _) (enclosed_templateChar c) ih ?_
    intro hlast hhead
    obtain ⟨t, rfl⟩ := head_template hhead
    exact hne t (last_templateChar hlast) rfl

/-- The literal stands for the text with its entities. -/
theorem interpret?_template (s : Wording) :
    interpret? (template s) = some (s.flatMap markupChar) := by
  fun_induction template s with
  | case1 => rfl
  | case2 s ih =>
    have opening : interpret? [char '\\', char '$', char '\x7b'] = some [char '$', char '\x7b'] := by
      decide
    have := interpret?_append (s := [char '\\', char '$', char '\x7b']) rfl opening ih
    simpa [markupChar] using this
  | case3 c s _ ih =>
    rw [interpret?_append (marked_templateChar c _) (interpret?_templateChar c) ih, List.flatMap_cons]

end Literate.Escape
