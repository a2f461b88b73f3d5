import Literate.Proofs.Json.Scalar

/-! A value is read from its own text, as long as it holds no real number and no object has a key twice.
The reader looks at each character at most twice, so twice as many calls as there are characters are
enough for it. -/

namespace Literate.Json

open Code (char)

mutual

/-- no real number, and no key twice in one object -/
def Plain : Json → Prop
  | real _ => False
  | array vs => PlainItems vs
  | object fs => (fs.map Prod.fst).Nodup ∧ PlainFields fs
  | _ => True

def PlainItems : List Json → Prop
  | [] => True
  | v :: vs => Plain v ∧ PlainItems vs

def PlainFields : List (Wording × Json) → Prop
  | [] => True
  | (_, v) :: fs => Plain v ∧ PlainFields fs

end

theorem plainItems_iff {vs : List Json} : PlainItems vs ↔ ∀ v ∈ vs, v.Plain := by
  induction vs with
  | nil => simp [PlainItems]
  | cons v vs ih => simp [PlainItems, ih]

/-- There is a character first that is no blank, closes no array and marks no byte order. -/
def Starts (s : Wording) : Prop :=
  ∃ c u, s = c :: u ∧ isSpace c = false ∧ c ≠ char ']' ∧ c ≠ char '\ufeff'

theorem Starts.length_pos {s : Wording} (h : Starts s) : 0 < s.length := by
  obtain ⟨c, u, rfl, -⟩ := h
  exact Nat.succ_pos _

theorem starts_int (n : Int) : Starts (codes (toString n)) := by
  obtain ⟨c, u, hs, hc | rfl⟩ := toString_eq_cons n
  · have other {d : Char} (hd : d.isDigit = false) : char c ≠ char d :=
      fun h => ne_of_isDigit hc hd (Code.char.inj h)
    exact ⟨char c, u, hs, by simp [isSpace, ne_of_isDigit hc], other rfl, other rfl⟩
  · exact ⟨char '-', u, hs, rfl, by decide, by decide⟩

theorem starts_print {v : Json} (h : v.Plain) (depth : Nat) : Starts (print depth v) := by
  cases v with
  | null => exact ⟨char 'n', _, rfl, rfl, by decide, by decide⟩
  | bool b => cases b <;> exact ⟨_, _, rfl, rfl, by decide, by decide⟩
  | int n => exact starts_int n
  | real x => exact h.elim
  | string s => exact ⟨char '"', _, rfl, rfl, by decide, by decide⟩
  | array vs => cases vs <;> exact ⟨char '[', _, rfl, rfl, by decide, by decide⟩
  | object fs => cases fs <;> exact ⟨char '\x7b', _, rfl, rfl, by decide, by decide⟩

theorem skip_cons {c : Code} (hc : isSpace c = false) (s : Wording) : skip (c :: s) = c :: s := by
  simp [skip, hc]

theorem skip_lineBreak (depth : Nat) (s : Wording) : skip (lineBreak depth ++ s) = skip s := by
  have blank : ∀ c ∈ lineBreak depth, isSpace c = true := by
    intro c hc
    simp only [lineBreak, List.mem_cons, List.mem_replicate] at hc
    rcases hc with rfl | ⟨-, rfl⟩ <;> rfl
  exact List.dropWhile_append_of_pos blank

theorem skip_stringText (k : Wording) (s : Wording) : skip (stringText k ++ s) = stringText k ++ s :=
  skip_cons rfl _

theorem Starts.skip_eq {s : Wording} (h : Starts s) (t : Wording) : skip (s ++ t) = s ++ t := by
  obtain ⟨c, u, rfl, hc, -⟩ := h
  exact skip_cons hc _

theorem ends_items (depth : Nat) (vs : List Json) (t : Wording) :
    Ends (printItems depth vs ++ (lineBreak depth ++ t)) := by
  cases vs <;> simp [printItems, lineBreak, Ends]

theorem ends_fields (depth : Nat) (fs : List (Wording × Json)) (t : Wording) :
    Ends (printFields depth fs ++ (lineBreak depth ++ t)) := by
  cases fs <;> simp [printFields, lineBreak, Ends]

attribute [local simp] put value items fields

theorem put_of_notMem {k : Wording} {v : Json} {fs : List (Wording × Json)}
    (h : k ∉ fs.map Prod.fst) : put k v fs = fs ++ [(k, v)] := by
  induction fs with
  | nil => rfl
  | cons f fs ih =>
    obtain ⟨l, w⟩ := f
    simp only [List.map_cons, List.mem_cons, not_or] at h
    simp [Ne.symm h.1, ih h.2]

section

variable {fuel : Nat} {s t rest : Wording} {v : Json}

theorem value_int (n : Int) :
    value (fuel + 1) (codes (toString n) ++ t) = scalar (codes (toString n) ++ t) := by
  obtain ⟨c, u, hs, hc | rfl⟩ := toString_eq_cons n
  · rw [hs, List.cons_append]
    simp [ne_of_isDigit hc]
  · rw [hs]
    rfl

theorem value_string (k : Wording) :
    value (fuel + 1) (stringText k ++ t) = .ok (.string k, t) := by
  simp [stringText, readString_escaped]

theorem value_array {vs : List Json} (depth : Nat) (hs : Starts s)
    (h : items fuel (s ++ t) = .ok (vs, rest)) :
    value (fuel + 1) (char '[' :: (lineBreak depth ++ (s ++ t))) = .ok (.array vs, rest) := by
  rw [value, skip_lineBreak, hs.skip_eq]
  obtain ⟨c, u, rfl, -, hc, -⟩ := hs
  rw [List.cons_append] at h ⊢
  split
  · next heq => exact absurd (List.cons.inj heq).1 hc
  · rw [h]

theorem value_object {k : Wording} {fs : List (Wording × Json)} (depth : Nat)
    (h : fields fuel (stringText k ++ t) [] = .ok (fs, rest)) :
    value (fuel + 1) (char '\x7b' :: (lineBreak depth ++ (stringText k ++ t))) =
      .ok (.object fs, rest) := by
  rw [value, skip_lineBreak, skip_stringText]
  split
  · next heq => simp [stringText] at heq
  · rw [h]

theorem items_last (h : value fuel s = .ok (v, rest)) (hr : skip rest = char ']' :: t) :
    items (fuel + 1) s = .ok ([v], t) := by
  simp [h, hr]

theorem items_more {vs : List Json} {u : Wording} (h : value fuel s = .ok (v, rest))
    (hr : skip rest = char ',' :: t) (hvs : items fuel (skip t) = .ok (vs, u)) :
    items (fuel + 1) s = .ok (v :: vs, u) := by
  simp [h, hr, hvs]

variable {before : List (Wording × Json)}

theorem fields_last (k : Wording) (hs : skip s = s) (h : value fuel s = .ok (v, rest))
    (hr : skip rest = char '\x7d' :: t) :
    fields (fuel + 1) (stringText k ++ char ':' :: char ' ' :: s) before =
      .ok (put k v before, t) := by
  have blank : skip (char ' ' :: s) = s := hs
  have colon : skip (char ':' :: char ' ' :: s) = char ':' :: char ' ' :: s := skip_cons rfl _
  simp [stringText, readString_escaped, colon, blank, h, hr]

theorem fields_more (k : Wording) (hs : skip s = s) (h : value fuel s = .ok (v, rest))
    (hr : skip rest = char ',' :: t) :
    fields (fuel + 1) (stringText k ++ char ':' :: char ' ' :: s) before =
      fields fuel (skip t) (put k v before) := by
  have blank : skip (char ' ' :: s) = s := hs
  have colon : skip (char ':' :: char ' ' :: s) = char ':' :: char ' ' :: s := skip_cons rfl _
  simp [stringText, readString_escaped, colon, blank, h, hr]

end

mutual

/-- A value is read from its text, in front of what ends a number. -/
theorem value_print (v : Json) (h : v.Plain) (depth fuel : Nat) (t : Wording) (ht : Ends t)
    (hf : 2 * (print depth v).length ≤ fuel) :
    value fuel (print depth v ++ t) = .ok (v, t) := by
  have := (starts_print h depth).length_pos
  obtain ⟨fuel, rfl⟩ : ∃ n, fuel = n + 1 := ⟨fuel - 1, by omega⟩
  match v with
  | null => rfl
  | bool b => cases b <;> rfl
  | int n => rw [print, value_int, scalar_int ht]
  | string s => exact value_string s
  | array [] => rfl
  | array (v :: vs) =>
    obtain ⟨hv, hvs⟩ := h
    simp only [print, List.cons_append, List.nil_append, List.append_assoc, List.length_cons,
      List.length_append] at hf ⊢
    obtain ⟨fuel, rfl⟩ : ∃ n, fuel = n + 1 := ⟨fuel - 1, by omega⟩
    apply value_array _ (starts_print hv _)
    apply items_print vs hvs depth fuel _ t v _ (by omega)
    exact value_print v hv _ fuel _ (ends_items depth vs _) (by omega)
  | object [] => rfl
  | object ((k, v) :: fs) =>
    obtain ⟨hkeys, hv, hfs⟩ := h
    simp only [print, List.cons_append, List.nil_append, List.append_assoc, List.length_cons,
      List.length_append] at hf ⊢
    obtain ⟨fuel, rfl⟩ : ∃ n, fuel = n + 1 := ⟨fuel - 1, by omega⟩
    apply value_object
    apply fields_print fs hfs depth fuel k _ t v [] hkeys ((starts_print hv _).skip_eq _) _ (by omega)
    exact value_print v hv _ fuel _ (ends_fields depth fs _) (by omega)

/-- The items behind one that is read. -/
theorem items_print (vs : List Json) (h : PlainItems vs) (depth fuel : Nat) (s t : Wording)
    (v : Json) (hv : value fuel s = .ok (v, printItems depth vs ++ (lineBreak depth ++ char ']' :: t)))
    (hf : 2 * (printItems depth vs).length ≤ fuel) :
    items (fuel + 1) s = .ok (v :: vs, t) := by
  match vs with
  | [] =>
    apply items_last hv
    rw [printItems, List.nil_append, skip_lineBreak, skip_cons rfl]
  | w :: ws =>
    obtain ⟨hw, hws⟩ := h
    simp only [printItems, List.cons_append, List.append_assoc, List.length_cons,
      List.length_append] at hf hv
    obtain ⟨fuel, rfl⟩ : ∃ n, fuel = n + 1 := ⟨fuel - 1, by omega⟩
    apply items_more hv (skip_cons rfl _)
    rw [skip_lineBreak, (starts_print hw _).skip_eq]
    apply items_print ws hws depth fuel _ t w _ (by omega)
    exact value_print w hw _ fuel _ (ends_items depth ws _) (by omega)

/-- The fields behind one whose value is read. -/
theorem fields_print (fs : List (Wording × Json)) (h : PlainFields fs) (depth fuel : Nat)
    (k : Wording) (s t : Wording) (v : Json) (before : List (Wording × Json))
    (hkeys : ((before ++ (k, v) :: fs).map Prod.fst).Nodup) (hs : skip s = s)
    (hv : value fuel s = .ok (v, printFields depth fs ++ (lineBreak depth ++ char '\x7d' :: t)))
    (hf : 2 * (printFields depth fs).length ≤ fuel) :
    fields (fuel + 1) (stringText k ++ char ':' :: char ' ' :: s) before =
      .ok (before ++ (k, v) :: fs, t) := by
  have new : k ∉ before.map Prod.fst := by
    rw [List.map_append, List.nodup_append] at hkeys
    exact fun hk => hkeys.2.2 k hk k (by simp) rfl
  match fs with
  | [] =>
    rw [fields_last k hs hv, put_of_notMem new]
    rw [printFields, List.nil_append, skip_lineBreak, skip_cons rfl]
  | (l, w) :: fs =>
    obtain ⟨hw, hfs⟩ := h
    simp only [printFields, List.cons_append, List.nil_append, List.append_assoc, List.length_cons,
      List.length_append] at hf hv
    obtain ⟨fuel, rfl⟩ : ∃ n, fuel = n + 1 := ⟨fuel - 1, by omega⟩
    rw [fields_more k hs hv (skip_cons rfl _), put_of_notMem new, skip_lineBreak, skip_stringText]
    rw [List.append_cons before (k, v) ((l, w) :: fs)] at hkeys ⊢
    apply fields_print fs hfs depth fuel l _ t w _ hkeys ((starts_print hw _).skip_eq _) _ (by omega)
    exact value_print w hw _ fuel _ (ends_fields depth fs _) (by omega)

end

/-- A document is read from its text, with a line break behind it. -/
theorem read_text {v : Json} (h : v.Plain) : read (v.text ++ codes "\n") = .ok v := by
  have found : value (enough (print 0 v ++ [char '\n'])) (print 0 v ++ [char '\n']) =
      .ok (v, [char '\n']) := by
    apply value_print v h 0 _ [char '\n'] (by simp [Ends])
    rw [enough, List.length_append]
    omega
  have document : document (v.text ++ codes "\n") = .ok v := by
    change Json.document (print 0 v ++ [char '\n']) = .ok v
    unfold Json.document
    split
    · next heq =>
      obtain ⟨c, u, hs, -, -, unmarked⟩ := starts_print h 0
      rw [hs] at heq
      exact absurd (List.cons.inj heq).1 unmarked
    · rw [(starts_print h 0).skip_eq, found]
      rfl
  rw [read, document]

end Literate.Json
