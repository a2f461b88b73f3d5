import Literate.Proofs.Script.Landmark
import Literate.Script.Grammar.Field

/-! What stands in the fields of a text: each field is read from terminals of a piece of the text, and
what is read is part of what the text is made to. -/

namespace Literate.Script

/-- the terminals of a field of a text, which is read as if in brackets -/
def Terminal.IsField (t : Terminal) (us : List Terminal) : Prop :=
  ∃ front source behind vs,
    (Quotation.ofText t.text.toList).opening ++ (Quotation.ofText t.text.toList).body =
      front ++ '\x7b' :: (source ++ behind) ∧
    Strict.terminals ('(' :: source ++ [')']) = some vs ∧
    us = vs.map (Terminal.shift (Field.origin t.start front (source ++ behind)))

namespace Field

variable {Good : Landmark → Prop}

def Part.All (Good : Landmark → Prop) : Part → Prop
  | text _ => True
  | field e => e.All Good

theorem forall_flush {marked : Bool} (codes : List Nat) :
    ∀ e ∈ assemble.flush marked codes, e.All Good := by
  rw [assemble.flush]
  split
  · exact List.forall_mem_nil _
  · exact List.forall_mem_singleton.mpr Expr.all_constant

theorem forall_assemble {marked : Bool} {ps : List Part} (h : ∀ p ∈ ps, p.All Good) :
    ∀ e ∈ assemble marked ps, e.All Good := by
  suffices ∀ codes, ∀ e ∈ assemble.go marked codes ps, e.All Good from this []
  induction ps with
  | nil => exact forall_flush
  | cons p ps ih =>
    obtain ⟨hp, hps⟩ := List.forall_mem_cons.mp h
    intro codes
    cases p with
    | text more => exact ih hps (codes ++ more)
    | field e =>
      refine List.forall_mem_append.mpr ⟨forall_flush codes, ?_⟩
      exact List.forall_mem_cons.mpr ⟨hp, ih hps []⟩

/-! Each reader leaves an end of what it reads. -/

theorem piece_suffix {raw outer : Bool} {n : Nat} {s : List Char} {p : Piece}
    (h : piece raw outer n s = some p) : p.rest <:+ s := by
  induction n generalizing s p with
  | zero => cases h
  | succ n ih =>
    cases s with
    | nil =>
      cases h
      exact List.suffix_rfl
    | cons c s =>
      rw [piece] at h
      generalize (if raw = true then 0 else escapeLength (c :: s)) = k at h
      split at h
      · obtain ⟨q, hq, rfl⟩ := Option.map_eq_some_iff.mp h
        exact (ih hq).trans (List.drop_suffix _ _)
      · split at h
        · split at h
          · cases h
            exact (List.drop_suffix 1 s).trans (List.suffix_cons c s)
          · split at h
            · cases h
            · cases h
              exact List.suffix_rfl
        · obtain ⟨q, hq, rfl⟩ := Option.map_eq_some_iff.mp h
          exact (ih hq).trans (List.suffix_cons c s)

theorem echo_suffix (s : List Char) : (echo s).2 <:+ s := by
  rw [echo.eq_def]
  split
  · exact (List.drop_suffix _ _).trans (List.suffix_cons _ _)
  · exact List.suffix_rfl

theorem conversion_suffix {s rest : List Char} {letter : Option Char}
    (h : conversion s = some (letter, rest)) : rest <:+ s := by
  rw [conversion.eq_def] at h
  split at h
  · split at h
    · cases h
      exact (List.suffix_cons _ _).trans (List.suffix_cons _ _)
    · cases h
  · cases h
  · cases h
    exact List.suffix_rfl

/-- What a reader of a text gives is made of good parts, and what it leaves is an end of the text. -/
def Sound (Good : Landmark → Prop) (c : Context) (r : List Char → Option (List Part × List Char)) :
    Prop :=
  ∀ s ps rest, s <:+ c.whole → r s = some (ps, rest) → (∀ p ∈ ps, p.All Good) ∧ rest <:+ s

variable {c : Context} {r : List Char → Option (List Part × List Char)}

theorem before_append {s : List Char} (h : s <:+ c.whole) : c.before s ++ s = c.whole := by
  obtain ⟨front, hfront⟩ := h
  rw [Context.before, ← hfront, List.length_append, Nat.add_sub_cancel, List.take_left]

/-- the expressions of fields are good -/
def Context.Reads (Good : Landmark → Prop) (c : Context) : Prop :=
  ∀ front source behind e, c.whole = front ++ '\x7b' :: (source ++ behind) →
    c.expr.onText (origin c.start front (source ++ behind)) ('(' :: source ++ [')']) = some e →
    e.All Good

/-- Behind its expression a field has a closing brace. -/
theorem closed {last rest : List Char} {ps qs : List Part}
    (h : (match last with
      | '\x7d' :: rest => pure (qs, rest)
      | _ => failure) = some (ps, rest)) : ps = qs ∧ rest <:+ last := by
  split at h
  · cases h
    exact ⟨rfl, List.suffix_cons _ _⟩
  · cases h

theorem Sound.field (hc : c.Reads Good) (hr : Sound Good c r) {s rest : List Char} {ps : List Part}
    (hs : '\x7b' :: s <:+ c.whole) (h : field c r s = some (ps, rest)) :
    (∀ p ∈ ps, p.All Good) ∧ rest <:+ s := by
  have inner : s <:+ c.whole := (List.suffix_cons _ s).trans hs
  unfold Field.field at h
  obtain ⟨k, -, h⟩ := Option.bind_eq_some_iff.mp h
  dsimp only at h
  split at h
  · cases h
  obtain ⟨value, hvalue, h⟩ := Option.bind_eq_some_iff.mp h
  have good : value.All Good := by
    refine hc (c.before ('\x7b' :: s)) (s.take k) (s.drop k) value ?_ ?_
    · rw [List.take_append_drop, before_append hs]
    · rw [List.take_append_drop]
      exact hvalue
  obtain ⟨⟨letter, more⟩, hmore, h⟩ := Option.bind_eq_some_iff.mp h
  have left : more <:+ s :=
    (conversion_suffix hmore).trans ((echo_suffix _).trans (List.drop_suffix k s))
  have made {repeated : Prop} [Decidable repeated] {shown : List Nat} {letter : Option Char}
      {form : Option Expr} (hform : ∀ x ∈ form, x.All Good) :
      ∀ p ∈ (if repeated then [] else [Part.text shown]) ++ [Part.field (value.field letter form)],
        p.All Good := by
    refine List.forall_mem_append.mpr ⟨?_, ?_⟩
    · split
      · exact List.forall_mem_nil _
      · exact List.forall_mem_singleton.mpr trivial
    · exact List.forall_mem_singleton.mpr (Expr.all_field.mpr ⟨good, hform⟩)
  dsimp only at h
  split at h
  · next format =>
    obtain ⟨⟨parts, last⟩, hparts, h⟩ := Option.bind_eq_some_iff.mp h
    have tail := (List.suffix_cons _ format).trans left
    obtain ⟨hgood, hlast⟩ := hr _ _ _ (tail.trans inner) hparts
    obtain ⟨rfl, hrest⟩ := closed h
    refine ⟨made ?_, hrest.trans (hlast.trans tail)⟩
    rintro _ ⟨⟩
    exact Expr.all_joined.mpr (forall_assemble hgood)
  · obtain ⟨rfl, hrest⟩ := closed h
    exact ⟨made fun x hx => absurd hx (Option.not_mem_none x), hrest.trans left⟩

theorem Sound.run (hc : c.Reads Good) {format : Option (List Char → Option (List Part × List Char))}
    (hf : ∀ r ∈ format, Sound Good c r) (outer : Bool) (n : Nat) : Sound Good c (run c format outer n) := by
  induction n with
  | zero => exact fun _ _ _ _ h => nomatch h
  | succ n ih =>
    intro s ps rest hs h
    unfold Field.run at h
    obtain ⟨p, hp, h⟩ := Option.bind_eq_some_iff.mp h
    have left := piece_suffix hp
    obtain ⟨codes, -, h⟩ := Option.bind_eq_some_iff.mp h
    dsimp only at h
    split at h
    · obtain ⟨⟨qs, more⟩, hmore, h⟩ := Option.bind_eq_some_iff.mp h
      cases h
      obtain ⟨hqs, hsuffix⟩ := ih _ _ _ (left.trans hs) hmore
      exact ⟨List.forall_mem_cons.mpr ⟨trivial, hqs⟩, hsuffix.trans left⟩
    · split at h
      · next inner heq =>
        obtain ⟨r, hr, h⟩ := Option.bind_eq_some_iff.mp h
        obtain ⟨⟨fs, more⟩, hmore, h⟩ := Option.bind_eq_some_iff.mp h
        obtain ⟨⟨qs, last⟩, hlast, h⟩ := Option.bind_eq_some_iff.mp h
        cases h
        rw [heq] at left
        obtain ⟨hfs, hmore⟩ := (hf r hr).field hc (left.trans hs) hmore
        have tail := hmore.trans ((List.suffix_cons _ inner).trans left)
        obtain ⟨hqs, hlast⟩ := ih _ _ _ (tail.trans hs) hlast
        exact ⟨List.forall_mem_cons.mpr ⟨trivial, List.forall_mem_append.mpr ⟨hfs, hqs⟩⟩,
          hlast.trans tail⟩
      · cases h
        exact ⟨List.forall_mem_singleton.mpr trivial, left⟩

theorem Sound.parts (hc : c.Reads Good) (depth : Nat) (outer : Bool) :
    Sound Good c (parts c depth outer) := by
  induction depth generalizing outer with
  | zero => exact fun s => Sound.run hc (fun r hr => absurd hr (Option.not_mem_none r)) outer _ s
  | succ depth ih =>
    refine fun s => Sound.run hc (fun r hr => ?_) outer _ s
    cases hr
    exact ih false

end Field

theorem exists_of_mem_mapM {α β : Type} {f : α → Option β} {as : List α} {bs : List β}
    (h : as.mapM f = some bs) {b : β} (hb : b ∈ bs) : ∃ a ∈ as, f a = some b := by
  induction as generalizing bs with
  | nil =>
    cases h
    exact absurd hb List.not_mem_nil
  | cons a as ih =>
    rw [List.mapM_cons] at h
    obtain ⟨c, hc, h⟩ := Option.bind_eq_some_iff.mp h
    obtain ⟨cs, hcs, h⟩ := Option.bind_eq_some_iff.mp h
    cases h
    rcases List.mem_cons.mp hb with rfl | hb
    · exact ⟨a, List.mem_cons_self, hc⟩
    · obtain ⟨x, hx, hfx⟩ := ih hcs hb
      exact ⟨x, List.mem_cons_of_mem a hx, hfx⟩

/-- What is read from string literals is made of what is read from the terminals of their fields. -/
theorem all_literals {Good : Landmark → Prop} {expr : Parse Expr} {ts : List Terminal} {e : Expr}
    (fields : ∀ t ∈ ts, ∀ us e rest, t.IsField us → expr us = some (e, rest) → e.All Good)
    (h : literals expr ts = some e) : e.All Good := by
  have parts {marked : Bool} {ps : List Field.Part} {t : Terminal} (ht : t ∈ ts)
      (h : (let q := Quotation.ofText t.text.toList
        if q.formatted then do
          let whole := q.opening ++ q.body
          let r ← Field.parts ⟨t.start, whole, q.raw, marked, expr⟩ 2 true q.body
          if r.2.isEmpty then pure r.1 else failure
        else do return [Field.Part.text (← q.codes)]) = some ps) : ∀ p ∈ ps, p.All Good := by
    dsimp only at h
    split at h
    · obtain ⟨⟨qs, rest⟩, hqs, h⟩ := Option.bind_eq_some_iff.mp h
      dsimp only at h
      split at h
      · cases h
        refine (Field.Sound.parts ?_ 2 true _ _ _ (List.suffix_append _ _) hqs).1
        intro front source behind e whole heq
        obtain ⟨vs, hvs, heq⟩ := Option.bind_eq_some_iff.mp heq
        obtain ⟨⟨x, rest⟩, hx, heq⟩ := Option.bind_eq_some_iff.mp heq
        cases heq
        exact fields t ht _ e rest ⟨front, source, behind, vs, whole, hvs, rfl⟩ hx
      · cases h
    · obtain ⟨codes, -, h⟩ := Option.bind_eq_some_iff.mp h
      cases h
      exact List.forall_mem_singleton.mpr trivial
  unfold literals at h
  dsimp only at h
  obtain ⟨pss, hpss, h⟩ := Option.bind_eq_some_iff.mp h
  have good : ∀ p ∈ pss.flatten, p.All Good := by
    rw [List.forall_mem_flatten]
    intro ps hps
    obtain ⟨q, hq, h⟩ := exists_of_mem_mapM hpss hps
    obtain ⟨t, ht, rfl⟩ := List.mem_map.mp hq
    exact parts ht h
  split at h
  · split at h
    · cases h
      exact Expr.all_constant
    · cases h
  · split at h
    · cases h
      exact Expr.all_joined.mpr (Field.forall_assemble good)
    · cases h
      exact Expr.all_constant

end Literate.Script
