import Literate.Proofs.Buffer.Offset

/-! The characters of a buffer that lie outside some spans, and the characters of a text that are
not blank: what a document has to keep, and what trimming does not touch. -/

namespace Literate

namespace Text

/-- the characters that are not blank -/
def full (s : List Char) : List Char := s.filter fun c => !isBlank c

@[simp] theorem full_nil : full [] = [] := rfl

@[simp] theorem full_append (s t : List Char) : full (s ++ t) = full s ++ full t :=
  List.filter_append ..

theorem full_trimLeft (s : List Char) : full (trimLeft s) = full s := by
  have h : full (s.takeWhile isBlank) = [] := by
    rw [full, List.filter_eq_nil_iff]
    intro c hc
    simpa using List.mem_takeWhile_imp hc
  conv_rhs => rw [← List.takeWhile_append_dropWhile (p := isBlank) (l := s), full_append, h]
  rfl

theorem full_reverse (s : List Char) : full s.reverse = (full s).reverse := by
  simp [full, List.filter_reverse]

theorem full_trimRight (s : List Char) : full (trimRight s) = full s := by
  have h := full_trimLeft s.reverse
  rw [trimLeft, full_reverse] at h
  rw [trimRight, dropTail, full_reverse, h, List.reverse_reverse]

theorem trimLeft_suffix (s : List Char) : trimLeft s <:+ s := List.dropWhile_suffix _

theorem dropTail_prefix (p : Char → Bool) (s : List Char) : dropTail p s <+: s := by
  have h : s.reverse.dropWhile p <:+ s.reverse := List.dropWhile_suffix _
  simpa [dropTail] using List.reverse_prefix.mpr h

theorem trimRight_prefix (s : List Char) : trimRight s <+: s := dropTail_prefix _ s

/-- The characters whose places, counted from `n`, satisfy `f`. -/
def kept (f : Nat → Bool) (n : Nat) (s : List Char) : List Char :=
  ((s.zipIdx n).filter fun c => f c.2).map Prod.fst

variable {f g : Nat → Bool} {n : Nat} {s : List Char}

theorem kept_append (f : Nat → Bool) (n : Nat) (s t : List Char) :
    kept f n (s ++ t) = kept f n s ++ kept f (n + s.length) t := by
  simp [kept, List.zipIdx_append]

theorem kept_congr (h : ∀ k, n ≤ k → k < n + s.length → f k = g k) : kept f n s = kept g n s := by
  unfold kept
  congr 1
  apply List.filter_congr
  rintro ⟨c, k⟩ hc
  obtain ⟨h₁, h₂, -⟩ := List.mem_zipIdx hc
  exact h k h₁ h₂

theorem kept_all (h : ∀ k, n ≤ k → k < n + s.length → f k = true) : kept f n s = s := by
  rw [kept_congr (g := fun _ => true) h]
  simp [kept]

theorem kept_none (h : ∀ k, n ≤ k → k < n + s.length → f k = false) : kept f n s = [] := by
  rw [kept_congr (g := fun _ => false) h]
  simp [kept]

theorem kept_sublist (f : Nat → Bool) (n : Nat) (s : List Char) : (kept f n s).Sublist s := by
  have h : ((s.zipIdx n).map Prod.fst) = s := by simp
  conv_rhs => rw [← h]
  exact List.filter_sublist.map _

end Text

namespace Buffer

/-- the place with this offset lies in none of the spans -/
def clear (lines : Buffer) (spans : List Span) (k : Nat) : Bool :=
  spans.all fun s => !(lines.offset s.start ≤ k && k < lines.offset s.stop)

/-- The characters outside the spans, in their order. -/
def outside (lines : Buffer) (spans : List Span) : List Char :=
  Text.kept (lines.clear spans) 0 lines.whole

/-- those of them that stand behind a position -/
def outsideFrom (lines : Buffer) (p : Position) (spans : List Span) : List Char :=
  Text.kept (lines.clear spans) (lines.offset p)
    (Text.between lines.whole (lines.offset p) lines.whole.length)

theorem outside_sublist (lines : Buffer) (spans : List Span) :
    (lines.outside spans).Sublist lines.whole := Text.kept_sublist ..

variable {lines : Buffer} {p q : Position}

theorem outside_eq_outsideFrom (spans : List Span) :
    lines.outside spans = lines.outsideFrom ⟨0, 0⟩ spans := by
  simp [outside, outsideFrom]

theorem outsideFrom_nil (hp : lines.Holds p) :
    lines.outsideFrom p [] = lines.slice ⟨p, lines.last⟩ := by
  have hne : lines ≠ [] := hp.ne_nil
  rw [slice_eq_between hp (holds_last hne) hp.le_last, offset_last hne]
  exact Text.kept_all fun _ _ _ => rfl

/-- From a position on, the characters up to another one, and those behind that. -/
theorem outsideFrom_split (hp : lines.Holds p) (hq : lines.Holds q) (h : p ≤ q)
    (spans : List Span) :
    lines.outsideFrom p spans =
      Text.kept (lines.clear spans) (lines.offset p) (lines.slice ⟨p, q⟩) ++
        lines.outsideFrom q spans := by
  have hpq := (offset_le_iff hp hq).mpr h
  rw [outsideFrom, ← Text.between_append hpq (offset_le_length hq), Text.kept_append,
    Text.length_between (offset_le_length hq), Nat.add_sub_cancel' hpq, slice_eq_between hp hq h,
    outsideFrom]

theorem length_slice (hp : lines.Holds p) (hq : lines.Holds q) (h : p ≤ q) :
    (lines.slice ⟨p, q⟩).length = lines.offset q - lines.offset p := by
  rw [slice_eq_between hp hq h, Text.length_between (offset_le_length hq)]

theorem outsideFrom_cons {s : Span} {spans : List Span} (hp : lines.Holds p)
    (hs : lines.Holds s.start) (hs' : lines.Holds s.stop) (hle : p ≤ s.start)
    (hv : s.start ≤ s.stop)
    (hbehind : ∀ t ∈ spans, lines.Holds t.start ∧ s.stop ≤ t.start) :
    lines.outsideFrom p (s :: spans) =
        lines.slice ⟨p, s.start⟩ ++ lines.outsideFrom s.stop spans := by
  have h₁ := (offset_le_iff hp hs).mpr hle
  have h₂ := (offset_le_iff hs hs').mpr hv
  have h₃ : ∀ t ∈ spans, lines.offset s.stop ≤ lines.offset t.start := fun t ht =>
    (offset_le_iff hs' (hbehind t ht).1).mpr (hbehind t ht).2
  have behind : ∀ k, lines.offset s.stop ≤ k →
      lines.clear (s :: spans) k = lines.clear spans k := by
    intro k hk
    simp [clear, hk.not_gt]
  rw [outsideFrom_split hp hs hle, outsideFrom_split hs hs' hv, Text.kept_all, Text.kept_none,
    List.nil_append]
  · rw [outsideFrom, outsideFrom, Text.kept_congr fun k hk _ => behind k hk]
  · intro k hk hk'
    rw [length_slice hs hs' hv, Nat.add_sub_cancel' h₂] at hk'
    simp [clear, hk, hk']
  · intro k _ hk'
    rw [length_slice hp hs hle, Nat.add_sub_cancel' h₁] at hk'
    simp only [clear, List.all_cons, Bool.and_eq_true, List.all_eq_true]
    refine ⟨by simp [hk'.not_ge], fun t ht => ?_⟩
    have := h₃ t ht
    simp [(hk'.trans_le (h₂.trans this)).not_ge]

end Buffer
end Literate
