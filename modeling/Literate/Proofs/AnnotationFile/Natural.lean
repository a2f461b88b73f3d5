import Literate.AnnotationFile
import Literate.Proofs.Buffer.Clamp
import Literate.Proofs.Schema.Meaning

/-! The coordinates in an annotation file count from zero, however they are written. -/

namespace Literate

theorem Binary64.nonneg_of_toInt? {x : Binary64} {k : Int} (h : x.toInt? = some k)
    (hx : x.belowZero = false) : 0 ≤ k := by
  cases x with
  | finite negative m e =>
    simp only [toInt?] at h
    have sign (n : Nat) (hn : m = 0 → n = 0) : 0 ≤ (if negative then -(n : Int) else n) := by
      split
      · next hneg =>
        have hm : m = 0 := by simpa [belowZero, hneg] using hx
        simp [hn hm]
      · exact Int.natCast_nonneg n
    split at h
    · obtain rfl := Option.some.inj h
      exact sign _ fun hm => by simp [hm]
    · split at h
      · obtain rfl := Option.some.inj h
        exact sign _ fun hm => by simp [hm]
      · simp at h
  | infinite negative => simp [toInt?] at h
  | nan => simp [toInt?] at h

/-- what the schemas ask of one coordinate -/
theorem Coordinate.value_nonneg {v : Json} {c : Coordinate}
    (hv : Schema.accepts [.type .integer, .minimum 0] v = true) (hc : Coordinate.ofJson? v = some c) :
    0 ≤ c.value := by
  have htype := Schema.accepts_iff.mp hv (.type .integer) (by simp)
  have hmin := Schema.accepts_iff.mp hv (.minimum 0) (by simp)
  cases v with
  | int n =>
    obtain rfl := Option.some.inj hc
    have hn : 0 ≤ n := by simpa [Rule.Asks, Rule.belowMinimum] using hmin
    exact hn
  | real x =>
    obtain rfl := Option.some.inj hc
    obtain ⟨k, hk⟩ := Option.isSome_iff_exists.mp htype
    have hx : x.belowZero = false := by simpa [Rule.Asks, Rule.belowMinimum] using hmin
    rw [value, hk, Option.getD_some]
    exact Binary64.nonneg_of_toInt? hk hx
  | _ => simp [ofJson?] at hc

namespace WrittenSpan

open AnnotationFile

theorem position_natural {v : Json} {l c : Coordinate} (hv : positionSchema.accepts v = true)
    (hl : coordinate? "line" v = some l) (hc : coordinate? "column" v = some c) :
    0 ≤ l.value ∧ 0 ≤ c.value := by
  obtain ⟨x, hx, hl⟩ := Option.bind_eq_some_iff.mp hl
  obtain ⟨y, hy, hc⟩ := Option.bind_eq_some_iff.mp hc
  exact ⟨Coordinate.value_nonneg (Schema.accepts_field hv rfl hx) hl,
    Coordinate.value_nonneg (Schema.accepts_field hv rfl hy) hc⟩

theorem range_natural {vs : List Json} (hv : rangeSchema.accepts (.array vs) = true) {x : Json}
    (hx : x ∈ vs) {c : Coordinate} (hc : Coordinate.ofJson? x = some c) : 0 ≤ c.value :=
  Coordinate.value_nonneg
    (Schema.accepts_item (t := [.type .integer, .minimum 0]) hv (by simp [rangeSchema]) x hx) hc

/-- An entry whose span and range keep to their schemas is placed by coordinates from zero. -/
theorem natural_ofEntry? {v : Json} {w : WrittenSpan}
    (hspan : ∀ s, v.field? "span" = some s → spanSchema.accepts s = true)
    (hrange : ∀ r, v.field? "range" = some r → rangeSchema.accepts r = true)
    (hw : ofEntry? v = some w) : w.span.Natural := by
  unfold ofEntry? at hw
  split at hw
  · next s hs =>
    have accepted := hspan s hs
    simp only [Option.bind_eq_bind, Option.bind_eq_some_iff, Option.pure_def, Option.some.injEq] at hw
    obtain ⟨start, hstart, stop, hstop, l, hl, a, ha, m, hm, b, hb, rfl⟩ := hw
    exact ⟨position_natural (Schema.accepts_field accepted rfl hstart) hl ha,
      position_natural (Schema.accepts_field accepted rfl hstop) hm hb⟩
  · next l a b hr =>
    have accepted := hrange _ hr
    simp only [Option.bind_eq_bind, Option.bind_eq_some_iff, Option.pure_def, Option.some.injEq] at hw
    obtain ⟨l, hl, a, ha, b, hb, rfl⟩ := hw
    have line := range_natural accepted (by simp) hl
    exact ⟨⟨line, range_natural accepted (by simp) ha⟩, line, range_natural accepted (by simp) hb⟩
  · next l a m b rest _ hr =>
    have accepted := hrange _ hr
    simp only [Option.bind_eq_bind, Option.bind_eq_some_iff, Option.pure_def, Option.some.injEq] at hw
    obtain ⟨l, hl, a, ha, m, hm, b, hb, rfl⟩ := hw
    exact ⟨⟨range_natural accepted (by simp) hl, range_natural accepted (by simp) ha⟩,
      range_natural accepted (by simp) hm, range_natural accepted (by simp) hb⟩
  · simp at hw

end WrittenSpan

namespace AnnotationFile

variable {v e : Json} {f : AnnotationFile}

theorem ofJson_eq_ok (h : ofJson v = .ok f) : schema.accepts v = true ∧ f = ofValid v := by
  unfold ofJson at h
  split at h
  · simp at h
  · next hr => exact ⟨Schema.report?_eq_none_iff.mp hr, (Except.ok.inj h).symm⟩

/-- The entries under a key of an accepted document keep to the schema of the entries there. -/
theorem accepts_entry {key : String} {t : Schema} (hv : schema.accepts v = true)
    (hk : schema.ofField? key = some [.type .array, .items t]) (he : e ∈ itemsField key v) :
    t.accepts e = true := by
  unfold itemsField at he
  split at he
  · next es hes => exact Schema.accepts_item (Schema.accepts_field hv hk hes) (by simp) e he
  · simp at he

/-- All tokens and comments of an accepted document lie at coordinates from zero. -/
theorem natural_of_ofJson (h : ofJson v = .ok f) :
    (∀ t ∈ f.tokenList, t.span.Natural) ∧ ∀ c ∈ f.commentList, c.span.Natural := by
  obtain ⟨hv, rfl⟩ := ofJson_eq_ok h
  constructor
  · intro t ht
    simp only [tokenList, ofValid, List.mem_map, List.mem_filterMap, Option.map_eq_some_iff] at ht
    obtain ⟨_, ⟨e, he, w, hw, rfl⟩, rfl⟩ := ht
    have accepted : tokenSchema.accepts e = true := accepts_entry hv rfl he
    exact WrittenSpan.natural_ofEntry? (fun s => Schema.accepts_field accepted rfl)
      (fun r => Schema.accepts_field accepted rfl) hw
  · intro c hc
    simp only [commentList, ofValid, List.mem_map, List.mem_filterMap, Option.map_eq_some_iff] at hc
    obtain ⟨_, ⟨e, he, w, hw, rfl⟩, rfl⟩ := hc
    have accepted : commentSchema.accepts e = true := accepts_entry hv rfl he
    exact WrittenSpan.natural_ofEntry? (fun s => Schema.accepts_field accepted rfl)
      (fun r => Schema.accepts_field accepted rfl) hw

end AnnotationFile
end Literate
