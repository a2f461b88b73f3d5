import Literate.Proofs.AnnotationFile.Natural

/-! Which documents are accepted as annotations, in words of the documents: an object whose tokens and
comments, if there are any, are arrays of objects, each with a span or a range, and with fields of the
right types. The schema accepts these and no others. -/

namespace Literate

namespace Json

/-- a whole number that is not negative, perhaps written as a real number -/
def IsNatural (v : Json) : Prop := ∃ n : Nat, v = .int n ∨ ∃ x, v = .real x ∧ x.toInt? = some (n : Int)

def IsString (v : Json) : Prop := ∃ s, v = .string s

def IsBool (v : Json) : Prop := ∃ b, v = .bool b

/-- an array of values that are as asked -/
def IsArrayOf (P : Json → Prop) (v : Json) : Prop := ∃ ws, v = .array ws ∧ ∀ w ∈ ws, P w

/-- an object with a field that is as asked -/
def Has (v : Json) (key : String) (P : Json → Prop) : Prop := ∃ w, v.field? key = some w ∧ P w

/-- The field is as asked, if there is one. -/
def May (v : Json) (key : String) (P : Json → Prop) : Prop := ∀ w, v.field? key = some w → P w

structure IsPosition (v : Json) : Prop where
  line : v.Has "line" IsNatural
  column : v.Has "column" IsNatural

structure IsSpan (v : Json) : Prop where
  start : v.Has "start" IsPosition
  stop : v.Has "end" IsPosition

/-- three or four numbers -/
structure IsRange (v : Json) : Prop where
  numbers : v.IsArrayOf IsNatural
  length : ∀ ws, v = .array ws → ws.length = 3 ∨ ws.length = 4

/-- an entry with a place in the source -/
structure IsPlaced (v : Json) : Prop where
  object : ∃ fs, v = .object fs
  placed : (∃ w, v.field? "span" = some w) ∨ ∃ w, v.field? "range" = some w
  span : v.May "span" IsSpan
  range : v.May "range" IsRange

structure IsToken (v : Json) : Prop extends IsPlaced v where
  symbol : v.May "symbol" IsString
  isDefinition : v.May "is_definition" IsBool
  isReference : v.May "is_reference" IsBool
  highlight : v.May "highlight_class" IsString
  doc : v.May "doc_text" (IsArrayOf IsString)

structure IsComment (v : Json) : Prop extends IsPlaced v where
  content : v.Has "content" IsString

/-- a document with annotations -/
structure IsAnnotations (v : Json) : Prop where
  object : ∃ fs, v = .object fs
  tokens : v.May "tokens" (IsArrayOf IsToken)
  comments : v.May "comments" (IsArrayOf IsComment)

end Json

/-- An integer is below zero as a real number just where it is negative. -/
theorem Binary64.belowZero_iff {x : Binary64} {k : Int} (h : x.toInt? = some k) :
    x.belowZero = false ↔ 0 ≤ k := by
  refine ⟨nonneg_of_toInt? h, fun hk => ?_⟩
  cases x with
  | infinite negative => simp [toInt?] at h
  | nan => rfl
  | finite negative m e =>
    have power (n : Nat) : 0 < powerOfTwo n := Nat.pow_pos (by decide)
    by_contra below
    obtain ⟨rfl, hm⟩ : negative = true ∧ m ≠ 0 := by simpa [belowZero] using below
    simp only [toInt?, if_true] at h
    split_ifs at h with hexp hdvd
    · have := Nat.mul_pos (Nat.pos_of_ne_zero hm) (power e.toNat)
      rw [← Option.some.inj h] at hk
      omega
    · have := Nat.div_pos (Nat.le_of_dvd (Nat.pos_of_ne_zero hm) (Nat.dvd_of_mod_eq_zero hdvd))
        (power (-e).toNat)
      rw [← Option.some.inj h] at hk
      omega

namespace Rule

variable {schema : Schema} {v : Json}

theorem asks_properties_iff (fields : List (String × Schema)) :
    (properties fields).Asks schema v ↔
      ∀ f ∈ fields, v.May f.1 fun w => Schema.accepts f.2 w = true := by
  cases v <;> simp [Asks, Json.May, Json.field?]

theorem asks_object_iff : (type .object).Asks schema v ↔ ∃ fs, v = .object fs := by
  cases v <;> simp [Asks, JsonType.has]

theorem asks_required_iff (h : ∃ fs, v = .object fs) (ks : List String) :
    (required ks).Asks schema v ↔ ∀ k ∈ ks, ∃ w, v.field? k = some w := by
  obtain ⟨fs, rfl⟩ := h
  simp [Asks, Json.field?]

end Rule

namespace Json

variable {v : Json} {key : String} {P : Json → Prop}

theorem has_iff : v.Has key P ↔ (∃ w, v.field? key = some w) ∧ v.May key P := by
  constructor
  · rintro ⟨w, hw, hP⟩
    refine ⟨⟨w, hw⟩, fun u hu => ?_⟩
    rw [hw] at hu
    exact Option.some.inj hu ▸ hP
  · rintro ⟨⟨w, hw⟩, hP⟩
    exact ⟨w, hw, hP w hw⟩

theorem object_of_field? {w : Json} (h : v.field? key = some w) : ∃ fs, v = .object fs := by
  cases v with
  | object fs => exact ⟨fs, rfl⟩
  | _ => cases h

end Json

namespace AnnotationFile

open Json Schema

variable {v : Json}

theorem accepts_natural_iff : accepts [.type .integer, .minimum 0] v = true ↔ v.IsNatural := by
  rw [accepts_iff]
  simp only [List.forall_mem_cons, List.not_mem_nil, false_implies, implies_true, and_true, Rule.Asks]
  cases v with
  | int n =>
    have natural : 0 ≤ n ↔ ∃ k : Nat, n = k := ⟨Int.eq_ofNat_of_zero_le, by rintro ⟨k, rfl⟩; omega⟩
    simpa [JsonType.has, Rule.belowMinimum, IsNatural] using natural
  | real x =>
    simp only [JsonType.has, Rule.belowMinimum, if_true, IsNatural, reduceCtorEq, false_or, real.injEq]
    constructor
    · rintro ⟨hwhole, hbelow⟩
      obtain ⟨k, hk⟩ := Option.isSome_iff_exists.mp hwhole
      obtain ⟨n, rfl⟩ := Int.eq_ofNat_of_zero_le ((Binary64.belowZero_iff hk).mp hbelow)
      exact ⟨n, x, rfl, hk⟩
    · rintro ⟨n, _, rfl, hn⟩
      exact ⟨by rw [hn]; rfl, (Binary64.belowZero_iff hn).mpr (Int.natCast_nonneg n)⟩
  | _ => simp [JsonType.has, IsNatural]

theorem accepts_string_iff : stringSchema.accepts v = true ↔ v.IsString := by
  rw [stringSchema, accepts_iff]
  cases v <;> simp [Rule.Asks, JsonType.has, IsString]

theorem accepts_bool_iff : accepts [.type .boolean] v = true ↔ v.IsBool := by
  rw [accepts_iff]
  cases v <;> simp [Rule.Asks, JsonType.has, IsBool]

theorem accepts_arrayOf_iff {t : Schema} {P : Json → Prop} (h : ∀ w, t.accepts w = true ↔ P w) :
    accepts [.type .array, .items t] v = true ↔ v.IsArrayOf P := by
  cases v with
  | array ws => simp [accepts_array_iff, IsArrayOf, h]
  | _ =>
    rw [accepts_iff]
    simp [Rule.Asks, JsonType.has, IsArrayOf]

/-- An object whose fields must all be there. -/
theorem accepts_pair_iff {k l : String} {s t : Schema} :
    accepts [.type .object, .required [k, l], .properties [(k, s), (l, t)]] v = true ↔
      v.Has k (fun w => s.accepts w = true) ∧ v.Has l fun w => t.accepts w = true := by
  rw [accepts_iff]
  simp only [List.forall_mem_cons, List.not_mem_nil, false_implies, implies_true, and_true,
    Rule.asks_object_iff, Rule.asks_properties_iff]
  constructor
  · rintro ⟨hobject, hrequired, hk, hl⟩
    have required := (Rule.asks_required_iff hobject _).mp hrequired
    exact ⟨has_iff.mpr ⟨required k (by simp), hk⟩, has_iff.mpr ⟨required l (by simp), hl⟩⟩
  · rintro ⟨hk, hl⟩
    obtain ⟨⟨w, hw⟩, hk⟩ := has_iff.mp hk
    obtain ⟨hl', hl⟩ := has_iff.mp hl
    have object := object_of_field? hw
    exact ⟨object, (Rule.asks_required_iff object _).mpr (by simp [hw, hl']), hk, hl⟩

theorem accepts_position_iff : positionSchema.accepts v = true ↔ v.IsPosition := by
  rw [positionSchema, accepts_pair_iff]
  simp only [accepts_natural_iff]
  exact ⟨fun h => ⟨h.1, h.2⟩, fun h => ⟨h.line, h.column⟩⟩

theorem accepts_span_iff : spanSchema.accepts v = true ↔ v.IsSpan := by
  rw [spanSchema, accepts_pair_iff]
  simp only [accepts_position_iff]
  exact ⟨fun h => ⟨h.1, h.2⟩, fun h => ⟨h.start, h.stop⟩⟩

theorem accepts_range_iff : rangeSchema.accepts v = true ↔ v.IsRange := by
  rw [rangeSchema, accepts_iff]
  cases v with
  | array ws =>
    simp only [List.forall_mem_cons, List.not_mem_nil, false_implies, implies_true, and_true, Rule.Asks,
      array.injEq, forall_eq', accepts_natural_iff, JsonType.has, true_and]
    constructor
    · rintro ⟨hnumbers, hleast, hmost⟩
      refine ⟨⟨ws, rfl, hnumbers⟩, fun us hus => ?_⟩
      rw [← array.inj hus]
      omega
    · rintro ⟨⟨us, hus, hnumbers⟩, hlength⟩
      rw [← array.inj hus] at hnumbers
      have := hlength ws rfl
      exact ⟨hnumbers, by omega, by omega⟩
  | _ =>
    refine iff_of_false (fun h => ?_) fun h => ?_
    · have := h (.type .array) (by simp)
      simp [Rule.Asks, JsonType.has] at this
    · obtain ⟨ws, hws, -⟩ := h.numbers
      cases hws

theorem asks_placed_iff (h : ∃ fs, v = .object fs) {s : Schema} :
    placed.Asks s v ↔ (∃ w, v.field? "span" = some w) ∨ ∃ w, v.field? "range" = some w := by
  have one (k : String) : accepts [.required [k]] v = true ↔ ∃ w, v.field? k = some w := by
    rw [accepts_iff]
    simp only [List.forall_mem_cons, List.not_mem_nil, false_implies, implies_true, and_true,
      Rule.asks_required_iff h]
  simp only [placed, Rule.Asks, List.exists_mem_cons_iff, one, List.not_mem_nil, false_and, exists_false,
    or_false]

theorem accepts_token_iff : tokenSchema.accepts v = true ↔ v.IsToken := by
  rw [tokenSchema, accepts_iff]
  simp only [List.forall_mem_cons, List.not_mem_nil, false_implies, implies_true, and_true,
    Rule.asks_object_iff, Rule.asks_properties_iff, accepts_span_iff, accepts_range_iff,
    accepts_string_iff, accepts_bool_iff,
    accepts_arrayOf_iff (t := stringSchema) fun _ => accepts_string_iff]
  constructor
  · rintro ⟨object, placed, span, range, symbol, isDefinition, isReference, highlight, doc⟩
    exact ⟨⟨object, (asks_placed_iff object).mp placed, span, range⟩, symbol, isDefinition, isReference,
      highlight, doc⟩
  · intro h
    exact ⟨h.object, (asks_placed_iff h.object).mpr h.placed, h.span, h.range, h.symbol, h.isDefinition,
      h.isReference, h.highlight, h.doc⟩

theorem accepts_comment_iff : commentSchema.accepts v = true ↔ v.IsComment := by
  rw [commentSchema, accepts_iff]
  simp only [List.forall_mem_cons, List.not_mem_nil, false_implies, implies_true, and_true,
    Rule.asks_object_iff, Rule.asks_properties_iff, accepts_span_iff, accepts_range_iff,
    accepts_string_iff]
  constructor
  · rintro ⟨object, required, placed, span, range, content⟩
    have written := (Rule.asks_required_iff object _).mp required "content" (by simp)
    exact ⟨⟨object, (asks_placed_iff object).mp placed, span, range⟩, has_iff.mpr ⟨written, content⟩⟩
  · intro h
    obtain ⟨written, content⟩ := has_iff.mp h.content
    exact ⟨h.object, (Rule.asks_required_iff h.object _).mpr (by simpa using written),
      (asks_placed_iff h.object).mpr h.placed, h.span, h.range, content⟩

/-- The schema accepts documents with annotations, and no others. -/
theorem accepts_iff_isAnnotations : schema.accepts v = true ↔ v.IsAnnotations := by
  rw [schema, accepts_iff]
  simp only [List.forall_mem_cons, List.not_mem_nil, false_implies, implies_true, and_true,
    Rule.asks_object_iff, Rule.asks_properties_iff,
    accepts_arrayOf_iff (t := tokenSchema) fun _ => accepts_token_iff,
    accepts_arrayOf_iff (t := commentSchema) fun _ => accepts_comment_iff]
  exact ⟨fun h => ⟨h.1, h.2.1, h.2.2⟩, fun h => ⟨h.object, h.tokens, h.comments⟩⟩

end AnnotationFile
end Literate
