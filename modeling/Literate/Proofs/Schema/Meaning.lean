import Mathlib
import Literate.Schema.Report

/-! What a schema asks of a value. Each rule is a condition on the value, or on the parts of it that
schemas of their own speak about; a value is accepted when all rules hold, and then no fault is
reported. -/

namespace Literate

theorem Json.beq_string_iff {v : Json} {k : String} : (v == .string k) = true ↔ v = .string k := by
  change v.beq (.string k) = true ↔ _
  cases v <;> simp [Json.beq]

namespace Rule

/-- What a rule of `schema` asks of a value. Values of another type than the rule's are left alone. -/
def Asks (schema : Schema) (v : Json) : Rule → Prop
  | type t => t.has v = true
  | required ks => ∀ fs, v = .object fs → ∀ k ∈ ks, ∃ w, fs.lookup ↑k = some w
  | properties fields => ∀ fs, v = .object fs → ∀ f ∈ fields, ∀ w, fs.lookup ↑f.1 = some w →
      Schema.accepts f.2 w = true
  | closed => ∀ fs, v = .object fs → ∀ f ∈ fs, f.1 ∈ schema.keys.map codes
  | items s => ∀ ws, v = .array ws → ∀ w ∈ ws, Schema.accepts s w = true
  | minItems n => ∀ ws, v = .array ws → n ≤ ws.length
  | maxItems n => ∀ ws, v = .array ws → ws.length ≤ n
  | minimum n => belowMinimum n v = false
  | anyOf ss => ∃ s ∈ ss, Schema.accepts s v = true
  | oneOf ss => ss.countP (fun s => Schema.accepts s v) = 1
  | const k => v = .string k
  | among ks => ∃ k ∈ ks, v = .string k

attribute [local simp] Asks faults ruleFaults simpleFaults fieldFaults alternatives

variable {schema : Schema} {v : Json}

theorem faults_eq_nil_iff (rs : List Rule) :
    faults schema v rs = [] ↔ ∀ r ∈ rs, ruleFaults schema v r = [] := by
  induction rs with
  | nil => simp
  | cons r rs ih => simp [ih]

theorem fieldFaults_eq_nil_iff (fs : List (Wording × Json)) (fields : List (String × List Rule)) :
    fieldFaults fs fields = [] ↔
      ∀ f ∈ fields, ∀ w, fs.lookup ↑f.1 = some w → faults f.2 w f.2 = [] := by
  induction fields with
  | nil => simp
  | cons f fields ih =>
    obtain ⟨k, s⟩ := f
    cases h : fs.lookup ↑k <;> simp [ih, h]

theorem alternatives_eq_none_iff (ss : List (List Rule)) :
    alternatives v ss = none ↔ ∃ s ∈ ss, faults s v s = [] := by
  induction ss with
  | nil => simp
  | cons s ss ih => cases h : faults s v s <;> simp [ih, h]

theorem fitting_eq_countP (ss : List (List Rule)) :
    fitting v ss = ss.countP fun s => Schema.accepts s v := by
  induction ss with
  | nil => rfl
  | cons s ss ih =>
    rw [fitting, ih, List.countP_cons, Nat.add_comm]
    rfl

theorem accepts_iff_faults (s : Schema) : s.accepts v = true ↔ faults s v s = [] := by
  rw [Schema.accepts, Schema.faults, List.isEmpty_iff]

theorem properties_iff (fields : List (String × List Rule)) :
    ruleFaults schema v (properties fields) = [] ↔ Asks schema v (properties fields) := by
  cases v <;> simp [fieldFaults_eq_nil_iff, accepts_iff_faults]

theorem required_iff (ks : List String) :
    ruleFaults schema v (required ks) = [] ↔ Asks schema v (required ks) := by
  cases v with
  | object fs =>
    simp only [ruleFaults, simpleFaults, Asks, List.map_eq_nil_iff, List.filter_eq_nil_iff,
      Json.object.injEq, forall_eq', ← Option.isSome_iff_exists, Option.isNone_iff_eq_none,
      Option.isSome_iff_ne_none]
  | _ => simp

theorem items_iff (s : List Rule) :
    ruleFaults schema v (items s) = [] ↔ Asks schema v (items s) := by
  cases v with
  | array ws =>
    have parts : ruleFaults schema (.array ws) (items s) = [] ↔
        ∀ e ∈ ws.zipIdx, faults s e.1 s = [] := by
      simp only [ruleFaults, List.flatten_eq_nil_iff, List.forall_mem_map, List.map_eq_nil_iff]
    rw [parts]
    simp only [Asks, accepts_iff_faults, Json.array.injEq, forall_eq']
    constructor
    · intro h w hw
      obtain ⟨n, hn⟩ := List.mem_iff_getElem?.mp hw
      exact h (w, n) (List.mk_mem_zipIdx_iff_getElem?.mpr hn)
    · intro h e he
      exact h e.1 (List.mem_of_getElem? (List.mk_mem_zipIdx_iff_getElem?.mp he))
  | _ => simp

theorem anyOf_iff (ss : List (List Rule)) :
    ruleFaults schema v (anyOf ss) = [] ↔ Asks schema v (anyOf ss) := by
  have h := alternatives_eq_none_iff (v := v) ss
  simp only [Asks, accepts_iff_faults]
  rw [← h, ruleFaults]
  cases alternatives v ss <;> simp

theorem oneOf_iff (ss : List (List Rule)) :
    ruleFaults schema v (oneOf ss) = [] ↔ Asks schema v (oneOf ss) := by
  have some_fits : alternatives v ss = none ↔ 0 < fitting v ss := by
    rw [alternatives_eq_none_iff, fitting_eq_countP, List.countP_pos_iff]
    simp only [accepts_iff_faults]
  rw [Asks, ← fitting_eq_countP, ruleFaults]
  cases h : alternatives v ss with
  | none =>
    have := some_fits.mp h
    simp only [ite_eq_right_iff, List.cons_ne_self, imp_false]
    omega
  | some context =>
    have : ¬ 0 < fitting v ss := fun k => by simp [some_fits.mpr k] at h
    simp only [List.cons_ne_self, false_iff]
    omega

/-- A rule finds no fault in a value when what it asks holds. -/
theorem ruleFaults_eq_nil_iff (r : Rule) : ruleFaults schema v r = [] ↔ Asks schema v r := by
  cases r with
  | required ks => exact required_iff ks
  | properties fields => exact properties_iff fields
  | items s => exact items_iff s
  | anyOf ss => exact anyOf_iff ss
  | oneOf ss => exact oneOf_iff ss
  | type t => simp
  | closed => cases v <;> simp
  | minItems n => cases v <;> simp
  | maxItems n => cases v <;> simp
  | minimum n => simp
  | const k => simp [Json.beq_string_iff]
  | among ks => simp [Json.beq_string_iff]

end Rule

namespace Schema

variable {s : Schema} {v : Json}

/-- A value is accepted when all rules hold. -/
theorem accepts_iff : s.accepts v = true ↔ ∀ r ∈ s, r.Asks s v := by
  rw [Rule.accepts_iff_faults, Rule.faults_eq_nil_iff]
  simp only [Rule.ruleFaults_eq_nil_iff]

/-- the schema for the values of a field -/
def ofField? (s : Schema) (key : String) : Option Schema :=
  s.findSome? fun
    | .properties fields => fields.lookup key
    | _ => none

theorem accepts_field {t : Schema} {key : String} {w : Json} (hv : s.accepts v = true)
    (ht : s.ofField? key = some t) (hw : v.field? key = some w) : t.accepts w = true := by
  obtain ⟨r, hr, hk⟩ := List.exists_of_findSome?_eq_some ht
  have asks := accepts_iff.mp hv r hr
  cases r with
  | properties fields =>
    obtain ⟨before, behind, rfl, -⟩ := List.lookup_eq_some_iff.mp hk
    cases v with
    | object fs => exact asks fs rfl (key, t) (by simp) w hw
    | _ => simp [Json.field?] at hw
  | _ => simp at hk

theorem accepts_item {t : Schema} {ws : List Json} (hv : s.accepts (.array ws) = true)
    (ht : .items t ∈ s) : ∀ w ∈ ws, t.accepts w = true :=
  accepts_iff.mp hv _ ht ws rfl

/-- An object, when a schema names the keys that must be there and the schemas of fields. -/
theorem accepts_object_iff {ks : List String} {fields : List (String × Schema)}
    {fs : List (Wording × Json)} :
    accepts [.type .object, .required ks, .properties fields] (.object fs) = true ↔
      (∀ k ∈ ks, (fs.lookup ↑k).isSome) ∧
      ∀ f ∈ fields, ∀ w ∈ fs.lookup ↑f.1, accepts f.2 w = true := by
  rw [accepts_iff]
  simp [Rule.Asks, JsonType.has, Option.isSome_iff_exists]

/-- the same, when there must be no other fields -/
theorem accepts_closed_iff {ks : List String} {fields : List (String × Schema)}
    {fs : List (Wording × Json)} :
    accepts [.type .object, .required ks, .properties fields, .closed] (.object fs) = true ↔
      (∀ k ∈ ks, (fs.lookup ↑k).isSome) ∧
      (∀ f ∈ fields, ∀ w ∈ fs.lookup ↑f.1, accepts f.2 w = true) ∧
      ∀ f ∈ fs, f.1 ∈ fields.map fun f => codes f.1 := by
  rw [accepts_iff]
  simp [Rule.Asks, JsonType.has, Option.isSome_iff_exists, keys]

theorem accepts_array_iff {t : Schema} {ws : List Json} :
    accepts [.type .array, .items t] (.array ws) = true ↔ ∀ w ∈ ws, t.accepts w = true := by
  rw [accepts_iff]
  simp [Rule.Asks, JsonType.has]

theorem accepts_filled_iff {t : Schema} {n : Nat} {ws : List Json} :
    accepts [.type .array, .minItems n, .items t] (.array ws) = true ↔
      n ≤ ws.length ∧ ∀ w ∈ ws, t.accepts w = true := by
  rw [accepts_iff]
  simp [Rule.Asks, JsonType.has]

theorem accepts_oneOf_iff {ss : List Schema} :
    accepts [.oneOf ss] v = true ↔ ss.countP (fun s => accepts s v) = 1 := by
  rw [accepts_iff]
  simp [Rule.Asks]

/-- An accepted value is one with nothing to report. -/
theorem report?_eq_none_iff : s.report? v = none ↔ s.accepts v = true := by
  rw [report?, accepts]
  cases s.faults v <;> simp [Fault.greatest]

end Schema
end Literate
