import Literate.Proofs.AnnotationFile.Document
import Literate.Proofs.Basic

/-! Annotations read from a document step by step. Each step asks for one part of a value and fails where
the value has no such part: no such key, no such index, or another type. From a document with
annotations all parts are got, and what comes together is what is read from it. -/

namespace Literate

/-- why a value has no part that is asked for -/
inductive AccessFault where
  | key (name : String)
  | index (n : Nat)
  | type (v : Json)
  deriving Repr

namespace Json

/-- the field at a key, which must be there -/
def get (key : String) : Json → Except AccessFault Json
  | object fs =>
    match fs.lookup ↑key with
    | some w => .ok w
    | none => .error (.key key)
  | v => .error (.type v)

/-- the field at a key, if there is one -/
def get? (key : String) : Json → Except AccessFault (Option Json)
  | object fs => .ok (fs.lookup ↑key)
  | v => .error (.type v)

def getItems : Json → Except AccessFault (List Json)
  | array ws => .ok ws
  | v => .error (.type v)

def getItem (ws : List Json) (n : Nat) : Except AccessFault Json :=
  match ws[n]? with
  | some w => .ok w
  | none => .error (.index n)

def getString : Json → Except AccessFault Wording
  | string s => .ok s
  | v => .error (.type v)

def getBool : Json → Except AccessFault Bool
  | bool b => .ok b
  | v => .error (.type v)

def getNumber (v : Json) : Except AccessFault Coordinate :=
  match Coordinate.ofJson? v with
  | some c => .ok c
  | none => .error (.type v)

def getNumberAt (key : String) (v : Json) : Except AccessFault Coordinate := do (← v.get key).getNumber

/-- the field at a key as `f` reads it, or something else where there is none -/
def getOr {α : Type} (v : Json) (key : String) (other : α) (f : Json → Except AccessFault α) :
    Except AccessFault α := do
  match ← v.get? key with
  | some w => f w
  | none => return other

end Json

open Json

namespace WrittenSpan

def accessSpan (s : Json) : Except AccessFault WrittenSpan := do
  let start ← s.get "start"
  let stop ← s.get "end"
  return ⟨← start.getNumberAt "line", ← start.getNumberAt "column", ← stop.getNumberAt "line",
    ← stop.getNumberAt "column"⟩

def accessRange (r : Json) : Except AccessFault WrittenSpan := do
  let ws ← r.getItems
  let number (n : Nat) : Except AccessFault Coordinate := do (← getItem ws n).getNumber
  if ws.length = 3 then return ⟨← number 0, ← number 1, ← number 0, ← number 2⟩
  else return ⟨← number 0, ← number 1, ← number 2, ← number 3⟩

def access (v : Json) : Except AccessFault WrittenSpan := do
  match ← v.get? "span" with
  | some s => accessSpan s
  | none => accessRange (← v.get "range")

/-! The three forms that the place of an entry has. -/

section

variable {v : Json} {l a m b : Coordinate}

theorem ofEntry?_span {s start stop : Json} (hs : v.field? "span" = some s)
    (hstart : s.field? "start" = some start) (hstop : s.field? "end" = some stop)
    (hl : coordinate? "line" start = some l)
    (ha : coordinate? "column" start = some a)
    (hm : coordinate? "line" stop = some m)
    (hb : coordinate? "column" stop = some b) :
    ofEntry? v = some ⟨l, a, m, b⟩ := by
  simp only [ ofEntry?, hs, hstart, hstop, hl, ha, hm, hb, Option.bind_eq_bind, Option.bind_some]
  rfl

theorem ofEntry?_line {x y z : Json} (hs : v.field? "span" = none)
    (hr : v.field? "range" = some (.array [x, y, z])) (hl : Coordinate.ofJson? x = some l)
    (ha : Coordinate.ofJson? y = some a) (hb : Coordinate.ofJson? z = some b) :
    ofEntry? v = some ⟨l, a, l, b⟩ := by
  simp only [ ofEntry?, hs, hr, hl, ha, hb, Option.bind_eq_bind, Option.bind_some]
  rfl

theorem ofEntry?_range {x y z t : Json} (hs : v.field? "span" = none)
    (hr : v.field? "range" = some (.array [x, y, z, t])) (hl : Coordinate.ofJson? x = some l)
    (ha : Coordinate.ofJson? y = some a) (hm : Coordinate.ofJson? z = some m)
    (hb : Coordinate.ofJson? t = some b) : ofEntry? v = some ⟨l, a, m, b⟩ := by
  simp only [ ofEntry?, hs, hr, hl, ha, hm, hb, Option.bind_eq_bind, Option.bind_some]
  rfl

end

end WrittenSpan

def Mark.access (v : Json) : Except AccessFault Mark := do
  return {
    symbol := ← v.getOr "symbol" [] getString
    isDefinition := ← v.getOr "is_definition" false getBool
    isReference := ← v.getOr "is_reference" false getBool
    highlight := ← v.getOr "highlight_class" [] getString
    doc := ← v.getOr "doc_text" [] fun w => do (← w.getItems).mapM getString }

def AnnotationFile.access (v : Json) : Except AccessFault AnnotationFile := do
  let tokens ← v.getOr "tokens" [] getItems
  let comments ← v.getOr "comments" [] getItems
  return {
    tokens := ← tokens.mapM fun e => do return (← WrittenSpan.access e, ← Mark.access e)
    comments := ← comments.mapM fun e => do
      return (← WrittenSpan.access e, ← (← e.get "content").getString) }

namespace Json

section

variable {v w : Json} {key : String} {P : Json → Prop}

theorem get_of_field? (h : v.field? key = some w) : v.get key = .ok w := by
  obtain ⟨fs, rfl⟩ := object_of_field? h
  have found : fs.lookup ↑key = some w := h
  rw [get, found]

theorem get?_of_object (h : ∃ fs, v = .object fs) : v.get? key = .ok (v.field? key) := by
  obtain ⟨fs, rfl⟩ := h
  rfl

theorem IsNatural.exists_coordinate (h : v.IsNatural) :
    ∃ c, Coordinate.ofJson? v = some c ∧ v.getNumber = .ok c := by
  obtain ⟨n, rfl | ⟨x, rfl, -⟩⟩ := h
  · exact ⟨.int n, rfl, rfl⟩
  · exact ⟨.real x, rfl, rfl⟩

theorem Has.exists_coordinate (h : v.Has key IsNatural) :
    ∃ c, WrittenSpan.coordinate? key v = some c ∧ v.getNumberAt key = .ok c := by
  obtain ⟨w, hw, hnatural⟩ := h
  obtain ⟨c, hc, hnumber⟩ := hnatural.exists_coordinate
  refine ⟨c, ?_, ?_⟩
  · rw [WrittenSpan.coordinate?, hw, Option.bind_some, hc]
  · rw [getNumberAt, get_of_field? hw, ok_bind, hnumber]

variable {α : Type} {other : α} {f : Json → Except AccessFault α}

theorem getOr_of_field? (h : v.field? key = some w) : v.getOr key other f = f w := by
  rw [getOr, get?_of_object (object_of_field? h), h]
  rfl

theorem getOr_of_none (hobject : ∃ fs, v = .object fs) (h : v.field? key = none) :
    v.getOr key other f = .ok other := by
  rw [getOr, get?_of_object hobject, h]
  rfl

end

section

variable {v : Json}

theorem IsSpan.exists_span {s : Json} (h : s.IsSpan) :
    ∃ w, WrittenSpan.accessSpan s = .ok w ∧
      (v.field? "span" = some s → WrittenSpan.ofEntry? v = some w) := by
  obtain ⟨⟨start, hstart, first⟩, stop, hstop, last⟩ := h
  obtain ⟨l, hl, getl⟩ := first.line.exists_coordinate
  obtain ⟨a, ha, geta⟩ := first.column.exists_coordinate
  obtain ⟨m, hm, getm⟩ := last.line.exists_coordinate
  obtain ⟨b, hb, getb⟩ := last.column.exists_coordinate
  refine ⟨⟨l, a, m, b⟩, ?_, fun hs => WrittenSpan.ofEntry?_span hs hstart hstop hl ha hm hb⟩
  simp only [WrittenSpan.accessSpan, get_of_field? hstart, get_of_field? hstop, getl, geta, getm, getb,
    ok_bind]
  rfl

theorem IsRange.exists_span {r : Json} (h : r.IsRange) :
    ∃ w, WrittenSpan.accessRange r = .ok w ∧
      (v.field? "span" = none → v.field? "range" = some r → WrittenSpan.ofEntry? v = some w) := by
  obtain ⟨⟨ws, rfl, natural⟩, hlength⟩ := h
  have number (w : Json) (hw : w ∈ ws) := (natural w hw).exists_coordinate
  rcases hlength ws rfl with h3 | h4
  · obtain ⟨x, y, z, rfl⟩ := List.length_eq_three.mp h3
    obtain ⟨l, hl, getl⟩ := number x (by simp)
    obtain ⟨a, ha, geta⟩ := number y (by simp)
    obtain ⟨b, hb, getb⟩ := number z (by simp)
    refine ⟨⟨l, a, l, b⟩, ?_, fun hs hr => WrittenSpan.ofEntry?_line hs hr hl ha hb⟩
    simp only [WrittenSpan.accessRange, getItems, getItem, ok_bind, if_pos h3,
      List.getElem?_cons_zero, List.getElem?_cons_succ, getl, geta, getb]
    rfl
  · have not3 : ¬ ws.length = 3 := by omega
    obtain ⟨x, y, z, t, rfl⟩ := List.length_eq_four.mp h4
    obtain ⟨l, hl, getl⟩ := number x (by simp)
    obtain ⟨a, ha, geta⟩ := number y (by simp)
    obtain ⟨m, hm, getm⟩ := number z (by simp)
    obtain ⟨b, hb, getb⟩ := number t (by simp)
    refine ⟨⟨l, a, m, b⟩, ?_, fun hs hr => WrittenSpan.ofEntry?_range hs hr hl ha hm hb⟩
    simp only [WrittenSpan.accessRange, getItems, getItem, ok_bind, if_neg not3,
      List.getElem?_cons_zero, List.getElem?_cons_succ, getl, geta, getm, getb]
    rfl

/-- A span object is read, or else a range; all parts of it are there. -/
theorem IsPlaced.exists_span (h : v.IsPlaced) :
    ∃ w, WrittenSpan.access v = .ok w ∧ WrittenSpan.ofEntry? v = some w := by
  rw [WrittenSpan.access, get?_of_object h.object, ok_bind]
  cases hs : v.field? "span" with
  | some s =>
    obtain ⟨w, hw, hentry⟩ := (h.span s hs).exists_span (v := v)
    exact ⟨w, hw, hentry hs⟩
  | none =>
    obtain ⟨r, hr⟩ := h.placed.resolve_left (by rw [hs]; rintro ⟨s, ⟨⟩⟩)
    obtain ⟨w, hw, hentry⟩ := (h.range r hr).exists_span (v := v)
    dsimp only
    rw [get_of_field? hr]
    exact ⟨w, hw, hentry hs hr⟩

end

open AnnotationFile (itemsField stringField boolField stringsField markOf)

section

variable {v : Json} {key : String}

theorem getString_field (h : v.May key IsString) (hobject : ∃ fs, v = .object fs) :
    v.getOr key [] getString = .ok (stringField key v) := by
  unfold stringField
  cases hw : v.field? key with
  | none => rw [getOr_of_none hobject hw]
  | some w =>
    obtain ⟨s, rfl⟩ := h w hw
    rw [getOr_of_field? hw]
    rfl

theorem getBool_field (h : v.May key IsBool) (hobject : ∃ fs, v = .object fs) :
    v.getOr key false getBool = .ok (boolField key v) := by
  unfold boolField
  cases hw : v.field? key with
  | none => rw [getOr_of_none hobject hw]
  | some w =>
    obtain ⟨b, rfl⟩ := h w hw
    rw [getOr_of_field? hw]
    rfl

theorem getItems_field {P : Json → Prop} (h : v.May key (IsArrayOf P)) (hobject : ∃ fs, v = .object fs) :
    v.getOr key [] getItems = .ok (itemsField key v) := by
  unfold itemsField
  cases hw : v.field? key with
  | none => rw [getOr_of_none hobject hw]
  | some w =>
    obtain ⟨ws, rfl, -⟩ := h w hw
    rw [getOr_of_field? hw]
    rfl

theorem getStrings_field (h : v.May key (IsArrayOf IsString)) (hobject : ∃ fs, v = .object fs) :
    (v.getOr key [] fun w => do (← w.getItems).mapM getString) = .ok (stringsField key v) := by
  unfold stringsField itemsField
  cases hw : v.field? key with
  | none =>
    rw [getOr_of_none hobject hw]
    rfl
  | some w =>
    obtain ⟨ws, rfl, strings⟩ := h w hw
    rw [getOr_of_field? hw, getItems, ok_bind, mapM_eq_filterMap]
    intro w hw
    obtain ⟨s, rfl⟩ := strings w hw
    exact ⟨s, rfl, rfl⟩

/-- The entries under a key are as asked. -/
theorem May.mem_items {P : Json → Prop} (h : v.May key (IsArrayOf P)) :
    ∀ e ∈ itemsField key v, P e := by
  intro e he
  unfold itemsField at he
  split at he
  · next ws hws =>
    obtain ⟨_, hus, items⟩ := h _ hws
    rw [← array.inj hus] at items
    exact items e he
  · cases he

end

/-- The fields of a token are read, each with its own type. -/
theorem IsToken.access_mark {v : Json} (h : v.IsToken) :
    Mark.access v = .ok (markOf v) := by
  rw [Mark.access, getString_field h.symbol h.object, getBool_field h.isDefinition h.object,
    getBool_field h.isReference h.object, getString_field h.highlight h.object,
    getStrings_field h.doc h.object]
  rfl

theorem IsComment.access_content {v : Json} (h : v.IsComment) :
    (do (← v.get "content").getString) = .ok (stringField "content" v) := by
  obtain ⟨_, hs, s, rfl⟩ := h.content
  rw [get_of_field? hs, ok_bind, stringField, hs]
  rfl

/-- From a document with annotations all parts are got, and they are what is read. -/
theorem IsAnnotations.access_eq {v : Json} (h : v.IsAnnotations) :
    AnnotationFile.access v = .ok (AnnotationFile.ofValid v) := by
  have tokens (e : Json) (he : e ∈ itemsField "tokens" v) :
      ∃ t, (do return (← WrittenSpan.access e, ← Mark.access e)) = Except.ok t ∧
        (WrittenSpan.ofEntry? e).map (fun w => (w, markOf e)) = some t := by
    have token := h.tokens.mem_items e he
    obtain ⟨w, hw, hentry⟩ := token.exists_span
    refine ⟨(w, markOf e), ?_, by rw [hentry]; rfl⟩
    rw [hw, token.access_mark]
    rfl
  have comments (e : Json) (he : e ∈ itemsField "comments" v) :
      ∃ c, (do return (← WrittenSpan.access e, ← (← e.get "content").getString)) = Except.ok c ∧
        (WrittenSpan.ofEntry? e).map (fun w => (w, stringField "content" e)) = some c := by
    have comment := h.comments.mem_items e he
    obtain ⟨w, hw, hentry⟩ := comment.exists_span
    refine ⟨(w, stringField "content" e), ?_, by rw [hentry]; rfl⟩
    rw [hw, ok_bind, ← bind_assoc, comment.access_content]
    rfl
  rw [AnnotationFile.access, getItems_field h.tokens h.object, ok_bind,
    getItems_field h.comments h.object, ok_bind, mapM_eq_filterMap tokens, ok_bind,
    mapM_eq_filterMap comments]
  rfl

end Json
end Literate

