import Literate.Proofs.AnnotationFile.Access

/-! Annotations written as documents. A span has up to three forms, each coordinate may be a real number,
and fields with their usual values may be left out; every mixture of these is read as the annotations that
were written. -/

namespace Literate

namespace Json

/-- an integer, perhaps as a real number -/
def WritesCoordinate (n : Int) (v : Json) : Prop := v = .int n ∨ ∃ x, v = .real x ∧ x.toInt? = some n

structure WritesPosition (p : Position) (v : Json) : Prop where
  line : v.Has "line" (WritesCoordinate p.line)
  column : v.Has "column" (WritesCoordinate p.column)

structure WritesSpan (s : Span) (v : Json) : Prop where
  start : v.Has "start" (WritesPosition s.start)
  stop : v.Has "end" (WritesPosition s.stop)

/-- Four numbers write any span, three of them a span on one line. -/
inductive WritesRange (s : Span) : Json → Prop where
  | whole {l a m b : Json} :
      WritesCoordinate s.start.line l → WritesCoordinate s.start.column a →
      WritesCoordinate s.stop.line m → WritesCoordinate s.stop.column b →
      WritesRange s (.array [l, a, m, b])
  | oneLine {l a b : Json} :
      s.stop.line = s.start.line → WritesCoordinate s.start.line l →
      WritesCoordinate s.start.column a → WritesCoordinate s.stop.column b →
      WritesRange s (.array [l, a, b])

/-- an entry with a span, beside which any range may stand, or with a range alone -/
inductive WritesPlace (s : Span) (v : Json) : Prop where
  | span : v.Has "span" (WritesSpan s) → v.May "range" IsRange → WritesPlace s v
  | range : v.field? "span" = none → v.Has "range" (WritesRange s) → WritesPlace s v

/-- A field has a value, and may be left out where this is the usual one. -/
def WritesField (key : String) (usual : Prop) (P : Json → Prop) (v : Json) : Prop :=
  v.Has key P ∨ (v.field? key = none ∧ usual)

structure WritesToken (t : Token) (v : Json) : Prop where
  place : v.WritesPlace t.span
  symbol : v.WritesField "symbol" (t.mark.symbol = []) (· = .string t.mark.symbol)
  isDefinition : v.WritesField "is_definition" (t.mark.isDefinition = false) (· = .bool t.mark.isDefinition)
  isReference : v.WritesField "is_reference" (t.mark.isReference = false) (· = .bool t.mark.isReference)
  highlight : v.WritesField "highlight_class" (t.mark.highlight = []) (· = .string t.mark.highlight)
  doc : v.WritesField "doc_text" (t.mark.doc = []) (· = .array (t.mark.doc.map .string))

structure WritesComment (c : Comment) (v : Json) : Prop where
  place : v.WritesPlace c.span
  content : v.Has "content" (· = .string c.content)

/-- an array with an entry for each item, in their order -/
def WritesItems {α : Type} (R : α → Json → Prop) (as : List α) (v : Json) : Prop :=
  ∃ es, v = .array es ∧ List.Forall₂ R as es

structure WritesDocument (ts : List Token) (cs : List Comment) (v : Json) : Prop where
  object : ∃ fs, v = .object fs
  tokens : v.WritesField "tokens" (ts = []) (WritesItems WritesToken ts)
  comments : v.WritesField "comments" (cs = []) (WritesItems WritesComment cs)

section

variable {v : Json} {n : Int} {p : Position} {s : Span} {key : String} {P Q : Json → Prop} {usual : Prop}

theorem Has.imp (h : v.Has key P) (hPQ : ∀ w, P w → Q w) : v.Has key Q := by
  obtain ⟨w, hw, hP⟩ := h
  exact ⟨w, hw, hPQ w hP⟩

theorem WritesField.may (h : v.WritesField key usual P) (hPQ : ∀ w, P w → Q w) : v.May key Q := by
  rcases h with h | ⟨hnone, -⟩
  · exact (has_iff.mp (h.imp hPQ)).2
  · intro w hw
    rw [hnone] at hw
    cases hw

theorem WritesCoordinate.natural (h : WritesCoordinate n v) (hn : 0 ≤ n) : v.IsNatural := by
  obtain ⟨k, rfl⟩ := Int.eq_ofNat_of_zero_le hn
  rcases h with rfl | ⟨x, rfl, hx⟩
  · exact ⟨k, .inl rfl⟩
  · exact ⟨k, .inr ⟨x, rfl, hx⟩⟩

theorem WritesCoordinate.exists_value (h : WritesCoordinate n v) :
    ∃ c, Coordinate.ofJson? v = some c ∧ c.value = n := by
  rcases h with rfl | ⟨x, rfl, hx⟩
  · exact ⟨.int n, rfl, rfl⟩
  · exact ⟨.real x, rfl, by rw [Coordinate.value, hx, Option.getD_some]⟩

theorem exists_value_of_has (h : v.Has key (WritesCoordinate n)) :
    ∃ c, WrittenSpan.coordinate? key v = some c ∧ c.value = n := by
  obtain ⟨w, hw, writes⟩ := h
  rw [WrittenSpan.coordinate?, hw, Option.bind_some]
  exact writes.exists_value

theorem WritesPosition.isPosition (h : WritesPosition p v) (hp : p.Natural) : v.IsPosition where
  line := h.line.imp fun _ writes => writes.natural hp.1
  column := h.column.imp fun _ writes => writes.natural hp.2

theorem WritesSpan.isSpan (h : WritesSpan s v) (hs : s.Natural) : v.IsSpan where
  start := h.start.imp fun _ writes => writes.isPosition hs.1
  stop := h.stop.imp fun _ writes => writes.isPosition hs.2

theorem WritesRange.isRange (h : WritesRange s v) (hs : s.Natural) : v.IsRange := by
  obtain ⟨⟨hl, ha⟩, hm, hb⟩ := hs
  cases h with
  | whole l a m b =>
    refine ⟨⟨_, rfl, ?_⟩, fun ws hws => .inr (by rw [← array.inj hws]; rfl)⟩
    simp only [List.forall_mem_cons, List.not_mem_nil, false_implies, implies_true, and_true]
    exact ⟨l.natural hl, a.natural ha, m.natural hm, b.natural hb⟩
  | oneLine _ l a b =>
    refine ⟨⟨_, rfl, ?_⟩, fun ws hws => .inl (by rw [← array.inj hws]; rfl)⟩
    simp only [List.forall_mem_cons, List.not_mem_nil, false_implies, implies_true, and_true]
    exact ⟨l.natural hl, a.natural ha, b.natural hb⟩

/-- Whatever its form, an entry with a place is one that is accepted. -/
theorem WritesPlace.isPlaced (h : WritesPlace s v) (hs : s.Natural) : v.IsPlaced := by
  cases h with
  | span hspan hrange =>
    obtain ⟨⟨w, hw⟩, span⟩ := has_iff.mp (hspan.imp fun _ writes => writes.isSpan hs)
    exact ⟨object_of_field? hw, .inl ⟨w, hw⟩, span, hrange⟩
  | range hnone hrange =>
    obtain ⟨⟨w, hw⟩, range⟩ := has_iff.mp (hrange.imp fun _ writes => writes.isRange hs)
    exact ⟨object_of_field? hw, .inr ⟨w, hw⟩, fun _ hspan => absurd hspan (by rw [hnone]; nofun), range⟩

/-- Whatever its form, the place of an entry is the span that was written. -/
theorem WritesPlace.exists_span (h : WritesPlace s v) :
    ∃ w, WrittenSpan.ofEntry? v = some w ∧ w.span = s := by
  cases h with
  | span hspan _ =>
    obtain ⟨_, hspan, ⟨start, hstart, first⟩, stop, hstop, last⟩ := hspan
    obtain ⟨l, hl, l_eq⟩ := exists_value_of_has first.line
    obtain ⟨a, ha, a_eq⟩ := exists_value_of_has first.column
    obtain ⟨m, hm, m_eq⟩ := exists_value_of_has last.line
    obtain ⟨b, hb, b_eq⟩ := exists_value_of_has last.column
    exact ⟨_, WrittenSpan.ofEntry?_span hspan hstart hstop hl ha hm hb, by
      rw [WrittenSpan.span, l_eq, a_eq, m_eq, b_eq]⟩
  | range hnone hrange =>
    obtain ⟨_, hrange, writes⟩ := hrange
    cases writes with
    | whole l a m b =>
      obtain ⟨l, hl, l_eq⟩ := l.exists_value
      obtain ⟨a, ha, a_eq⟩ := a.exists_value
      obtain ⟨m, hm, m_eq⟩ := m.exists_value
      obtain ⟨b, hb, b_eq⟩ := b.exists_value
      exact ⟨_, WrittenSpan.ofEntry?_range hnone hrange hl ha hm hb, by
        rw [WrittenSpan.span, l_eq, a_eq, m_eq, b_eq]⟩
    | oneLine same l a b =>
      obtain ⟨l, hl, l_eq⟩ := l.exists_value
      obtain ⟨a, ha, a_eq⟩ := a.exists_value
      obtain ⟨b, hb, b_eq⟩ := b.exists_value
      have stop : Position.mk s.start.line s.stop.column = s.stop := by rw [← same]
      exact ⟨_, WrittenSpan.ofEntry?_line hnone hrange hl ha hb, by
        rw [WrittenSpan.span, l_eq, a_eq, b_eq, stop]⟩

end

open AnnotationFile

section

variable {v : Json} {key : String}

theorem WritesField.stringField_eq {x : Wording} (h : v.WritesField key (x = []) (· = .string x)) :
    stringField key v = x := by
  unfold stringField
  rcases h with ⟨_, hw, rfl⟩ | ⟨hnone, rfl⟩
  · rw [hw]
  · rw [hnone]

theorem WritesField.boolField_eq {b : Bool} (h : v.WritesField key (b = false) (· = .bool b)) :
    boolField key v = b := by
  unfold boolField
  rcases h with ⟨_, hw, rfl⟩ | ⟨hnone, rfl⟩
  · rw [hw]
  · rw [hnone]

theorem WritesField.stringsField_eq {xs : List Wording}
    (h : v.WritesField key (xs = []) (· = .array (xs.map .string))) : stringsField key v = xs := by
  unfold stringsField itemsField
  rcases h with ⟨_, hw, rfl⟩ | ⟨hnone, rfl⟩
  · rw [hw]
    simp only [List.filterMap_map]
    exact List.filterMap_some
  · rw [hnone]
    rfl

theorem WritesField.forall₂_items {α : Type} {R : α → Json → Prop} {as : List α}
    (h : v.WritesField key (as = []) (WritesItems R as)) : List.Forall₂ R as (itemsField key v) := by
  unfold itemsField
  rcases h with ⟨_, hw, es, rfl, hes⟩ | ⟨hnone, rfl⟩
  · rw [hw]
    exact hes
  · rw [hnone]
    exact .nil

theorem WritesItems.isArrayOf {α : Type} {R : α → Json → Prop} {P : Json → Prop} {as : List α}
    (h : WritesItems R as v) (hRP : ∀ a ∈ as, ∀ e, R a e → P e) : v.IsArrayOf P := by
  obtain ⟨es, rfl, hes⟩ := h
  refine ⟨es, rfl, fun e he => ?_⟩
  obtain ⟨a, ha, hR⟩ := exists_of_mem_right hes he
  exact hRP a ha e hR

end

theorem WritesToken.isToken {t : Token} {v : Json} (h : v.WritesToken t) (ht : t.span.Natural) :
    v.IsToken where
  toIsPlaced := h.place.isPlaced ht
  symbol := h.symbol.may fun _ hw => ⟨_, hw⟩
  isDefinition := h.isDefinition.may fun _ hw => ⟨_, hw⟩
  isReference := h.isReference.may fun _ hw => ⟨_, hw⟩
  highlight := h.highlight.may fun _ hw => ⟨_, hw⟩
  doc := h.doc.may fun _ hw => ⟨_, hw, List.forall_mem_map.mpr fun x _ => ⟨x, rfl⟩⟩

theorem WritesToken.markOf_eq {t : Token} {v : Json} (h : v.WritesToken t) : markOf v = t.mark := by
  rw [markOf, h.symbol.stringField_eq, h.isDefinition.boolField_eq, h.isReference.boolField_eq,
    h.highlight.stringField_eq, h.doc.stringsField_eq]

theorem WritesComment.isComment {c : Comment} {v : Json} (h : v.WritesComment c) (hc : c.span.Natural) :
    v.IsComment where
  toIsPlaced := h.place.isPlaced hc
  content := h.content.imp fun _ hw => ⟨_, hw⟩

theorem WritesComment.stringField_eq {c : Comment} {v : Json} (h : v.WritesComment c) :
    stringField "content" v = c.content := by
  obtain ⟨_, hw, rfl⟩ := h.content
  rw [stringField, hw]

section

variable {v : Json} {ts : List Token} {cs : List Comment}

/-- Annotations with coordinates from zero are written as documents that are accepted. -/
theorem WritesDocument.isAnnotations (h : v.WritesDocument ts cs) (hts : ∀ t ∈ ts, t.span.Natural)
    (hcs : ∀ c ∈ cs, c.span.Natural) : v.IsAnnotations where
  object := h.object
  tokens := h.tokens.may fun _ items => items.isArrayOf fun t ht _ token => token.isToken (hts t ht)
  comments := h.comments.may fun _ items => items.isArrayOf fun c hc _ comment =>
    comment.isComment (hcs c hc)

end

end Json

namespace AnnotationFile

open Json

variable {v : Json} {ts : List Token} {cs : List Comment}

theorem tokenList_ofValid (h : v.WritesDocument ts cs) : (ofValid v).tokenList = ts := by
  refine map_filterMap_of_forall₂ h.tokens.forall₂_items fun t e token => ?_
  obtain ⟨w, hw, span⟩ := token.place.exists_span
  exact ⟨(w, markOf e), by rw [hw]; rfl, by dsimp only; rw [span, token.markOf_eq]⟩

theorem commentList_ofValid (h : v.WritesDocument ts cs) : (ofValid v).commentList = cs := by
  refine map_filterMap_of_forall₂ h.comments.forall₂_items fun c e comment => ?_
  obtain ⟨w, hw, span⟩ := comment.place.exists_span
  exact ⟨(w, stringField "content" e), by rw [hw]; rfl, by dsimp only; rw [span, comment.stringField_eq]⟩

theorem ofJson_of_isAnnotations (h : v.IsAnnotations) : ofJson v = .ok (ofValid v) := by
  rw [ofJson, Schema.report?_eq_none_iff.mpr (accepts_iff_isAnnotations.mpr h)]

theorem ofJson_of_not_isAnnotations (h : ¬ v.IsAnnotations) : ∃ b, ofJson v = .error b := by
  cases hread : ofJson v with
  | error b => exact ⟨b, rfl⟩
  | ok f => exact absurd (accepts_iff_isAnnotations.mp (ofJson_eq_ok hread).1) h

/-- Documents with annotations are read, and no others. None of their parts is then asked for in vain, and
annotations with coordinates from zero are read as they were written, whatever the forms of their spans and
whichever usual values were left out. -/
theorem reads_documents (v : Json) :
    (v.IsAnnotations → ∃ f, ofJson v = .ok f ∧ access v = .ok f) ∧
      (¬ v.IsAnnotations → ∃ b, ofJson v = .error b) ∧
      ∀ ts cs, (∀ t ∈ ts, t.span.Natural) → (∀ c ∈ cs, c.span.Natural) → v.WritesDocument ts cs →
        ∃ f, ofJson v = .ok f ∧ f.tokenList = ts ∧ f.commentList = cs := by
  refine ⟨fun h => ⟨ofValid v, ofJson_of_isAnnotations h, h.access_eq⟩, ofJson_of_not_isAnnotations, ?_⟩
  intro ts cs hts hcs h
  exact ⟨ofValid v, ofJson_of_isAnnotations (h.isAnnotations hts hcs), tokenList_ofValid h,
    commentList_ofValid h⟩

/-- A span object with a real number in it, a range on one line and one over two lines, fields left out;
and a range of two numbers, which is refused. -/
theorem reads_documents_mixed :
    let position (l c : Json) := Json.object [("line", l), ("column", c)]
    let definition := Json.object
      [("span", .object [("start", position (.int 0) (.real (.finite false 4503599627370496 (-51)))),
          ("end", position (.int 0) (.int 5))]),
        ("symbol", .string "f"), ("is_definition", .bool true)]
    let reference := Json.object
      [("range", .array [.int 3, .int 0, .int 1]), ("symbol", .string "f"), ("doc_text", .array [.string "d"])]
    let comment := Json.object
      [("content", .string "c"), ("range", .array [.int 4, .int 0, .int 5, .int 7])]
    let v := Json.object [("tokens", .array [definition, reference]), ("comments", .array [comment])]
    let short := Json.object [("tokens", .array [.object [("range", .array [.int 0, .int 1])]])]
    let ts : List Token := [⟨⟨⟨0, 2⟩, ⟨0, 5⟩⟩, { symbol := "f", isDefinition := true }⟩,
      ⟨⟨⟨3, 0⟩, ⟨3, 1⟩⟩, { symbol := "f", doc := ["d"] }⟩]
    let cs : List Comment := [⟨⟨⟨4, 0⟩, ⟨5, 7⟩⟩, "c"⟩]
    (v.WritesDocument ts cs ∧ ∃ f, ofJson v = .ok f ∧ f.tokenList = ts ∧ f.commentList = cs) ∧
      (v.IsAnnotations ∧ ∃ f, ofJson v = .ok f ∧ access v = .ok f) ∧
      ¬ short.IsAnnotations ∧ ∃ b, ofJson short = .error b := by
  intro position definition reference comment v short ts cs
  have two : Binary64.toInt? (.finite false 4503599627370496 (-51)) = some 2 := by decide +kernel
  have first : definition.WritesToken ts[0] :=
    { place := .span ⟨_, rfl, ⟨_, rfl, ⟨_, rfl, .inl rfl⟩, ⟨_, rfl, .inr ⟨_, rfl, two⟩⟩⟩,
        ⟨_, rfl, ⟨_, rfl, .inl rfl⟩, ⟨_, rfl, .inl rfl⟩⟩⟩ nofun
      symbol := .inl ⟨_, rfl, rfl⟩
      isDefinition := .inl ⟨_, rfl, rfl⟩
      isReference := .inr ⟨rfl, rfl⟩
      highlight := .inr ⟨rfl, rfl⟩
      doc := .inr ⟨rfl, rfl⟩ }
  have second : reference.WritesToken ts[1] :=
    { place := .range rfl ⟨_, rfl, .oneLine rfl (.inl rfl) (.inl rfl) (.inl rfl)⟩
      symbol := .inl ⟨_, rfl, rfl⟩
      isDefinition := .inr ⟨rfl, rfl⟩
      isReference := .inr ⟨rfl, rfl⟩
      highlight := .inr ⟨rfl, rfl⟩
      doc := .inl ⟨_, rfl, rfl⟩ }
  have only : comment.WritesComment cs[0] :=
    { place := .range rfl ⟨_, rfl, .whole (.inl rfl) (.inl rfl) (.inl rfl) (.inl rfl)⟩
      content := ⟨_, rfl, rfl⟩ }
  have written : v.WritesDocument ts cs :=
    { object := ⟨_, rfl⟩
      tokens := .inl ⟨_, rfl, _, rfl, .cons first (.cons second .nil)⟩
      comments := .inl ⟨_, rfl, _, rfl, .cons only .nil⟩ }
  have natural : (∀ t ∈ ts, t.span.Natural) ∧ ∀ c ∈ cs, c.span.Natural := by
    simp [ts, cs, Span.Natural, Position.Natural]
  have annotations : v.IsAnnotations := written.isAnnotations natural.1 natural.2
  have refused : ¬ short.IsAnnotations := by
    intro h
    obtain ⟨_, hes, entries⟩ := h.tokens _ rfl
    rw [← array.inj hes] at entries
    have token := entries _ (List.mem_singleton_self _)
    have length := (token.range _ rfl).length _ rfl
    simp at length
  exact ⟨⟨written, (reads_documents v).2.2 ts cs natural.1 natural.2 written⟩,
    ⟨annotations, (reads_documents v).1 annotations⟩, refused, (reads_documents short).2.1 refused⟩

end AnnotationFile
end Literate
