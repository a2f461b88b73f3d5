import Literate.Proofs.Json.RoundTrip
import Literate.Proofs.Render.Blocks
import Literate.Proofs.Text.Utf8

/-! What can be told from the text of a document. Read as JSON, the text gives the value of the document
again, and from the value everything is found but the two flags of each mark; of those, the text has
only the decoration that they lead to. -/

namespace Literate

/-- without the flags -/
def Mark.unflagged (a : Mark) : Mark := { a with isDefinition := false, isReference := false }

def Run.unflagged : Run → Run
  | .text s => .text s
  | .annotated s x d => .annotated s { x with mark := x.mark.unflagged } d

def Block.unflagged : Block → Block
  | .code rs => .code (rs.map Run.unflagged)
  | .prose s => .prose s

/-- all that the text of a document tells -/
def Document.unflagged (d : Document) : Document := { d with blocks := d.blocks.map Block.unflagged }

namespace Json

def int? : Json → Option Int
  | int n => some n
  | _ => none

def string? : Json → Option Wording
  | string s => some s
  | _ => none

/-- a string without halves of surrogate pairs -/
def text? (v : Json) : Option String := do
  return String.ofList (← Utf8.chars? (← v.string?))

theorem text?_codes (s : String) : text? (string (codes s)) = some s := by
  have chars : Utf8.chars? (codes s) = some s.toList := Utf8.chars?_eq_some_iff.mpr rfl
  simp [text?, string?, chars]

def items? : Json → Option (List Json)
  | array vs => some vs
  | _ => none

end Json

namespace Blocks

def position? (v : Json) : Option Position := do
  return ⟨← (← v.field? "line").int?, ← (← v.field? "column").int?⟩

def span? (v : Json) : Option Span := do
  return ⟨← position? (← v.field? "start"), ← position? (← v.field? "end")⟩

def run? (v : Json) : Option Run := do
  let text ← (← v.field? "text").text?
  if (← v.field? "type") == .string "text" then
    return .text text
  else
    let decoration ← Decoration.ofName? (← (← v.field? "kind").text?)
    let symbol ← (← v.field? "symbol").string?
    let highlight ← (← v.field? "highlight_class").string?
    let doc ← (← (← v.field? "doc_text").items?).mapM Json.string?
    let span ← span? (← v.field? "span")
    return .annotated text ⟨span, { symbol, highlight, doc }⟩ decoration

def block? (v : Json) : Option Block := do
  if (← v.field? "type") == .string "code" then
    return .code (← (← (← v.field? "runs").items?).mapM run?)
  else
    return .prose (← (← v.field? "content").string?)

def document? (v : Json) : Option Document := do
  let source ← (← v.field? "source").text?
  let lineCount ← (← v.field? "line_count").int?
  let blocks ← (← (← v.field? "blocks").items?).mapM block?
  return { blocks, source, lineCount }

theorem mapM_inverse {α β γ : Type} {f : α → β} {g : β → Option γ} {h : α → γ}
    (hfg : ∀ a, g (f a) = some (h a)) (as : List α) : (as.map f).mapM g = some (as.map h) := by
  have pointwise : g ∘ f = fun a => pure (h a) := funext hfg
  rw [List.mapM_map, pointwise, List.mapM_pure]
  rfl

theorem span?_span (s : Span) : span? (span s) = some s := rfl

theorem run?_run (r : Run) : run? (run r) = some r.unflagged := by
  cases r with
  | text s =>
    have type : (Json.string "text" == .string "text") = true := rfl
    simp [run?, run, Json.field?, List.lookup, Json.text?_codes, type]
    rfl
  | annotated s x d =>
    have doc : (x.mark.doc.map Json.string).mapM Json.string? = some x.mark.doc := by
      simpa using mapM_inverse (f := Json.string) (h := id) (fun _ => rfl) x.mark.doc
    have type : (Json.string "annotated" == .string "text") = false := rfl
    simp [run?, run, Json.field?, List.lookup, Json.text?_codes, Json.string?, Json.items?, doc,
      span?_span, type]
    rfl

theorem block?_block (b : Block) : block? (block b) = some b.unflagged := by
  cases b with
  | code rs =>
    have runs := mapM_inverse run?_run rs
    have type : (Json.string "code" == .string "code") = true := rfl
    simp [block?, block, Json.field?, List.lookup, Json.string?, Json.items?, runs, type]
    rfl
  | prose s => rfl

/-- A document is found again in its value, but for the flags. -/
theorem document?_document (d : Document) : document? (document d) = some d.unflagged := by
  have blocks := mapM_inverse block?_block d.blocks
  simp [document?, document, Json.field?, List.lookup, Json.text?_codes, Json.int?, Json.items?,
    blocks]
  rfl

theorem plain_span (s : Span) : (span s).Plain := by
  simp [span, position, Json.Plain, Json.PlainFields]

theorem plain_run (r : Run) : (run r).Plain := by
  cases r with
  | text s => simp [run, Json.Plain, Json.PlainFields]
  | annotated s x d =>
    have doc : Json.PlainItems (x.mark.doc.map Json.string) := by
      simp [Json.plainItems_iff, Json.Plain]
    simp [run, Json.Plain, Json.PlainFields, doc, plain_span]

theorem plain_block (b : Block) : (block b).Plain := by
  cases b with
  | code rs =>
    have runs : Json.PlainItems (rs.map run) := by
      simp [Json.plainItems_iff, plain_run]
    simp [block, Json.Plain, Json.PlainFields, runs]
  | prose s => simp [block, Json.Plain, Json.PlainFields]

theorem plain_document (d : Document) : (document d).Plain := by
  have blocks : Json.PlainItems (d.blocks.map block) := by
    simp [Json.plainItems_iff, plain_block]
  simp [document, Json.Plain, Json.PlainFields, blocks]

theorem read_of_render {d : Document} {text : Wording} (h : render d = .ok text) :
    Json.read text = .ok (document d) := by
  obtain ⟨-, rfl⟩ := render_eq_ok_iff.mp h
  exact Json.read_text (plain_document d)

end Blocks

/-- An accepted document has a text, from which its value is read, and from that the document but for
the flags. So no other document has that text, unless the two differ in flags only. -/
theorem render_recovery (d : Document) (h : Blocks.schema.accepts (Blocks.document d) = true) :
    ∃ text, Blocks.render d = .ok text ∧ Json.read text = .ok (Blocks.document d) ∧
      Blocks.document? (Blocks.document d) = some d.unflagged ∧
      ∀ e, Blocks.render e = .ok text → e.unflagged = d.unflagged := by
  have rendered : Blocks.render d = .ok ((Blocks.document d).text ++ codes "\n") :=
    Blocks.render_eq_ok_iff.mpr ⟨Blocks.accepts_document_iff.mp h, rfl⟩
  refine ⟨_, rendered, Blocks.read_of_render rendered, Blocks.document?_document d, ?_⟩
  intro e he
  have same : Blocks.document e = Blocks.document d :=
    Except.ok.inj ((Blocks.read_of_render he).symm.trans (Blocks.read_of_render rendered))
  have found := Blocks.document?_document e
  rw [same, Blocks.document?_document] at found
  exact (Option.some.inj found).symm

/-- Quotes, backslashes, control characters and characters beyond ASCII in the strings. -/
theorem render_recovery_escapes :
    ∃ d text, d.blocks = [.code [.text "\"\\\x01é\n", .annotated "x" ⟨⟨⟨0, 1⟩, ⟨2, 0⟩⟩,
        { symbol := "\t", highlight := "k", doc := ["", "\u2028\x7f"] }⟩ .plain], .prose ""] ∧
      Blocks.render d = .ok text ∧ Json.read text = .ok (Blocks.document d) ∧
      Blocks.document? (Blocks.document d) = some d := by
  obtain ⟨text, rendered, hread, found, -⟩ := render_recovery ⟨[.code [.text "\"\\\x01é\n",
    .annotated "x" ⟨⟨⟨0, 1⟩, ⟨2, 0⟩⟩, { symbol := "\t", highlight := "k", doc := ["", "\u2028\x7f"] }⟩
      .plain], .prose ""], "ñ.py", 3⟩ (by rfl)
  exact ⟨_, text, rfl, rendered, hread, found⟩

end Literate
