import Literate.Document
import Literate.Json.Printer
import Literate.Schema.Report

/-! A document as a JSON value, with nothing escaped but for JSON itself, and the schema that the value
has to keep to. -/

namespace Literate.Blocks

def position (p : Position) : Json := .object [("line", .int p.line), ("column", .int p.column)]

def span (s : Span) : Json := .object [("start", position s.start), ("end", position s.stop)]

def run : Run → Json
  | .text s => .object [("type", .string "text"), ("text", .string s)]
  | .annotated s x d =>
    .object [("type", .string "annotated"), ("text", .string s), ("kind", .string d.name),
      ("symbol", .string x.mark.symbol), ("highlight_class", .string x.mark.highlight),
      ("doc_text", .array (x.mark.doc.map Json.string)), ("span", span x.span)]

def block : Block → Json
  | .code runs => .object [("type", .string "code"), ("runs", .array (runs.map run))]
  | .prose s => .object [("type", .string "prose"), ("content", .string s)]

def document (d : Document) : Json :=
  .object [("source", .string d.source), ("line_count", .int d.lineCount),
    ("blocks", .array (d.blocks.map block))]

def positionSchema : Schema :=
  [.type .object, .required ["line", "column"],
    .properties [("line", [.type .integer, .minimum 0]), ("column", [.type .integer, .minimum 0])],
    .closed]

def runSchema : Schema :=
  [.type .object, .required ["type", "text"],
    .properties [("type", [.among ["text", "annotated"]]), ("text", [.type .string]),
      ("kind", [.among (Decoration.all.map Decoration.name)]), ("symbol", [.type .string]),
      ("highlight_class", [.type .string]), ("doc_text", [.type .array, .items [.type .string]]),
      ("span", [.type .object, .required ["start", "end"],
        .properties [("start", positionSchema), ("end", positionSchema)]])]]

/-- a listing has at least one run -/
def codeSchema : Schema :=
  [.type .object, .required ["type", "runs"],
    .properties [("type", [.const "code"]),
      ("runs", [.type .array, .minItems 1, .items runSchema])],
    .closed]

def proseSchema : Schema :=
  [.type .object, .required ["type", "content"],
    .properties [("type", [.const "prose"]), ("content", [.type .string])], .closed]

def schema : Schema :=
  [.type .object, .required ["source", "line_count", "blocks"],
    .properties [("source", [.type .string]), ("line_count", [.type .integer, .minimum 0]),
      ("blocks", [.type .array, .items [.oneOf [codeSchema, proseSchema]]])]]

/-- the text of a document, unless it breaks the schema -/
def render (d : Document) : Except Breach Wording :=
  match schema.report? (document d) with
  | some f => .error f.breach
  | none => .ok ((document d).text ++ codes "\n")

end Literate.Blocks
