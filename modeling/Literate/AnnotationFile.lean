import Literate.Mark
import Literate.Json.Reader
import Literate.Schema.Report

/-! Annotations made elsewhere and handed over as a JSON document: tokens and comments, each with a
span object or with a range of three or four numbers. -/

namespace Literate

/-- a coordinate as it is written: an integer, perhaps as a real number without a fraction -/
inductive Coordinate where
  | int (n : Int)
  | real (x : Binary64)
  deriving DecidableEq, Repr, Inhabited

namespace Coordinate

/-- the number, which is equal to a coordinate of either kind -/
def value : Coordinate → Int
  | int n => n
  | real x => x.toInt?.getD 0

/-- Rows and columns of a text are found by integers only, not by real numbers that are equal to them. -/
def isInt : Coordinate → Bool
  | int _ => true
  | real _ => false

def toJson : Coordinate → Json
  | int n => .int n
  | real x => .real x

def ofJson? : Json → Option Coordinate
  | .int n => some (int n)
  | .real x => some (real x)
  | _ => none

end Coordinate

/-- a span as it is written -/
structure WrittenSpan where
  startLine : Coordinate
  startColumn : Coordinate
  stopLine : Coordinate
  stopColumn : Coordinate
  deriving DecidableEq, Repr, Inhabited

namespace WrittenSpan

def span (w : WrittenSpan) : Span :=
  ⟨⟨w.startLine.value, w.startColumn.value⟩, ⟨w.stopLine.value, w.stopColumn.value⟩⟩

def isInt (w : WrittenSpan) : Bool :=
  w.startLine.isInt && w.startColumn.isInt && w.stopLine.isInt && w.stopColumn.isInt

def coordinate? (key : String) (v : Json) : Option Coordinate :=
  (v.field? key).bind Coordinate.ofJson?

/-- A span object wins over a range. A range of three numbers stays on one line. -/
def ofEntry? (v : Json) : Option WrittenSpan :=
  match v.field? "span", v.field? "range" with
  | some s, _ => do
    let start ← s.field? "start"
    let stop ← s.field? "end"
    return ⟨← coordinate? "line" start, ← coordinate? "column" start, ← coordinate? "line" stop,
      ← coordinate? "column" stop⟩
  | none, some (.array [l, a, b]) => do
    let l ← Coordinate.ofJson? l
    return ⟨l, ← Coordinate.ofJson? a, l, ← Coordinate.ofJson? b⟩
  | none, some (.array (l :: a :: m :: b :: _)) => do
    return ⟨← Coordinate.ofJson? l, ← Coordinate.ofJson? a, ← Coordinate.ofJson? m,
      ← Coordinate.ofJson? b⟩
  | _, _ => none

end WrittenSpan

/-- the annotations of a file, in the order of the document -/
structure AnnotationFile where
  tokens : List (WrittenSpan × Mark) := []
  comments : List (WrittenSpan × Wording) := []
  deriving DecidableEq, Repr, Inhabited

namespace AnnotationFile

def positionSchema : Schema :=
  [.type .object, .required ["line", "column"],
    .properties [("line", [.type .integer, .minimum 0]), ("column", [.type .integer, .minimum 0])]]

def spanSchema : Schema :=
  [.type .object, .required ["start", "end"],
    .properties [("start", positionSchema), ("end", positionSchema)]]

def rangeSchema : Schema :=
  [.type .array, .items [.type .integer, .minimum 0], .minItems 3, .maxItems 4]

/-- every entry has a span or a range -/
def placed : Rule := .anyOf [[.required ["span"]], [.required ["range"]]]

def stringSchema : Schema := [.type .string]

def tokenSchema : Schema :=
  [.type .object, placed,
    .properties [("span", spanSchema), ("range", rangeSchema), ("symbol", stringSchema),
      ("is_definition", [.type .boolean]), ("is_reference", [.type .boolean]),
      ("highlight_class", stringSchema), ("doc_text", [.type .array, .items stringSchema])]]

def commentSchema : Schema :=
  [.type .object, .required ["content"], placed,
    .properties [("span", spanSchema), ("range", rangeSchema), ("content", stringSchema)]]

def schema : Schema :=
  [.type .object,
    .properties [("tokens", [.type .array, .items tokenSchema]),
      ("comments", [.type .array, .items commentSchema])]]

def stringField (key : String) (v : Json) : Wording :=
  match v.field? key with
  | some (.string s) => s
  | _ => []

def boolField (key : String) (v : Json) : Bool :=
  match v.field? key with
  | some (.bool b) => b
  | _ => false

def itemsField (key : String) (v : Json) : List Json :=
  match v.field? key with
  | some (.array vs) => vs
  | _ => []

def stringsField (key : String) (v : Json) : List Wording :=
  (itemsField key v).filterMap fun
    | .string s => some s
    | _ => none

def markOf (v : Json) : Mark where
  symbol := stringField "symbol" v
  isDefinition := boolField "is_definition" v
  isReference := boolField "is_reference" v
  highlight := stringField "highlight_class" v
  doc := stringsField "doc_text" v

/-- the annotations of a document that keeps to the schema -/
def ofValid (v : Json) : AnnotationFile where
  tokens := (itemsField "tokens" v).filterMap fun e =>
    (WrittenSpan.ofEntry? e).map fun w => (w, markOf e)
  comments := (itemsField "comments" v).filterMap fun e =>
    (WrittenSpan.ofEntry? e).map fun w => (w, stringField "content" e)

/-- refuses a document that breaks the schema, with the breach that is reported -/
def ofJson (v : Json) : Except Breach AnnotationFile :=
  match schema.report? v with
  | some f => .error f.breach
  | none => .ok (ofValid v)

/-- All coordinates are written as integers. -/
def Integral (f : AnnotationFile) : Prop :=
  (∀ t ∈ f.tokens, t.1.isInt = true) ∧ ∀ c ∈ f.comments, c.1.isInt = true

instance (f : AnnotationFile) : Decidable f.Integral := inferInstanceAs (Decidable (_ ∧ _))

def tokenList (f : AnnotationFile) : List Token := f.tokens.map fun (w, a) => ⟨w.span, a⟩

def commentList (f : AnnotationFile) : List Comment := f.comments.map fun (w, s) => ⟨w.span, s⟩

end AnnotationFile

/-- why a file holds no annotations -/
inductive AnnotationFileError where
  | notJson (path : String) (e : Json.ReadError)
  | invalid (path : String) (b : Breach)
  deriving Repr, Inhabited

def AnnotationFileError.message : AnnotationFileError → String
  | notJson path e => path ++ ": invalid JSON: " ++ e.message
  | invalid path b => path ++ ": " ++ b.message

/-- the annotations in the text of a file -/
def AnnotationFile.ofText (path text : String) : Except AnnotationFileError AnnotationFile :=
  match Json.read text with
  | .error e => .error (.notJson path e)
  | .ok v =>
    match AnnotationFile.ofJson v with
    | .error b => .error (.invalid path b)
    | .ok f => .ok f

end Literate
