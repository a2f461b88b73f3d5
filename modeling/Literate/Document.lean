import Literate.Mark
import Literate.Text.Blank

/-! The assembled document: code listings made of runs, and prose. -/

namespace Literate

/-- how a run is decorated -/
inductive Decoration where
  | definition | reference | highlight | plain
  deriving DecidableEq, Repr, Inhabited

namespace Decoration

/-- a definition before a reference, a reference before mere highlighting -/
def ofMark (a : Mark) : Decoration :=
  if a.isDefinition then definition
  else if a.isReference then reference
  else if a.highlight ≠ [] then highlight
  else plain

def name : Decoration → String
  | definition => "definition"
  | reference => "reference"
  | highlight => "highlight"
  | plain => "plain"

def all : List Decoration := [definition, reference, highlight, plain]

def ofName? (s : String) : Option Decoration := all.find? (·.name = s)

@[simp] theorem ofName?_name (d : Decoration) : ofName? d.name = some d := by
  cases d <;> decide

end Decoration

/-- A piece of a listing: text between segments as it is, or the decorated text of a segment. -/
inductive Run where
  | text (text : String)
  | annotated (text : String) (segment : Segment) (decoration : Decoration)
  deriving DecidableEq, Repr, Inhabited

namespace Run

def content : Run → String
  | text s => s
  | annotated s _ _ => s

end Run

inductive Block where
  | code (runs : List Run)
  | prose (content : Wording)
  deriving DecidableEq, Repr, Inhabited

/-- the text of a listing -/
def codeText (runs : List Run) : String := Text.join "" (runs.map Run.content)

structure Document where
  blocks : List Block
  /-- name of the file, without its directory -/
  source : String := ""
  lineCount : Int := 0
  deriving DecidableEq, Repr, Inhabited

namespace Document

/-- the texts of the listings, in order -/
def listings (d : Document) : List String :=
  d.blocks.filterMap fun
    | .code runs => some (codeText runs)
    | .prose _ => none

/-- the prose, in order -/
def prose (d : Document) : List Wording :=
  d.blocks.filterMap fun
    | .code _ => none
    | .prose s => some s

end Document
end Literate
