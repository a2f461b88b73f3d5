import Literate.Buffer
import Literate.Language
import Literate.Text.Utf8

/-! Concrete syntax trees of source files, given as data: nodes with a kind, the bytes they cover and
their points in the text. -/

namespace Literate

/-- a range of bytes of a source -/
structure ByteRange where
  first : Nat
  stop : Nat
  deriving DecidableEq, Repr, Inhabited

/-- what a node tells about itself -/
structure NodeInfo where
  kind : String
  /-- named by a rule of the grammar, and not by the text it stands for -/
  named : Bool
  bytes : ByteRange
  start : Point
  stop : Point
  /-- bytes of the name that a declaration declares -/
  name : Option ByteRange := none
  deriving DecidableEq, Repr, Inhabited

inductive Tree where
  | node (info : NodeInfo) (children : List Tree)
  deriving Repr, Inhabited

namespace Tree

def info : Tree → NodeInfo
  | node i _ => i

def children : Tree → List Tree
  | node _ cs => cs

mutual

/-- number of nodes -/
def size : Tree → Nat
  | node _ cs => sizes cs + 1

def sizes : List Tree → Nat
  | [] => 0
  | t :: ts => t.size + sizes ts

end

theorem sizes_append (ts us : List Tree) : sizes (ts ++ us) = sizes ts + sizes us := by
  induction ts with
  | nil => simp [sizes]
  | cons t ts ih => simp only [List.cons_append, sizes, ih]; omega

theorem size_eq (t : Tree) : t.size = sizes t.children + 1 := by
  cases t; simp [size, children]

/-- Visits the nodes of trees in the order of the source: those still to visit wait in a list. Below a
node whose kind is in `prune` nothing is visited. -/
def visit (prune : List String) (waiting : List Tree) : List Tree :=
  match waiting with
  | [] => []
  | t :: rest =>
    if prune.contains t.info.kind then t :: visit prune rest
    else t :: visit prune (t.children ++ rest)
termination_by sizes waiting
decreasing_by
  · simp only [sizes, size_eq]; omega
  · simp only [sizes, sizes_append, size_eq]; omega

/-- the nodes of a tree, each in front of its children -/
def nodes (t : Tree) (prune : List String := []) : List Tree := visit prune [t]

/-- kinds of nodes that are comments -/
def commentKinds : List String :=
  ["comment", "line_comment", "block_comment", "documentation_comment", "haddock"]

def isComment (t : Tree) : Bool := commentKinds.contains t.info.kind

end Tree

/-- trees by the name of their grammar -/
structure Grammars where
  trees : List (String × Tree) := []
  /-- no grammar can be loaded at all, for this reason -/
  broken : Option String := none
  deriving Inhabited

/-- why a source has no tree -/
inductive TreeError where
  | noGrammar (language : String)
  | notLoaded (grammar : String) (reason : String)
  deriving DecidableEq, Repr, Inhabited

def TreeError.message : TreeError → String
  | noGrammar language => "No tree-sitter grammar for language: " ++ language
  | notLoaded grammar reason => "Cannot load tree-sitter grammar '" ++ grammar ++ "': " ++ reason

/-- a source with its tree -/
structure Parsed where
  bytes : List UInt8
  lines : Buffer
  root : Tree

namespace Parsed

def ofSource (grammars : Grammars) (language source : String) : Except TreeError Parsed :=
  match Language.grammar? language with
  | none => .error (.noGrammar language)
  | some g =>
    match grammars.broken, grammars.trees.lookup g with
    | some reason, _ => .error (.notLoaded g reason)
    | none, none => .error (.notLoaded g ("no tree for '" ++ g ++ "'"))
    | none, some root => .ok ⟨Utf8.encode source.toList, Buffer.ofText source, root⟩

/-- a point past the last line keeps its bytes as column -/
def position (p : Parsed) (point : Point) : Position :=
  match p.lines[point.row]? with
  | some line => ⟨point.row, Buffer.columnOfByte line point.byte⟩
  | none => ⟨point.row, point.byte⟩

def span (p : Parsed) (t : Tree) : Span := ⟨p.position t.info.start, p.position t.info.stop⟩

def slice (p : Parsed) (r : ByteRange) : List UInt8 := (p.bytes.take r.stop).drop r.first

def text (p : Parsed) (t : Tree) : List Char := Utf8.decodeLenient (p.slice t.info.bytes)

end Parsed

/-- Only blanks stand between the start of the line and the byte `n`; a negative `n` counts from the
end. -/
def startsLine (bytes : List UInt8) (n : Int) : Bool :=
  let n := if n < 0 then (bytes.length + n).toNat else n.toNat
  (Utf8.lastLine (bytes.take n)).all Utf8.isBlank

end Literate
