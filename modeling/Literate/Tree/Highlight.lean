import Literate.Mark
import Literate.Tree

/-! Highlighting of source files from their trees, by the kinds of the nodes. -/

namespace Literate.Tree

/-- Words that the kinds of a class end in, each perhaps followed by a suffix; a low line or nothing
stands in front. -/
structure KindPattern where
  words : List String
  suffixes : List String
  /-- the suffix may be missing -/
  bare : Bool := true

namespace KindPattern

def endings (p : KindPattern) : List String :=
  (if p.bare then p.words else []) ++ p.words.flatMap fun w => p.suffixes.map fun x => w ++ "_" ++ x

def matchesText (p : KindPattern) (s : List Char) : Bool :=
  p.endings.any fun e => s == e.toList || ('_' :: e.toList).isSuffixOf s

/-- a line feed at the very end is of no account -/
def test (p : KindPattern) (kind : String) : Bool :=
  p.matchesText kind.toList ||
    (kind.toList.getLast? == some '\n' && p.matchesText kind.toList.dropLast)

end KindPattern

def stringKinds : KindPattern :=
  ⟨["string", "char", "character", "rune", "heredoc"], ["literal", "body"], true⟩

def numberKinds : KindPattern :=
  ⟨["int", "integer", "float", "number", "decimal", "hex", "octal", "binary", "floating_point",
    "imaginary"], ["literal"], true⟩

def typeKinds : List String :=
  ["type_identifier", "primitive_type", "predefined_type", "builtin_type"]

def functionDeclarations : KindPattern :=
  ⟨["function", "method", "func"], ["declaration", "definition", "item", "signature", "spec"], true⟩

def typeDeclarations : KindPattern :=
  ⟨["class", "struct", "interface", "enum", "trait", "type"],
    ["declaration", "definition", "item", "specifier", "spec"], false⟩

/-- an ASCII word -/
def isWord (s : List Char) : Bool :=
  match s with
  | [] => false
  | c :: cs => (c.isAlpha || c == '_') && cs.all fun c => c.isAlphanum || c == '_'

def punctuation : List String :=
  ["(", ")", "[", "]", "\x7b", "\x7d", ",", ";", ".", ":", "::", "\"", "'", "\x60"]

/-- bytes of the names that declarations seen so far declare -/
structure Declared where
  functions : List ByteRange := []
  types : List ByteRange := []
  deriving DecidableEq, Repr, Inhabited

/-- the class of a node, empty for none -/
def classOf (declared : Declared) (t : Tree) : String :=
  if t.isComment then "comment"
  else if t.children.isEmpty && declared.functions.contains t.info.bytes then "function"
  else if t.children.isEmpty && declared.types.contains t.info.bytes then "class"
  else if t.info.named then
    if stringKinds.test t.info.kind then "string"
    else if numberKinds.test t.info.kind then "number"
    else if typeKinds.contains t.info.kind then "type"
    else ""
  else if isWord t.info.kind.toList then "keyword"
  else if punctuation.contains t.info.kind then ""
  else "operator"

/-- adds the name that a node declares -/
def declare (declared : Declared) (t : Tree) : Declared :=
  match t.info.name with
  | some name =>
    if !t.info.named then declared
    else if functionDeclarations.test t.info.kind then
      { declared with functions := name :: declared.functions }
    else if typeDeclarations.test t.info.kind then { declared with types := name :: declared.types }
    else declared
  | none => declared

/-- classes of nodes whose children are not highlighted -/
def isWhole (c : String) : Bool := c == "string" || c == "comment" || c == "number"

/-- the nodes with a class and some bytes, in the order of the source -/
def classified (declared : Declared) (waiting : List Tree) : List (Tree × String) :=
  match waiting with
  | [] => []
  | t :: rest =>
    let declared := declare declared t
    let c := classOf declared t
    let here := if c ≠ "" ∧ t.info.bytes.first < t.info.bytes.stop then [(t, c)] else []
    if isWhole c then here ++ classified declared rest
    else here ++ classified declared (t.children ++ rest)
termination_by sizes waiting
decreasing_by
  · simp only [sizes, size_eq]; omega
  · simp only [sizes, sizes_append, size_eq]; omega

def highlight (p : Parsed) : List Token :=
  (classified {} [p.root]).map fun (t, c) => { span := p.span t, mark := { highlight := c } }

end Literate.Tree
