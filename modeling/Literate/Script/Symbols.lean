import Literate.Anchor
import Literate.Buffer
import Literate.Mark
import Literate.Script.Docstring
import Literate.Script.Grammar.Statement
import Literate.Script.Printer
import Literate.Text.Word

/-! Definitions of a script and the uses of their names, as tokens. -/

namespace Literate.Script

namespace Outline

mutual

/-- the definitions inside, in the order of the script, each with the names around it and its own -/
def definitions (scope : List String) : Outline → List (List String × Definition)
  | node (.definition d) cs =>
    (scope ++ [d.name], d) :: definitionsIn (scope ++ [d.name]) cs
  | node _ cs => definitionsIn scope cs

def definitionsIn (scope : List String) : List Outline → List (List String × Definition)
  | [] => []
  | o :: os => o.definitions scope ++ definitionsIn scope os

end

/-- puts the levels of two lists side by side -/
def beside : List (List α) → List (List α) → List (List α)
  | [], ys => ys
  | xs, [] => xs
  | x :: xs, y :: ys => (x ++ y) :: beside xs ys

mutual

/-- the nodes by their depth -/
def levels : Outline → List (List Landmark)
  | node l cs => [l] :: levelsIn cs

def levelsIn : List Outline → List (List Landmark)
  | [] => []
  | o :: os => beside o.levels (levelsIn os)

end

/-- the nodes, one level of depth after another -/
def breadthFirst (o : Outline) : List Landmark := o.levels.flatten

end Outline

/-- a word starts or ends between two characters -/
def boundary (before behind : Option Char) : Bool :=
  (before.map Text.isWord).getD false != (behind.map Text.isWord).getD false

/-- the length of a definition's first words in front of its name, if a text starts with these -/
def wordsBefore (name s : List Char) : Option Nat :=
  ["def", "class"].findSome? fun word =>
    if word.toList.isPrefixOf s then
      let rest := s.drop word.length
      let gap := (rest.takeWhile Text.isBlank).length
      let rest := rest.drop gap
      if 0 < gap && name.isPrefixOf rest &&
          boundary name.getLast? (rest.drop name.length).head? then some (word.length + gap)
      else none
    else none

/-- the column of the name of the first definition with that name in the rest `s` of a line -/
def nameColumn (name : List Char) (before : Option Char) (column : Nat) : List Char → Option Nat
  | [] => none
  | c :: s =>
    match if boundary before (some c) then wordsBefore name (c :: s) else none with
    | some k => some (column + k)
    | none => nameColumn name (some c) (column + 1) s

/-- where the name of a definition stands, if it can be found in the row where the definition starts -/
def Definition.nameSpan (lines : Buffer) (d : Definition) : Option Span := do
  let line ← lines[d.start.row]?
  let column := Buffer.columnOfByte line d.start.byte
  let start ← nameColumn d.name.toList (line.take column).getLast? column (line.drop column)
  return ⟨⟨d.start.row, start⟩, ⟨d.start.row, start + d.name.length⟩⟩

/-- the signature, and the documentation unless that is empty -/
def Definition.docText (d : Definition) : Except Unprintable (List Wording) := do
  let signature ← d.signatureText
  let doc := cleanDoc ((d.doc.getD []).map Code.ofNat)
  return ↑signature :: (if doc.isEmpty then [] else [doc])

/-- a definition whose name is found -/
structure Located where
  path : List String
  span : Span
  doc : List Wording
  deriving DecidableEq, Repr, Inhabited

namespace Located

def symbol (l : Located) : String := Anchor.ofSymbol (Text.join "." l.path)

def name (l : Located) : String := l.path.getLastD ""

/-- number of definitions around it -/
def depth (l : Located) : Nat := l.path.length - 1

def token (l : Located) : Token :=
  ⟨l.span, { symbol := l.symbol, isDefinition := true, doc := l.doc }⟩

end Located

/-- why a script has no symbols -/
inductive SymbolError where
  | unreadable (e : ScriptError)
  | unprintable (e : Unprintable)
  /-- a use stands in a row that the buffer does not have -/
  | rowOutOfRange
  deriving DecidableEq, Repr, Inhabited

def SymbolError.message : SymbolError → String
  | unreadable .malformed => "Python symbols: cannot parse source"
  | unreadable .nullCharacter =>
    "Python symbols: cannot parse source: source code string cannot contain null bytes"
  | unprintable e => e.message
  | rowOutOfRange => "list index out of range"

/-- the definitions that can be found in the lines, in the order of the script -/
def locate (lines : Buffer) : List (List String × Definition) → Except SymbolError (List Located)
  | [] => .ok []
  | (path, d) :: rest =>
    match d.nameSpan lines with
    | none => locate lines rest
    | some span =>
      match d.docText with
      | .error e => .error (.unprintable e)
      | .ok doc => do return ⟨path, span, doc⟩ :: (← locate lines rest)

/-- What a name refers to: of the definitions with that name one with the fewest others around it, the
first of these. -/
def resolve (ls : List Located) (name : String) : Option Located :=
  ls.foldl (fun best l =>
    if l.name ≠ name then best
    else match best with
      | none => some l
      | some b => if l.depth < b.depth then some l else best) none

/-- a place in rows and bytes as a position -/
def positionIn (lines : Buffer) (p : Point) : Except SymbolError Position :=
  match lines[p.row]? with
  | some line => .ok ⟨p.row, Buffer.columnOfByte line p.byte⟩
  | none => .error .rowOutOfRange

/-- tokens for the uses of names that are defined -/
def references (lines : Buffer) (ls : List Located) :
    List Landmark → Except SymbolError (List Token)
  | [] => .ok []
  | .use name start stop :: rest =>
    match resolve ls name with
    | none => references lines ls rest
    | some l => do
      let a ← positionIn lines start
      let b ← positionIn lines stop
      let mark : Mark := { symbol := l.symbol, isReference := true, doc := l.doc }
      return ⟨⟨a, b⟩, mark⟩ :: (← references lines ls rest)
  | _ :: rest => references lines ls rest

/-- the tokens of definitions, and behind them those of uses -/
def symbolsOf (lines : Buffer) (o : Outline) : Except SymbolError (List Token) := do
  let ls ← locate lines (o.definitions [])
  return ls.map Located.token ++ (← references lines ls o.breadthFirst)

def symbols (source : String) : Except SymbolError (List Token) :=
  match Outline.ofSource source with
  | .error e => .error (.unreadable e)
  | .ok o => symbolsOf (Buffer.ofText source) o

end Literate.Script
