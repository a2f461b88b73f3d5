import Literate.Mark
import Literate.Script.Lexer
import Literate.Script.Vocabulary

/-! Highlighting of Python scripts from their lexemes, one after another. -/

namespace Literate.Script

/-- the class of a name, given the name in front of it, if the lexeme in front is one -/
def classOfName (name : String) (before : Option String) : String :=
  if before = some "def" then "function"
  else if before = some "class" then "class"
  else if reservedWords.contains name then "keyword"
  else if builtinNames.contains name then "builtin"
  else ""

/-- what the lexemes so far tell about the next one -/
structure Highlighter where
  /-- the lexeme before, if it is a name -/
  before : Option String := none
  /-- no lexeme but comments since a line of statements began -/
  lineStart : Bool := true
  /-- an at sign at the start of a line waits for the name of its decorator -/
  decorator : Bool := false
  deriving DecidableEq, Repr, Inhabited

namespace Highlighter

/-- an at sign that opens a decorator -/
def opensDecorator (h : Highlighter) (l : Lexeme) : Bool :=
  l.kind = .operator && l.text = ['@'] && h.lineStart

def classOf (h : Highlighter) (l : Lexeme) : String :=
  match l.kind with
  | .name => if h.decorator then "decorator" else classOfName (String.ofList l.text) h.before
  | .operator => if h.opensDecorator l then "decorator" else "operator"
  | .string => "string"
  | .number => "number"
  | .comment => "comment"
  | _ => ""

def next (h : Highlighter) (l : Lexeme) : Highlighter where
  before := if l.kind = .name then some (String.ofList l.text) else none
  lineStart :=
    match l.kind with
    | .comment | .lineBreak => h.lineStart
    | .newline | .indent | .dedent => true
    | _ => false
  decorator := if l.kind = .name then false else h.decorator || h.opensDecorator l

/-- a token for every lexeme with a class and a span that is not empty -/
def tokens (h : Highlighter) : List Lexeme → List Token
  | [] => []
  | l :: ls =>
    let here := h.classOf l
    let rest := (h.next l).tokens ls
    if here ≠ "" ∧ l.span.start ≠ l.span.stop then
      { span := l.span, mark := { highlight := here } } :: rest
    else rest

end Highlighter

/-- the highlighting of a script, with a warning where its lexemes stop early -/
def highlight (source : String) : List Token × List Notice :=
  let lexed := lex source
  let tokens := Highlighter.tokens {} lexed.items
  (tokens, lexed.interruption.toList.map (.highlightingStopped tokens.length))

end Literate.Script
