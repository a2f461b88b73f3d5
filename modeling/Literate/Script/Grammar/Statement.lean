import Literate.Script.Grammar.Pattern

/-! The grammar of statements. Of a script only its outline is kept. A rule that needs statements inside
of itself takes them from `inner`. -/

namespace Literate.Script

structure Statement where
  outline : Outline
  /-- the code points of a statement that is nothing but a text -/
  text : Option (List Nat) := none
  deriving Inhabited

namespace Grammar

open Parse

/-- a statement that consists of these parts -/
def made (parts : List Outline) : Statement := { outline := .plain parts }

def defined (d : Definition) (parts : List Outline) : Statement :=
  { outline := .node (.definition d) parts }

def optional (e : Option Expr) : List Outline := outlineOf e

/-! Simple statements. -/

def augmented : List String :=
  ["+=", "-=", "*=", "/=", "%=", "@=", "&=", "|=", "^=", "<<=", ">>=", "**=", "//="]

def textOf : Expr → Option (List Nat)
  | .constant (.text codes _) => some codes
  | _ => none

/-- An expression, or an assignment: the targets before the value are read as expressions first. -/
def assignment (sub : Rules) : Parse Statement := do
  let first ← loose sub
  if ← accept ":" then
    let left ← lift first.single
    let note ← sub .expression
    let value ← if ← accept "=" then some <$> yieldOrLoose sub else pure none
    return made (left.outline :: note.outline :: optional value)
  else if ← acceptAny augmented then
    let left ← lift first.single
    return made [left.outline, (← yieldOrLoose sub).outline]
  else
    let step (acc : List Expr) : Parse (Option (List Expr)) := do
      if ← accept "=" then return some ((← yieldOrLoose sub) :: acc) else return none
    match ← loop step [first] with
    | [] | [_] => return { outline := .plain [first.outline], text := textOf first }
    | value :: lefts =>
      let lefts ← lift (Expr.storedAll lefts.reverse)
      return made (outlines lefts ++ [value.outline])

def dottedName : Parse Unit := do let _ ← dotted

/-- a new name behind the word `as`, if that is there -/
def renamed : Parse Unit := do
  if ← accept "as" then let _ ← ofKind .name

def importedName : Parse Unit := do
  let _ ← ofKind .name
  renamed

/-- what follows the word `from` -/
def importFrom : Parse Unit := do
  let step (n : Nat) : Parse (Option Nat) := do
    if ← acceptAny [".", "..."] then return some (n + 1) else return none
  let dots ← loop step 0
  unless dots > 0 && (← ahead ["import"]) do dottedName
  expect "import"
  if ← accept "*" then return
  else if ← accept "(" then
    let _ ← commas importedName
    expect ")"
  else
    let _ ← strictCommas importedName

def simple (sub : Rules) : Parse Statement := do
  if ← accept "return" then return made (optional (← attempt (loose sub)))
  else if ← accept "import" then
    let _ ← strictCommas (do dottedName; renamed)
    return made []
  else if ← accept "from" then
    importFrom
    return made []
  else if ← accept "raise" then
    match ← attempt (sub .expression) with
    | none => return made []
    | some e =>
      let cause ← if ← accept "from" then some <$> sub .expression else pure none
      return made (e.outline :: optional cause)
  else if ← acceptAny ["pass", "break", "continue"] then return made []
  else if ← accept "del" then
    let (es, _) ← commas (do lift (← sub .primary).deleted)
    return made (outlines es)
  else if ← accept "yield" then return made [(← yielded sub).outline]
  else if ← accept "assert" then
    let test ← sub .expression
    let why ← if ← accept "," then some <$> sub .expression else pure none
    return made (test.outline :: optional why)
  else if ← acceptAny ["global", "nonlocal"] then
    let _ ← strictCommas (ofKind .name)
    return made []
  else assignment sub

/-- the simple statements of a line -/
def simpleLine (sub : Rules) : Parse (List Statement) := do
  let (ss, _) ← separated ";" (simple sub)
  let _ ← ofKind .newline
  return ss

/-! Blocks and the statements that have some. -/

abbrev Block := Parse (List Statement)

def block (sub : Rules) (inner : Block) : Block := do
  match ← attempt (ofKind .newline) with
  | some _ =>
    let _ ← ofKind .indent
    let ss ← inner
    let _ ← ofKind .dedent
    return ss
  | none => simpleLine sub

/-- a colon and a block -/
def body (sub : Rules) (inner : Block) : Parse (List Outline) := do
  expect ":"
  return (← block sub inner).map (·.outline)

/-- the block behind a word, if the word is there -/
def bodyBehind (word : String) (sub : Rules) (inner : Block) : Parse (List Outline) := do
  if ← accept word then body sub inner else return []

def ifStatement (sub : Rules) (inner : Block) : Parse Statement := do
  let branch : Parse (Expr × List Outline) := do return (← named sub, ← body sub inner)
  let first ← branch
  let step (acc : List (Expr × List Outline)) : Parse (Option (List (Expr × List Outline))) := do
    if ← accept "elif" then return some ((← branch) :: acc) else return none
  let branches ← loop step [first]
  return made (nested branches.reverse (← bodyBehind "else" sub inner))
where
  /-- a later branch is a statement of its own inside the branch before -/
  nested : List (Expr × List Outline) → List Outline → List Outline
    | [], otherwise => otherwise
    | [(e, os)], otherwise => e.outline :: os ++ otherwise
    | (e, os) :: rest, otherwise => e.outline :: os ++ [.plain (nested rest otherwise)]

def whileStatement (sub : Rules) (inner : Block) : Parse Statement := do
  let test ← named sub
  let os ← body sub inner
  return made (test.outline :: os ++ (← bodyBehind "else" sub inner))

def forStatement (sub : Rules) (inner : Block) : Parse Statement := do
  let left ← targets sub
  expect "in"
  let source ← loose sub
  let os ← body sub inner
  return made (left.outline :: source.outline :: os ++ (← bodyBehind "else" sub inner))

def withItem (sub : Rules) : Parse Outline := do
  let e ← sub .expression
  let left ← if ← accept "as" then some <$> target sub else pure none
  return .plain (e.outline :: optional left)

/-- Items in brackets are read as such where that leads up to the colon. -/
def withStatement (sub : Rules) (inner : Block) : Parse Statement := do
  let bracketed : Parse (List Outline) := do
    expect "("
    let (os, _) ← commas (withItem sub)
    expect ")"
    if ← ahead [":"] then return os else failure
  let items ← match ← attempt bracketed with
    | some os => pure os
    | none => strictCommas (withItem sub)
  return made (items ++ (← body sub inner))

/-- the handlers behind a `try`, all of one kind -/
def handlers (starred : Bool) (sub : Rules) (inner : Block) : Parse (List Outline) := do
  let step (acc : List Outline) : Parse (Option (List Outline)) := do
    if ← ahead (if starred then ["except", "*"] else ["except"]) then
      expect "except"
      if starred then expect "*"
      let kind ← if !starred && (← ahead [":"]) then pure none else some <$> sub .expression
      if kind.isSome then renamed
      return some (.plain (optional kind ++ (← body sub inner)) :: acc)
    else return none
  return (← loop step []).reverse

def tryStatement (sub : Rules) (inner : Block) : Parse Statement := do
  let os ← body sub inner
  let hs ← handlers (← ahead ["except", "*"]) sub inner
  let otherwise ← if hs.isEmpty then pure [] else bodyBehind "else" sub inner
  let final ← bodyBehind "finally" sub inner
  if hs.isEmpty && final.isEmpty then failure
  return made (os ++ hs ++ otherwise ++ final)

def functionDefinition (sub : Rules) (inner : Block) (start : Point) (isAsync : Bool)
    (decorators : List Expr) : Parse Statement := do
  let name ← identifier
  expect "("
  let note : Parse (Option Expr) := do
    if ← accept ":" then some <$> sub .expression else return none
  let wide : Parse (Option Expr) := do
    if ← accept ":" then some <$> looseItem sub else return none
  let ps ← params sub note wide ")"
  expect ")"
  let result ← if ← accept "->" then some <$> sub .expression else pure none
  expect ":"
  let ss ← block sub inner
  let d := ⟨name, start, .function isAsync ps result, ss.head?.bind (·.text)⟩
  return defined d
    (ps.outline :: ss.map (·.outline) ++ outlines decorators ++ optional result)

def classDefinition (sub : Rules) (inner : Block) (start : Point) (decorators : List Expr) :
    Parse Statement := do
  let name ← identifier
  let (bases, keywords) ← if ← accept "(" then arguments sub else pure ([], [])
  expect ":"
  let ss ← block sub inner
  let d := ⟨name, start, .class bases, ss.head?.bind (·.text)⟩
  return defined d
    (outlines bases ++ keywordOutlines keywords ++ ss.map (·.outline) ++ outlines decorators)

/-- the place of a word that is in front, which is taken -/
def placeOf (word : String) : Parse (Option Point) := fun ts =>
  match ts with
  | t :: rest => if t.isWord word then some (some t.start, rest) else some (none, ts)
  | [] => some (none, ts)

def definition (sub : Rules) (inner : Block) (decorators : List Expr) : Parse Statement := do
  match ← placeOf "def" with
  | some p => functionDefinition sub inner p false decorators
  | none =>
    match ← placeOf "class" with
    | some p => classDefinition sub inner p decorators
    | none =>
      match ← placeOf "async" with
      | some p =>
        expect "def"
        functionDefinition sub inner p true decorators
      | none => failure

def decorator (sub : Rules) : Parse Expr := do
  expect "@"
  let e ← named sub
  let _ ← ofKind .newline
  return e

/-- takes a name that is a word only where it stands -/
def softWord (word : String) : Parse Unit := do
  let t ← ofKind .name
  if t.text = word then return () else failure

def caseBlock (sub : Rules) (depth : Nat) (inner : Block) : Parse Outline := do
  softWord "case"
  let p ← casePattern (patternTo sub depth)
  let guard ← if ← accept "if" then some <$> named sub else pure none
  return .plain (p :: optional guard ++ (← body sub inner))

/-- the start of a `match` statement up to its first case; anything else is no such statement -/
def matchHead (sub : Rules) : Parse Expr := do
  softWord "match"
  let subject ← match ← commas (item sub) with
    | ([e], false) => if isStarred e then failure else pure e
    | (es, _) => pure (.tuple es)
  expect ":"
  let _ ← ofKind .newline
  let _ ← ofKind .indent
  return subject

def matchStatement (sub : Rules) (depth : Nat) (inner : Block) (subject : Expr) :
    Parse Statement := do
  let first ← caseBlock sub depth inner
  let rest ← many (caseBlock sub depth inner)
  let _ ← ofKind .dedent
  return made (subject.outline :: first :: rest)

/-- one statement with blocks, or a line of simple ones -/
def statement (sub : Rules) (depth : Nat) (inner : Block) : Parse (List Statement) := do
  if ← accept "if" then return [← ifStatement sub inner]
  else if (← ahead ["def"]) || (← ahead ["class"]) || (← ahead ["async", "def"]) then
    return [← definition sub inner []]
  else if ← ahead ["@"] then
    let ds ← many (decorator sub)
    return [← definition sub inner ds]
  else if ← accept "while" then return [← whileStatement sub inner]
  else if ← accept "try" then return [← tryStatement sub inner]
  else
    let _ ← if (← ahead ["async", "for"]) || (← ahead ["async", "with"]) then accept "async"
      else pure false
    if ← accept "for" then return [← forStatement sub inner]
    else if ← accept "with" then return [← withStatement sub inner]
    else
      match ← attempt (matchHead sub) with
      | some subject => return [← matchStatement sub depth inner subject]
      | none => simpleLine sub

/-- statements, at least one, with blocks nested at most `n` deep -/
def statementsTo (sub : Rules) (depth : Nat) : Nat → Block
  | 0 => failure
  | n + 1 => do
    let one := statement sub depth (statementsTo sub depth n)
    let first ← one
    return first ++ (← many one).flatten

/-- a whole script -/
def script (depth : Nat) : Parse Outline := do
  let ss ← match ← attempt (ofKind .endOfText) with
    | some _ => pure []
    | none => do
      let ss ← statementsTo (rulesTo depth) depth depth
      let _ ← ofKind .endOfText
      pure ss
  return .plain (ss.map (·.outline))

end Grammar

/-- why a script has no outline -/
inductive ScriptError where
  | nullCharacter
  | malformed
  deriving DecidableEq, Repr, Inhabited

/-- The outline of a script. Nothing in it is nested deeper than it has characters. -/
def Outline.ofSource (source : String) : Except ScriptError Outline :=
  let s := source.toList
  if s.contains '\x00' then .error .nullCharacter
  else
    match (Grammar.script (2 * s.length + 10)).onText ⟨0, 0⟩ s with
    | some o => .ok o
    | none => .error .malformed

end Literate.Script
