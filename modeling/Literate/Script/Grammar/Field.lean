import Literate.Script.Grammar.Basic

/-! Texts with fields: a field in curly braces holds an expression, and perhaps a conversion and a
format, which may have fields again. -/

namespace Literate.Script

namespace Field

/-- how many characters an escape takes, a brace behind a lone backslash left out; 0 for no escape -/
def escapeLength : List Char → Nat
  | '\\' :: 'N' :: '\x7b' :: s =>
    3 + min s.length ((s.takeWhile (· ≠ '\x7d')).length + 1)
  | '\\' :: c :: _ => if c == '\x7b' || c == '\x7d' then 1 else 2
  | '\\' :: [] => 1
  | _ => 0

/-- The text up to a brace that stands alone, and the rest from there. In the outer text a doubled brace
stands for one and ends a piece of text; `again` tells so. A closing brace alone is no text there. -/
structure Piece where
  text : List Char
  again : Bool
  rest : List Char

def piece (raw outer : Bool) : Nat → List Char → Option Piece
  | 0, _ => none
  | _ + 1, [] => some ⟨[], false, []⟩
  | n + 1, c :: s =>
    let k := if raw then 0 else escapeLength (c :: s)
    if 0 < k then
      (piece raw outer n ((c :: s).drop k)).map fun p =>
        { p with text := (c :: s).take k ++ p.text }
    else if c == '\x7b' || c == '\x7d' then
      if outer && s.head? = some c then some ⟨[c], true, s.drop 1⟩
      else if outer && c == '\x7d' then none
      else some ⟨[], false, c :: s⟩
    else (piece raw outer n s).map fun p => { p with text := c :: p.text }

/-- The length of an expression that starts a text: it ends in front of an exclamation mark, a colon, a
closing brace or an equals sign outside of quotes and brackets. -/
def exprLength (quote : Option (Char × Bool)) (brackets : List Char) : Nat → List Char → Option Nat
  | 0, _ => none
  | _ + 1, [] => none
  | n + 1, c :: s =>
    let go (quote : Option (Char × Bool)) (brackets : List Char) (k : Nat) : Option Nat :=
      (exprLength quote brackets n ((c :: s).drop k)).map (· + k)
    if c == '\\' then none
    else
      match quote with
      | some (q, triple) =>
        if c ≠ q then go quote brackets 1
        else if triple then
          if s.take 2 = [q, q] then go none brackets 3 else go quote brackets 1
        else go none brackets 1
      | none =>
        if c == '\'' || c == '"' then
          if s.take 2 = [c, c] then go (some (c, true)) brackets 3
          else go (some (c, false)) brackets 1
        else if c == '#' then none
        else if brackets.isEmpty && "!:=<>\x7d".toList.contains c then
          if s.head? = some '=' && "!=<>".toList.contains c then go none brackets 2
          else if c == '<' || c == '>' then go none brackets 1
          else some 0
        else
          match Strict.nest brackets [c] with
          | some brackets => go none brackets 1
          | none => none

def isPad (c : Char) : Bool := c == ' ' || c == '\t' || c == '\n' || c == '\x0c'

/-- Where the expression of a field starts: `before` is the text of the literal in front of the brace,
`behind` the text behind it. An expression that starts on a later row keeps its own columns there. -/
def origin (start : Point) (before behind : List Char) : Point :=
  let p := Point.after ⟨0, 0⟩ before
  let padded := match behind.dropWhile fun c => c == ' ' || c == '\t' || c == '\x0c' with
    | c :: _ => c == '\n' || c == '\x7d'
    | [] => false
  let byte := if padded then 0 else p.byte
  ⟨start.row + p.row, if p.row = 0 then start.byte + byte else byte⟩

/-- pieces of a text in order: code points, and fields -/
inductive Part where
  | text (codes : List Nat)
  | field (e : Expr)

/-- texts side by side become one constant; empty ones go -/
def assemble (marked : Bool) (parts : List Part) : List Expr := go [] parts
where
  flush (codes : List Nat) : List Expr :=
    if codes.isEmpty then [] else [.constant (.text codes marked)]
  go (codes : List Nat) : List Part → List Expr
    | [] => flush codes
    | .text more :: ps => go (codes ++ more) ps
    | .field e :: ps => flush codes ++ e :: go [] ps

/-- what is common to the fields of one literal -/
structure Context where
  start : Point
  whole : List Char
  raw : Bool
  /-- a mark `u` is in front of the first literal -/
  marked : Bool
  expr : Parse Expr

/-- the text of the literal in front of `rest`, without the closing quotes -/
def Context.before (c : Context) (rest : List Char) : List Char :=
  c.whole.take (c.whole.length - rest.length)

/-- an equals sign behind an expression, with the blanks behind it -/
def echo : List Char → List Char × List Char
  | '=' :: s =>
    let pad := s.takeWhile fun c => c == ' ' || (9 ≤ c.toNat && c.toNat ≤ 13)
    ('=' :: pad, s.drop pad.length)
  | s => ([], s)

def conversion : List Char → Option (Option Char × List Char)
  | '!' :: c :: s => if c == 's' || c == 'r' || c == 'a' then some (some c, s) else none
  | '!' :: [] => none
  | s => some (none, s)

/-- a field without its opening brace, with the text that an equals sign repeats -/
def field (c : Context) (format : List Char → Option (List Part × List Char)) (s : List Char) :
    Option (List Part × List Char) := do
  let k ← exprLength none [] (s.length + 1) s
  let source := s.take k
  if source.all isPad then failure
  let value ← c.expr.onText (origin c.start (c.before ('\x7b' :: s)) s) ('(' :: source ++ [')'])
  let (shown, rest) := echo (s.drop k)
  let (letter, rest) ← conversion rest
  let (form, rest) ← match rest with
    | ':' :: rest => do
      let (parts, rest) ← format rest
      pure (some (Expr.joined (assemble c.marked parts)), rest)
    | rest => pure (none, rest)
  match rest with
  | '\x7d' :: rest =>
    let letter := if shown ≠ [] && letter.isNone && form.isNone then some 'r' else letter
    let repeated := if shown = [] then [] else [Part.text ((source ++ shown).map Char.toNat)]
    return (repeated ++ [.field (.field value letter form)], rest)
  | _ => failure

/-- The parts of a text, or of a format where `outer` does not hold, and the rest: nothing, or a closing
brace. Without a reader for formats there may be no fields. -/
def run (c : Context) (format : Option (List Char → Option (List Part × List Char)))
    (outer : Bool) : Nat → List Char → Option (List Part × List Char)
  | 0, _ => none
  | n + 1, s => do
    let p ← piece c.raw outer (s.length + 1) s
    let codes ← Literal.decode false c.raw p.text
    if p.again then
      let (ps, rest) ← run c format outer n p.rest
      return (.text codes :: ps, rest)
    match p.rest with
    | '\x7b' :: inner =>
      let (f, rest) ← field c (← format) inner
      let (ps, rest) ← run c format outer n rest
      return (.text codes :: f ++ ps, rest)
    | rest => return ([.text codes], rest)

/-- Fields are nested at most `depth` deep. -/
def parts (c : Context) : (depth : Nat) → (outer : Bool) → List Char →
    Option (List Part × List Char)
  | 0, outer, s => run c none outer (s.length + 1) s
  | depth + 1, outer, s => run c (some (parts c depth false)) outer (s.length + 1) s

end Field

/-- string literals side by side as one expression; `expr` reads what is inside of fields -/
def literals (expr : Parse Expr) (ts : List Terminal) : Option Expr := do
  let qs := ts.map fun t => (t, Quotation.ofText t.text.toList)
  let marked := (ts.head?.bind fun t => t.text.toList.head?) = some 'u'
  let parts ← qs.mapM fun (t, q) =>
    if q.formatted then do
      let whole := q.opening ++ q.body
      let (ps, rest) ← Field.parts ⟨t.start, whole, q.raw, marked, expr⟩ 2 true q.body
      if rest.isEmpty then pure ps else failure
    else do return [Field.Part.text (← q.codes)]
  if qs.any (·.2.isBytes) then
    if qs.all (·.2.isBytes) then
      return .constant (.bytes (parts.flatten.flatMap codesOf))
    else failure
  else if qs.any (·.2.formatted) then return .joined (Field.assemble marked parts.flatten)
  else return .constant (.text (parts.flatten.flatMap codesOf) marked)
where
  codesOf : Field.Part → List Nat
    | .text codes => codes
    | .field _ => []

end Literate.Script
