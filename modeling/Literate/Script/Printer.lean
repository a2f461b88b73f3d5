import Literate.Script.Outline
import Literate.Text.Quoted

/-! Expressions and signatures as text, with brackets only where the strength of operators asks for
them. -/

namespace Literate.Script

/-- why something has no text -/
inductive Unprintable where
  /-- a field of a text would need a backslash -/
  | backslash
  /-- an integer has too many digits -/
  | digits
  deriving DecidableEq, Repr, Inhabited

def Unprintable.message : Unprintable → String
  | backslash => "Unable to avoid backslash in f-string expression part"
  | digits =>
    "Exceeds the limit (4300 digits) for integer string conversion; " ++
      "use sys.set_int_max_str_digits() to increase the limit"

/-- How tightly a place binds: what binds less tightly needs brackets there. -/
abbrev Level := Nat

namespace Level

def walrus : Level := 0
def tuple : Level := 1
def yield : Level := 2
def test : Level := 3
def or : Level := 4
def and : Level := 5
def not : Level := 6
def compare : Level := 7
def bitOr : Level := 8
def bitXor : Level := 9
def bitAnd : Level := 10
def shift : Level := 11
def sum : Level := 12
def term : Level := 13
def factor : Level := 14
def power : Level := 15
def await : Level := 16
def atom : Level := 17

def next (l : Level) : Level := min (l + 1) atom

end Level

def BinaryOp.sign : BinaryOp → String
  | add => "+"
  | sub => "-"
  | mul => "*"
  | matMul => "@"
  | div => "/"
  | mod => "%"
  | floorDiv => "//"
  | shiftLeft => "<<"
  | shiftRight => ">>"
  | bitOr => "|"
  | bitXor => "^"
  | bitAnd => "&"
  | pow => "**"

def BinaryOp.level : BinaryOp → Level
  | add | sub => .sum
  | mul | matMul | div | mod | floorDiv => .term
  | shiftLeft | shiftRight => .shift
  | bitOr => .bitOr
  | bitXor => .bitXor
  | bitAnd => .bitAnd
  | pow => .power

/-- levels of the operands; only powers group from the right -/
def BinaryOp.sides (op : BinaryOp) : Level × Level :=
  if op = pow then (op.level.next, op.level) else (op.level, op.level.next)

def UnaryOp.sign : UnaryOp → String
  | not => "not "
  | invert => "~"
  | plus => "+"
  | minus => "-"

def UnaryOp.level : UnaryOp → Level
  | not => .not
  | _ => .factor

def CompareOp.sign : CompareOp → String
  | eq => "=="
  | notEq => "!="
  | lt => "<"
  | le => "<="
  | gt => ">"
  | ge => ">="
  | is => "is"
  | isNot => "is not"
  | isIn => "in"
  | notIn => "not in"

def BoolOp.sign : BoolOp → String
  | and => " and "
  | or => " or "

def BoolOp.level : BoolOp → Level
  | and => .and
  | or => .or

/-! Texts in quotes, with as few backslashes as can be. -/

namespace Quotes

def all : List (List Char) := ["'", "\"", "\"\"\"", "'''"].map String.toList

def multiline (q : List Char) : Bool := q.length = 3

/-- a code point; line feeds and tabs stay as they are unless `spaces` holds -/
def escape (spaces : Bool) (n : Nat) : List Char :=
  if !spaces && (n = 10 || n = 9) then [Char.ofNat n]
  else if n = 9 then ['\\', 't']
  else if n = 10 then ['\\', 'n']
  else if n = 13 then ['\\', 'r']
  else if n = 92 then ['\\', '\\']
  else if Text.isPrintableCode n then [Char.ofNat n]
  else Text.escapeCode n

def occursIn (q : List Char) : List Char → Bool
  | [] => q.isEmpty
  | c :: s => q.isPrefixOf (c :: s) || occursIn q s

/-- The text between quotes and the quotes that it can stand between, the best first. -/
def fit (quotes : List (List Char)) (spaces : Bool) (s : List Nat) :
    List Char × List (List Char) :=
  let text := s.flatMap (escape spaces)
  let fitting := quotes.filter fun q =>
    (multiline q || !text.contains '\n') && !occursIn q text
  match fitting with
  | [] =>
    let quote := Text.quoteFor s
    (s.flatMap (Text.quoteCode quote), [(quotes.find? (·.contains quote)).getD [quote]])
  | _ =>
    let clash (q : List Char) : Bool := text.getLast? = q.head?
    let ordered := fitting.filter (!clash ·) ++ fitting.filter clash
    match text.getLast? with
    | none => (text, fitting)
    | some c =>
      if (ordered.head?.map clash).getD false then (text.dropLast ++ ['\\', c], ordered)
      else (text, ordered)

/-- a text in the best quotes -/
def quoted (s : List Nat) : List Char :=
  let (text, quotes) := fit all false s
  let q := quotes.headD []
  q ++ text ++ q

/-- Narrows the quotes down piece by piece; `none` where a piece leaves no quotes. The flag of a piece
tells that it is text and no field. -/
def narrow (quotes : List (List Char)) :
    List (List Nat × Bool) → Option (List Char × List (List Char))
  | [] => some ([], quotes)
  | (s, isText) :: rest =>
    let (text, left) := fit quotes isText s
    if left.any (quotes.contains ·) then
      (narrow left rest).map fun (more, last) => (text ++ more, last)
    else none

/-- pieces of a text with fields, in quotes -/
def quotedPieces (ps : List (List Nat × Bool)) : List Char :=
  match narrow all ps with
  | some (text, quotes) =>
    let q := quotes.headD []
    q ++ text ++ q
  | none =>
    let q := "'''".toList
    q ++ ps.flatMap (fun (s, _) => s.flatMap (Text.quoteCode '\'')) ++ q

end Quotes

namespace Constant

/-- an infinite number is written as one too large -/
def realStyle : Binary64.Style := ⟨true, "1e309", "(1e309-1e309)"⟩

def imaginaryStyle : Binary64.Style := { realStyle with pointZero := false }

def byteText (quote : Char) (n : Nat) : List Char :=
  if n = quote.toNat || n = 92 then ['\\', Char.ofNat n]
  else if n = 9 then ['\\', 't']
  else if n = 10 then ['\\', 'n']
  else if n = 13 then ['\\', 'r']
  else if 32 ≤ n && n < 127 then [Char.ofNat n]
  else Text.escapeCode n

/-- `inField` asks to do without backslashes. -/
def shown (inField : Bool) : Constant → Except Unprintable (List Char)
  | .text codes marked =>
    .ok ((if marked then ['u'] else []) ++
      if inField then Quotes.quoted codes else Text.quoted codes)
  | .bytes values =>
    let quote := Text.quoteFor values
    .ok ('b' :: quote :: values.flatMap (byteText quote) ++ [quote])
  | .integer n =>
    let ds := (toString n).toList
    if Literal.maxDigits < ds.length then .error .digits else .ok ds
  | .real x => .ok (x.textWith realStyle).toList
  | .imaginary x => .ok ((x.textWith imaginaryStyle).toList ++ ['j'])
  | .bool true => .ok "True".toList
  | .bool false => .ok "False".toList
  | .none => .ok "None".toList
  | .ellipsis => .ok "...".toList

def isInteger : Constant → Bool
  | .integer _ | .bool _ => true
  | _ => false

end Constant

def inBrackets (needed : Bool) (s : List Char) : List Char :=
  if needed then '(' :: s ++ [')'] else s

/-- a comma also behind a single item -/
def itemsText : List (List Char) → List Char
  | [s] => s ++ [',']
  | ss => Text.joinWith [',', ' '] ss

def listText (ss : List (List Char)) : List Char := Text.joinWith [',', ' '] ss

/-- braces of the text around fields are doubled -/
def doubleBraces (codes : List Nat) : List Nat :=
  codes.flatMap fun n => if n = 123 || n = 125 then [n, n] else [n]

abbrev Printing := Except Unprintable (List Char)

/-- A field whose expression has the text `s`. A brace at its start keeps away from the brace of the
field. -/
def fieldCodes (s : List Char) (letter : Option Char) (format : List Nat) :
    Except Unprintable (List Nat) :=
  if s.contains '\\' then .error .backslash
  else
    let gap := if s.head? = some '\x7b' then [' '] else []
    let mark := match letter with
      | some c => ['!', c]
      | none => []
    .ok (('\x7b' :: gap ++ s ++ mark).map Char.toNat ++ format ++ [125])

mutual

/-- the text of an expression at a place of a level -/
def Expr.text (inField : Bool) (level : Level) : Expr → Printing
  | .name id _ _ _ => .ok id.toList
  | .constant c => c.shown inField
  | .joined es =>
    if inField then do return 'f' :: Quotes.quoted ((← pieces es).flatMap (·.1))
    else do return 'f' :: Quotes.quotedPieces (← pieces es)
  | .field e letter format => do
    let s ← e.text true (Level.next .test)
    return (← fieldCodes s letter (← formatCodes format)).map Char.ofNat
  | .tuple es => do
    return inBrackets (es.isEmpty || .tuple < level) (itemsText (← texts inField es))
  | .list es => do return '[' :: listText (← texts inField es) ++ [']']
  | .set es => do return '\x7b' :: listText (← texts inField es) ++ ['\x7d']
  | .dict es => do return '\x7b' :: listText (← entryTexts inField es) ++ ['\x7d']
  | .boolean op es => do
    let ss ← operandTexts inField op.level.next es
    return inBrackets (op.level < level) (Text.joinWith op.sign.toList ss)
  | .binary op a b => do
    let (l, r) := op.sides
    let s ← a.text inField l
    let t ← b.text inField r
    return inBrackets (op.level < level) (s ++ ' ' :: op.sign.toList ++ ' ' :: t)
  | .unary op a => do
    let s ← a.text inField op.level
    return inBrackets (op.level < level) (op.sign.toList ++ s)
  | .comparison a ops es => do
    let s ← a.text inField (Level.next .compare)
    let ss ← textsAt inField (Level.next .compare) es
    let tail := (ops.zip ss).flatMap fun (op, t) => ' ' :: op.sign.toList ++ ' ' :: t
    return inBrackets (.compare < level) (s ++ tail)
  | .call f as ks => do
    let s ← f.text inField .atom
    let ss ← texts inField as
    let ts ← keywordTexts inField ks
    return s ++ '(' :: listText (ss ++ ts) ++ [')']
  | .member e n => do
    let s ← e.text inField .atom
    let gap := match e with
      | .constant c => if c.isInteger then [' '] else []
      | _ => []
    return s ++ gap ++ '.' :: n.toList
  | .subscript e (.tuple (i :: is)) => do
    let s ← e.text inField .atom
    let t ← i.text inField .test
    let ts ← texts inField is
    return s ++ '[' :: itemsText (t :: ts) ++ [']']
  | .subscript e i => do
    return (← e.text inField .atom) ++ '[' :: (← i.text inField .test) ++ [']']
  | .slice a b c => do
    let step ← match c with
      | none => pure []
      | some e => do pure (':' :: (← e.text inField .test))
    return (← optionText inField a) ++ ':' :: (← optionText inField b) ++ step
  | .starred e => do return '*' :: (← e.text inField .bitOr)
  | .conditional t a b => do
    let s ← a.text inField (Level.next .test)
    let c ← t.text inField (Level.next .test)
    let r ← b.text inField .test
    return inBrackets (.test < level) (s ++ " if ".toList ++ c ++ " else ".toList ++ r)
  | .lambda ps e => do
    let s ← ps.text inField
    let t ← e.text inField .test
    let head := if s.isEmpty then "lambda".toList else "lambda ".toList ++ s
    return inBrackets (.test < level) (head ++ ':' :: ' ' :: t)
  | .comprehension shape e cs => do
    let s := (← e.text inField .test) ++ (← clauseTexts inField cs)
    return match shape with
      | .list => '[' :: s ++ [']']
      | .set => '\x7b' :: s ++ ['\x7d']
      | .generator => '(' :: s ++ [')']
  | .mapping k v cs => do
    let s ← k.text inField .test
    let t ← v.text inField .test
    return '\x7b' :: s ++ ':' :: ' ' :: t ++ (← clauseTexts inField cs) ++ ['\x7d']
  | .await e => do
    return inBrackets (.await < level) ("await ".toList ++ (← e.text inField .atom))
  | .yield none => .ok (inBrackets (.yield < level) "yield".toList)
  | .yield (some e) => do
    return inBrackets (.yield < level) ("yield ".toList ++ (← e.text inField .atom))
  | .delegate e => do
    return inBrackets (.yield < level) ("yield from ".toList ++ (← e.text inField .atom))
  | .walrus t e => do
    let s ← t.text inField .atom
    let r ← e.text inField .atom
    return inBrackets (.walrus < level) (s ++ " := ".toList ++ r)

def texts (inField : Bool) : List Expr → Except Unprintable (List (List Char))
  | [] => .ok []
  | e :: es => do return (← e.text inField .test) :: (← texts inField es)

def textsAt (inField : Bool) (level : Level) : List Expr → Except Unprintable (List (List Char))
  | [] => .ok []
  | e :: es => do return (← e.text inField level) :: (← textsAt inField level es)

/-- each operand binds more tightly than the one before -/
def operandTexts (inField : Bool) (level : Level) :
    List Expr → Except Unprintable (List (List Char))
  | [] => .ok []
  | e :: es => do return (← e.text inField level) :: (← operandTexts inField level.next es)

def optionText (inField : Bool) : Option Expr → Printing
  | none => .ok []
  | some e => e.text inField .test

def entryTexts (inField : Bool) : List Entry → Except Unprintable (List (List Char))
  | [] => .ok []
  | .pair k v :: es => do
    let s ← k.text inField .test
    let t ← v.text inField .test
    return (s ++ ':' :: ' ' :: t) :: (← entryTexts inField es)
  | .spread v :: es => do
    return ('*' :: '*' :: (← v.text inField .bitOr)) :: (← entryTexts inField es)

def keywordTexts (inField : Bool) : List Keyword → Except Unprintable (List (List Char))
  | [] => .ok []
  | .mk (some n) e :: ks => do
    return (n.toList ++ '=' :: (← e.text inField .test)) :: (← keywordTexts inField ks)
  | .mk none e :: ks => do
    return ('*' :: '*' :: (← e.text inField .test)) :: (← keywordTexts inField ks)

def clauseTexts (inField : Bool) : List Clause → Printing
  | [] => .ok []
  | .mk isAsync t e cs :: rest => do
    let head := if isAsync then " async for " else " for "
    let s ← t.text inField .tuple
    let r ← e.text inField (Level.next .test)
    let ifs ← textsAt inField (Level.next .test) cs
    let tail := ifs.flatMap fun c => " if ".toList ++ c
    return head.toList ++ s ++ " in ".toList ++ r ++ tail ++ (← clauseTexts inField rest)

/-- pieces of a text with fields, each with whether it is text -/
def pieces : List Expr → Except Unprintable (List (List Nat × Bool))
  | [] => .ok []
  | .constant (.text codes _) :: es => do return (doubleBraces codes, true) :: (← pieces es)
  | .field e letter format :: es => do
    let s ← e.text true (Level.next .test)
    return (← fieldCodes s letter (← formatCodes format), false) :: (← pieces es)
  | _ :: es => pieces es

/-- the format of a field with its colon -/
def formatCodes : Option Expr → Except Unprintable (List Nat)
  | some (.joined ps) => do return 58 :: (← pieces ps).flatMap (·.1)
  | _ => .ok []

def Params.text (inField : Bool) : Params → Printing
  | .mk leading plain rest named others => do
    let ls ← paramTexts inField leading
    let ps ← paramTexts inField plain
    let star ← match rest with
      | some p => do pure ['*' :: (← p.text inField)]
      | none => pure (if named.isEmpty then [] else [['*']])
    let ns ← paramTexts inField named
    let os ← match others with
      | some p => do pure ['*' :: '*' :: (← p.text inField)]
      | none => pure []
    let slash := if ls.isEmpty then [] else [['/']]
    return listText (ls ++ slash ++ ps ++ star ++ ns ++ os)

def paramTexts (inField : Bool) : List Param → Except Unprintable (List (List Char))
  | [] => .ok []
  | p :: ps => do return (← p.text inField) :: (← paramTexts inField ps)

def Param.text (inField : Bool) : Param → Printing
  | .mk n a d => do
    let note ← match a with
      | none => pure []
      | some e => do pure (':' :: ' ' :: (← e.text inField .test))
    let value ← match d with
      | none => pure []
      | some e => do pure ('=' :: (← e.text inField .test))
    return n.toList ++ note ++ value

end

/-- the text of a definition up to its block, without the keywords of a class -/
def Definition.signatureText (d : Definition) : Except Unprintable String := do
  match d.signature with
  | .function isAsync ps result =>
    let s ← ps.text false
    let tail ← match result with
      | none => pure []
      | some e => do pure (" -> ".toList ++ (← e.text false .test))
    return (if isAsync then "async def " else "def ") ++ d.name ++ "(" ++ String.ofList s ++ ")" ++
      String.ofList tail
  | .class bases =>
    let ss ← texts false bases
    return "class " ++ d.name ++
      (if ss.isEmpty then "" else "(" ++ String.ofList (listText ss) ++ ")")

end Literate.Script
