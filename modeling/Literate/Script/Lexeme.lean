import Literate.Notice
import Literate.Text.Blank
import Literate.Text.Identifier
import Literate.Text.Word

/-! Lexemes of a script whose blocks are marked by indentation, and the patterns that lexemes match
at the start of a text. A pattern gives the number of characters it takes. -/

namespace Literate.Script

inductive LexemeKind where
  | name | operator | string | number | comment
  /-- the end of a statement -/
  | newline
  /-- a line break that ends no statement -/
  | lineBreak
  | indent | dedent
  /-- a character, or a broken string, that is part of no lexeme -/
  | unknown
  | endOfText
  deriving DecidableEq, Repr, Inhabited

structure Lexeme where
  kind : LexemeKind
  text : List Char
  span : Span
  /-- nothing but blanks stands in front of it on its line -/
  alone : Bool := false
  deriving DecidableEq, Repr, Inhabited

/-- blanks that separate lexemes -/
def isLayout (c : Char) : Bool := c == ' ' || c == '\t' || c == '\x0c'

namespace Pattern

/-- characters of the class `p`, each perhaps after a low line -/
def more (p : Char → Bool) : List Char → Nat
  | '_' :: c :: cs => if p c then more p cs + 2 else 0
  | c :: cs => if p c then more p cs + 1 else 0
  | [] => 0

/-- at least one character of the class `p`, then more of them -/
def run (p : Char → Bool) : List Char → Nat
  | c :: cs => if p c then more p cs + 1 else 0
  | [] => 0

def isHex (c : Char) : Bool :=
  c.isDigit || ('a' ≤ c && c ≤ 'f') || ('A' ≤ c && c ≤ 'F')

/-- `e`, a sign perhaps, digits; 0 where there is no exponent -/
def exponent : List Char → Nat
  | e :: s :: rest =>
    if e == 'e' || e == 'E' then
      if s == '+' || s == '-' then
        match run Char.isDigit rest with
        | 0 => 0
        | n => n + 2
      else
        match run Char.isDigit (s :: rest) with
        | 0 => 0
        | n => n + 1
    else 0
  | _ => 0

/-- a number with a point or an exponent -/
def real (s : List Char) : Option Nat :=
  let whole := run Char.isDigit s
  match whole, s.drop whole with
  | 0, '.' :: rest =>
    match run Char.isDigit rest with
    | 0 => none
    | n => some (n + 1 + exponent (rest.drop n))
  | 0, _ => none
  | n, '.' :: rest =>
    let part := run Char.isDigit rest
    some (n + 1 + part + exponent (rest.drop part))
  | n, rest =>
    match exponent rest with
    | 0 => none
    | e => some (n + e)

def imaginaryMark : List Char → Bool
  | 'j' :: _ | 'J' :: _ => true
  | _ => false

def imaginary (s : List Char) : Option Nat :=
  let whole := run Char.isDigit s
  if whole ≠ 0 ∧ imaginaryMark (s.drop whole) then some (whole + 1)
  else
    match real s with
    | some n => if imaginaryMark (s.drop n) then some (n + 1) else none
    | none => none

/-- digits after a base mark -/
def based (lower upper : Char) (p : Char → Bool) : List Char → Option Nat
  | '0' :: x :: rest =>
    if x == lower || x == upper then
      match more p rest with
      | 0 => none
      | n => some (n + 2)
    else none
  | _ => none

def decimal : List Char → Option Nat
  | '0' :: rest => some (more (· == '0') rest + 1)
  | c :: rest => if c.isDigit then some (more Char.isDigit rest + 1) else none
  | [] => none

def number (s : List Char) : Option Nat :=
  imaginary s <|> real s <|> based 'x' 'X' isHex s <|> based 'b' 'B' (fun c => c == '0' || c == '1') s
    <|> based 'o' 'O' (fun c => '0' ≤ c && c ≤ '7') s <|> decimal s

/-- operators and delimiters, a longer one before its beginnings -/
def operators : List String :=
  ["**=", "//=", ">>=", "<<=", "...", "!=", "%=", "&=", "**", "*=", "+=", "-=", "->", "//", "/=",
    ":=", "<<", "<=", "==", ">=", ">>", "@=", "^=", "|=", "%", "&", "(", ")", "*", "+", ",", "-",
    ".", "/", ":", ";", "<", "=", ">", "@", "[", "]", "^", "\x7b", "|", "\x7d", "~"]

def operator (s : List Char) : Option Nat :=
  (operators.find? fun o => o.toList.isPrefixOf s).map String.length

/-- marks in front of a string literal, in lower case -/
def stringMarks : List String := ["", "b", "r", "u", "f", "br", "rb", "fr", "rf"]

/-- the number of marks in front of a string literal, and its quote -/
def stringStart (s : List Char) : Option (Nat × Char) :=
  [0, 1, 2].findSome? fun n =>
    match s.drop n with
    | q :: _ =>
      if (q == '"' || q == '\'') && stringMarks.contains (String.ofList ((s.take n).map Char.toLower))
      then some (n, q) else none
    | [] => none

/-- how the first line of a string literal in single quotes ends -/
inductive Ending where
  | closed | continued
  deriving DecidableEq, Repr

/-- up to the closing quote, or over a line break that a backslash hides -/
def firstLine (q : Char) : List Char → Option (Nat × Ending)
  | '\\' :: '\n' :: _ => some (2, .continued)
  | '\\' :: '\r' :: '\n' :: _ => some (3, .continued)
  | '\\' :: _ :: cs => (firstLine q cs).map fun (n, e) => (n + 2, e)
  | c :: cs =>
    if c == q then some (1, .closed)
    else if c == '\n' || c == '\\' then none
    else (firstLine q cs).map fun (n, e) => (n + 1, e)
  | [] => none

/-- up to the closing quote on a later line -/
def closing (q : Char) : List Char → Option Nat
  | '\\' :: c :: cs => if c == '\n' then none else (closing q cs).map (· + 2)
  | c :: cs =>
    if c == q then some 1 else if c == '\\' then none else (closing q cs).map (· + 1)
  | [] => none

/-- up to three closing quotes -/
def closingTriple (q : Char) : List Char → Option Nat
  | '\\' :: c :: cs => if c == '\n' then none else (closingTriple q cs).map (· + 2)
  | c :: cs =>
    if c == q && cs.take 2 == [q, q] then some 3
    else if c == '\\' then none
    else (closingTriple q cs).map (· + 1)
  | [] => none

end Pattern

/-- What a text starts with, blanks aside. The counts leave out the first character. -/
inductive Piece where
  /-- a backslash that hides the line break behind it -/
  | hidden (more : Nat)
  | lexeme (kind : LexemeKind) (more : Nat)
  /-- a line break, of a statement or inside one -/
  | lineEnd (more : Nat)
  /-- a string literal in three quotes, up to and with them -/
  | triple (quote : Char) (more : Nat)
  /-- a string literal that goes on in the next line -/
  | continuedString (quote : Char) (more : Nat)
  deriving DecidableEq, Repr

namespace Piece

/-- a piece of `n` characters -/
def ofLength (f : Nat → Piece) (n : Nat) : Option Piece := some (f (n - 1))

def lineEnd? : List Char → Option Piece
  | '\n' :: _ => some (.lineEnd 0)
  | '\r' :: '\n' :: _ => some (.lineEnd 1)
  | _ => none

def string? (s : List Char) : Option Piece :=
  match Pattern.stringStart s with
  | some (n, q) =>
    match Pattern.firstLine q (s.drop (n + 1)) with
    | some (k, .closed) => some (.lexeme .string (n + k))
    | some (k, .continued) => some (.continuedString q (n + k))
    | none => none
  | none => none

def triple? (s : List Char) : Option Piece :=
  match Pattern.stringStart s with
  | some (n, q) => if (s.drop (n + 1)).take 2 == [q, q] then some (.triple q (n + 2)) else none
  | none => none

/-- A run of word characters is a name only if it starts as one. -/
def word? : List Char → Option Piece
  | c :: cs =>
    if Text.isWord c then
      let more := (cs.takeWhile Text.isWord).length
      some (.lexeme (if Text.isIdentifierStart c then .name else .operator) more)
    else none
  | [] => none

def hidden? : List Char → Option Piece
  | '\\' :: '\n' :: _ => some (.hidden 1)
  | '\\' :: '\r' :: '\n' :: _ => some (.hidden 2)
  | _ => none

def comment? : List Char → Option Piece
  | '#' :: cs => some (.lexeme .comment (cs.takeWhile fun c => c != '\r' && c != '\n').length)
  | _ => none

/-- the piece that a text without blanks in front starts with; `none` for a stray character -/
def first? (s : List Char) : Option Piece :=
  hidden? s <|> comment? s <|> triple? s
    <|> ((Pattern.number s).bind (ofLength (.lexeme .number)))
    <|> lineEnd? s
    <|> ((Pattern.operator s).bind (ofLength (.lexeme .operator)))
    <|> string? s <|> word? s

end Piece
end Literate.Script
