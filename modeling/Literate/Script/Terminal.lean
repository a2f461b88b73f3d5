import Literate.Script.Lexeme
import Literate.Script.Vocabulary
import Literate.Text.LineBreak

/-! Terminals of a script that is read strictly: one character out of place refuses the whole
script. Indentation opens and closes blocks; blank lines and comments leave no terminal. -/

namespace Literate.Script

inductive TerminalKind where
  | name | reserved | number | string | operator
  /-- the end of a statement -/
  | newline
  | indent | dedent | endOfText
  deriving DecidableEq, Repr, Inhabited

structure Terminal where
  kind : TerminalKind
  text : String
  start : Point
  stop : Point
  deriving DecidableEq, Repr, Inhabited

namespace Terminal

/-- an operator or a reserved word of this text -/
def isWord (t : Terminal) (text : String) : Bool :=
  (t.kind = .operator || t.kind = .reserved) && t.text = text

/-- Moves the place of a terminal from a text of its own to where that text starts in a script. Only
a terminal that ends in the first row moves sideways. -/
def shift (origin : Point) (t : Terminal) : Terminal :=
  let aside := if t.stop.row = 0 then origin.byte else 0
  { t with
    start := ⟨t.start.row + origin.row, t.start.byte + aside⟩
    stop := ⟨t.stop.row + origin.row, t.stop.byte + aside⟩ }

end Terminal

namespace Pattern

/-- up to the closing quote on the same line; a backslash hides the character behind it, line feeds
included -/
def quoteEnd (q : Char) : List Char → Option Nat
  | '\\' :: _ :: cs => (quoteEnd q cs).map (· + 2)
  | c :: cs => if c = q then some 1 else if c = '\n' then none else (quoteEnd q cs).map (· + 1)
  | [] => none

/-- up to three closing quotes on any line -/
def tripleEnd (q : Char) : List Char → Option Nat
  | '\\' :: _ :: cs => (tripleEnd q cs).map (· + 2)
  | c :: cs =>
    if c = q && cs.take 2 == [q, q] then some 3 else (tripleEnd q cs).map (· + 1)
  | [] => none

/-- a whole string literal with its marks -/
def literal (s : List Char) : Option Nat :=
  match stringStart s with
  | none => none
  | some (marks, q) =>
    let body := s.drop (marks + 1)
    if body.take 2 == [q, q] then (tripleEnd q (body.drop 2)).map (marks + 3 + ·)
    else (quoteEnd q body).map (marks + 1 + ·)

/-- characters of words; those beyond ASCII are looked at later, by the word -/
def inWord (c : Char) : Bool := c.isAlphanum || c == '_' || 128 ≤ c.toNat

/-- words that may follow a number without a blank between them -/
def wordsBehindNumber : List String := ["and", "else", "for", "if", "in", "is", "or", "not"]

/-- no word goes on where a number ends -/
def endsNumber (s : List Char) : Bool :=
  match s.head? with
  | none => true
  | some c => !inWord c || wordsBehindNumber.any fun w => w.toList.isPrefixOf s

/-- A number, and nothing behind it that could belong to it. A lone zero in front of a mark of
another base is no number. -/
def strictNumber (s : List Char) : Option Nat :=
  match number s with
  | none => none
  | some n =>
    let rest := s.drop n
    let based := n = 1 && s.head? = some '0' &&
      match rest.head? with
      | some c => "xXoObB".toList.contains c
      | none => false
    if based || !endsNumber rest then none else some n

end Pattern

namespace Strict

/-- the indentation of a block, with tab stops eight columns apart and with tabs of one column; both
must tell the same -/
structure Margin where
  width : Nat := 0
  narrow : Nat := 0
  deriving DecidableEq, Repr, Inhabited

/-- what is open at a place -/
structure Open where
  place : Point := ⟨0, 0⟩
  /-- margins of the blocks inside the script, the innermost first -/
  margins : List Margin := []
  /-- closing brackets to come, the innermost first -/
  brackets : List Char := []
  deriving Repr, Inhabited

/-- Blanks at the start of a line, also over hidden line breaks: there the width in front of the first
of them counts, unless it is 0. -/
def blanks (p : Point) (m : Margin) (held : Nat) :
    List Char → Option (Margin × Point × List Char)
  | ' ' :: s => blanks ⟨p.row, p.byte + 1⟩ ⟨m.width + 1, m.narrow + 1⟩ held s
  | '\t' :: s => blanks ⟨p.row, p.byte + 1⟩ ⟨(m.width / 8 + 1) * 8, m.narrow + 1⟩ held s
  | '\x0c' :: s => blanks ⟨p.row, p.byte + 1⟩ ⟨0, 0⟩ held s
  | '\\' :: '\n' :: c :: s =>
    blanks ⟨p.row + 1, 0⟩ m (if held = 0 then m.width else held) (c :: s)
  | '\\' :: _ => none
  | s => some (if held = 0 then m else ⟨held, held⟩, p, s)

def maxBlocks : Nat := 99
def maxBrackets : Nat := 200

/-- an empty terminal -/
def mark (kind : TerminalKind) (p : Point) : Terminal := ⟨kind, "", p, p⟩

/-- Opens or closes blocks so that the margin is `m`. -/
def adjust (margins : List Margin) (m : Margin) (p : Point) :
    Option (List Terminal × List Margin) :=
  let now := margins.headD {}
  if m.width = now.width then if m.narrow = now.narrow then some ([], margins) else none
  else if now.width < m.width then
    if now.narrow < m.narrow && margins.length < maxBlocks then
      some ([mark .indent p], m :: margins)
    else none
  else
    let closed := margins.takeWhile (m.width < ·.width)
    let rest := margins.drop closed.length
    if rest.headD {} = m then some (closed.map fun _ => mark .dedent p, rest) else none

def closing : Char → Option Char
  | '(' => some ')'
  | '[' => some ']'
  | '\x7b' => some '\x7d'
  | _ => none

/-- the brackets that are open behind an operator -/
def nest (brackets : List Char) : List Char → Option (List Char)
  | [c] =>
    match closing c with
    | some d => if brackets.length < maxBrackets then some (d :: brackets) else none
    | none =>
      if c == ')' || c == ']' || c == '\x7d' then
        match brackets with
        | d :: rest => if c = d then some rest else none
        | [] => none
      else some brackets
  | _ => some brackets

/-- the terminal that a text without blanks in front starts with, and its length -/
def first? (s : List Char) : Option (TerminalKind × Nat) :=
  match s with
  | [] => none
  | c :: rest =>
    if (Pattern.stringStart s).isSome then (Pattern.literal s).map fun n => (.string, n)
    else if c.isAlpha || c == '_' || 128 ≤ c.toNat then
      let word := s.takeWhile Pattern.inWord
      if Text.isIdentifier word then
        some (if reservedWords.contains (String.ofList word) then .reserved else .name, word.length)
      else none
    else if c.isDigit || (c == '.' && (rest.head?.map Char.isDigit).getD false) then
      (Pattern.strictNumber s).map fun n => (.number, n)
    else (Pattern.operator s).map fun n => (.operator, n)

/-- The terminals of the rest of a script. Each of the `n` steps reads a character, or passes from the
blanks of a line to the line. -/
def scan : Nat → Bool → Open → List Char → Option (List Terminal)
  | 0, _, _, _ => none
  | n + 1, true, o, s => do
    let (m, p, s) ← blanks o.place {} 0 s
    match s with
    | [] => some (o.margins.map (fun _ => mark .dedent p) ++ [mark .endOfText p])
    | '#' :: _ | '\n' :: _ =>
      scan n true { o with place := ⟨p.row + 1, 0⟩ } ((s.dropWhile (· ≠ '\n')).drop 1)
    | _ =>
      let (marks, margins) ← adjust o.margins m p
      let rest ← scan n false { o with place := p, margins } s
      some (marks ++ rest)
  | n + 1, false, o, s =>
    let p := o.place
    match s with
    | [] => none
    | '#' :: _ => scan n false o (s.dropWhile (· ≠ '\n'))
    | '\n' :: s =>
      let next := { o with place := ⟨p.row + 1, 0⟩ }
      if o.brackets.isEmpty then (scan n true next s).map (mark .newline p :: ·)
      else scan n false next s
    | '\\' :: s =>
      match s with
      | '\n' :: c :: s => scan n false { o with place := ⟨p.row + 1, 0⟩ } (c :: s)
      | _ => none
    | c :: rest =>
      if isLayout c then scan n false { o with place := p.after [c] } rest
      else do
        let (kind, k) ← first? s
        let text := s.take k
        let stop := p.after text
        let brackets ← if kind = .operator then nest o.brackets text else some o.brackets
        let more ← scan n false { o with place := stop, brackets } (s.drop k)
        some (⟨kind, String.ofList text, p, stop⟩ :: more)

/-- the text with line feeds as its only line breaks, one of them at its end -/
def withLineFeeds (s : List Char) : List Char :=
  let lines := Text.unifyBreaks s
  if lines.getLast? = some '\n' && s.reverse.take 2 ≠ ['\n', '\r'] then lines else lines ++ ['\n']

/-- the terminals of a script; `none` if it has none that are in order -/
def terminals (s : List Char) : Option (List Terminal) :=
  let s := withLineFeeds s
  scan (2 * s.length + 2) true {} s

end Strict
end Literate.Script
