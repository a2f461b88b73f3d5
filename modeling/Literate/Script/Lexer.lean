import Literate.Script.Lexeme

/-! A lexer that goes on after what it does not know: a stray character becomes a lexeme of its own.
It stops early only at a step back to no former depth, and at a string or bracket still open at the
end of the text. -/

namespace Literate.Script

/-- a string literal that is still open at the end of a line -/
structure OpenString where
  start : Position
  quote : Char
  triple : Bool
  /-- its text so far -/
  text : List Char
  deriving DecidableEq, Repr, Inhabited

/-- what a line leaves to the next one -/
structure LexerState where
  /-- brackets open; below 0 after stray closing ones -/
  depth : Int := 0
  /-- the line break before was hidden -/
  continued : Bool := false
  /-- widths of the blocks that are open, the innermost first -/
  indents : List Nat := []
  pending : Option OpenString := none
  deriving DecidableEq, Repr, Inhabited

/-- lexemes in order, and why there are no more, if the text has more -/
structure Lexemes where
  items : List Lexeme
  interruption : Option Interruption := none
  deriving DecidableEq, Repr, Inhabited

namespace Lexer

/-- part of a line, from column `a` up to column `b` -/
def spanIn (row a b : Nat) : Span := ⟨⟨row, a⟩, ⟨row, b⟩⟩

def endsHidden (line : List Char) : Bool :=
  match line.reverse with
  | '\n' :: '\\' :: _ | '\n' :: '\r' :: '\\' :: _ => true
  | _ => false

def bracket (st : LexerState) : List Char → LexerState
  | ['('] | ['['] | ['\x7b'] => { st with depth := st.depth + 1 }
  | [')'] | [']'] | ['\x7d'] => { st with depth := st.depth - 1 }
  | _ => st

/-- Lexemes of the rest `s` of a line, from column `col`. `alone` tells that only blanks stand in
front of it. -/
def scan (row : Nat) (st : LexerState) (alone : Bool) (col : Nat) (s : List Char) :
    List Lexeme × LexerState :=
  match s with
  | [] => ([], st)
  | c :: cs =>
    if isLayout c && !(cs.dropWhile isLayout).isEmpty &&
        (Piece.first? (cs.dropWhile isLayout)).isNone then
      -- a blank in front of a stray character is stray itself
      let (ls, st) := scan row st (alone && Text.isBlank c) (col + 1) cs
      (⟨.unknown, [c], spanIn row col (col + 1), alone⟩ :: ls, st)
    else if isLayout c then scan row st alone (col + 1) cs
    else
      match Piece.first? (c :: cs) with
      | none =>
        let (ls, st) := scan row st (alone && Text.isBlank c) (col + 1) cs
        (⟨.unknown, [c], spanIn row col (col + 1), alone⟩ :: ls, st)
      | some (.hidden n) =>
        scan row { st with continued := true } false (col + n + 1) (cs.drop n)
      | some (.lexeme kind n) =>
        let text := c :: cs.take n
        let st := if kind = .operator then bracket st text else st
        let (ls, st) := scan row st false (col + n + 1) (cs.drop n)
        (⟨kind, text, spanIn row col (col + n + 1), alone⟩ :: ls, st)
      | some (.lineEnd n) =>
        let kind := if st.depth > 0 then .lineBreak else .newline
        let (ls, st) := scan row st false (col + n + 1) (cs.drop n)
        (⟨kind, c :: cs.take n, spanIn row col (col + n + 1), alone⟩ :: ls, st)
      | some (.triple q n) =>
        match Pattern.closingTriple q (cs.drop n) with
        | some k =>
          let (ls, st) := scan row st false (col + n + k + 1) (cs.drop (n + k))
          (⟨.string, c :: cs.take (n + k), spanIn row col (col + n + k + 1), alone⟩ :: ls, st)
        | none => ([], { st with pending := some ⟨⟨row, col⟩, q, true, c :: cs⟩ })
      | some (.continuedString q _) =>
        ([], { st with pending := some ⟨⟨row, col⟩, q, false, c :: cs⟩ })
termination_by s.length
decreasing_by all_goals (simp only [List.length_drop, List.length_cons]; omega)

/-- width of the blanks in front of a line, and their number; tab stops are eight apart, and a form
feed starts again at 0 -/
def indentation : List Char → Nat × Nat
  | line => go 0 0 line
where
  go (width count : Nat) : List Char → Nat × Nat
    | ' ' :: cs => go (width + 1) (count + 1) cs
    | '\t' :: cs => go ((width / 8 + 1) * 8) (count + 1) cs
    | '\x0c' :: cs => go 0 (count + 1) cs
    | _ => (width, count)

/-- a line of blanks and perhaps a comment; a carriage return makes the rest of the line a line break
too -/
def emptyLine (row count : Nat) (line : List Char) : List Lexeme :=
  let rest := line.drop count
  let comment := if rest.head? = some '#' then
      Text.dropTail (fun c => c == '\r' || c == '\n') rest
    else []
  let stop := count + comment.length
  (if comment.isEmpty then [] else [⟨.comment, comment, spanIn row count stop, true⟩]) ++
    [⟨.lineBreak, line.drop stop, spanIn row stop line.length, comment.isEmpty⟩]

/-- Opens a block for a deeper line, and closes the blocks that a line steps out of. -/
def adjust (row width count : Nat) (line : List Char) (indents : List Nat) :
    Except Interruption (List Lexeme × List Nat) :=
  if indents.headD 0 < width then
    .ok ([⟨.indent, line.take count, spanIn row 0 count, true⟩], width :: indents)
  else if width ≠ 0 && !indents.contains width then .error (.unmatchedDedent row)
  else
    let left := indents.takeWhile (width < ·)
    .ok (left.map fun _ => ⟨.dedent, [], spanIn row count count, true⟩, indents.drop left.length)

/-- the lexemes of one line -/
def line (row : Nat) (st : LexerState) (text : List Char) :
    Except Interruption (List Lexeme × LexerState) :=
  match st.pending with
  | some o =>
    match if o.triple then Pattern.closingTriple o.quote text else Pattern.closing o.quote text with
    | some n =>
      let (ls, st) := scan row { st with pending := none } false n (text.drop n)
      .ok (⟨.string, o.text ++ text.take n, ⟨o.start, ⟨row, n⟩⟩, false⟩ :: ls, st)
    | none =>
      if !o.triple && !endsHidden text then
        .ok ([⟨.unknown, o.text ++ text, ⟨o.start, ⟨row, text.length⟩⟩, false⟩],
          { st with pending := none })
      else .ok ([], { st with pending := some { o with text := o.text ++ text } })
  | none =>
    if st.depth = 0 && !st.continued then
      let (width, count) := indentation text
      match (text.drop count).head? with
      | none => .ok ([], st)
      | some c =>
        if c == '#' || c == '\r' || c == '\n' then .ok (emptyLine row count text, st)
        else
          match adjust row width count text st.indents with
          | .error w => .error w
          | .ok (ls, indents) =>
            let (rest, st) := scan row { st with indents } true count (text.drop count)
            .ok (ls ++ rest, st)
    else .ok (scan row { st with continued := false } true 0 text)

/-- the lines of a text, each with its line feed -/
def linesOf (text : List Char) : List (List Char) :=
  match text.splitOn '\n' with
  | [] => []
  | pieces =>
    let last := pieces.getLast?.getD []
    (pieces.dropLast.map (· ++ ['\n'])) ++ (if last.isEmpty then [] else [last])

/-- What the end of the text adds: the end of a last line without a line break, and the end of every
block. -/
def finish (row : Nat) (last : List Char) (indents : List Nat) : List Lexeme :=
  let open_ := match last.getLast? with
    | none => false
    | some c => c != '\r' && c != '\n' && (Text.trim last).head? != some '#'
  (if open_ then [⟨.newline, [], spanIn (row - 1) last.length (last.length + 1), false⟩] else []) ++
    indents.map (fun _ => ⟨.dedent, [], spanIn row 0 0, true⟩) ++
    [⟨.endOfText, [], spanIn row 0 0, true⟩]

/-- A last line of nothing but blanks counts as the end of the text. -/
def atEnd (st : LexerState) (text : List Char) : Bool :=
  st.pending.isNone && st.depth = 0 && !st.continued && text.all isLayout

/-- the lexemes of the lines from `row` on; `before` is the line in front of them -/
def lines (row : Nat) (before : List Char) (st : LexerState) : List (List Char) → Lexemes
  | [] =>
    match st.pending with
    | some o => ⟨[], some (.openString o.start)⟩
    | none =>
      if st.depth = 0 && !st.continued then ⟨finish row before st.indents, none⟩
      else ⟨[], some (.openStatement ⟨row, 0⟩)⟩
  | text :: rest =>
    if atEnd st text then ⟨finish row before st.indents, none⟩
    else
      match line row st text with
      | .error w => ⟨[], some w⟩
      | .ok (ls, st) =>
        let ⟨more, w⟩ := lines (row + 1) text st rest
        ⟨ls ++ more, w⟩

end Lexer

/-- the lexemes of a script -/
def lex (source : String) : Lexemes := Lexer.lines 0 [] {} (Lexer.linesOf source.toList)

end Literate.Script
