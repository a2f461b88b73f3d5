import Literate.Position
import Literate.Text.Blank

/-! A text as a list of lines, and the pieces of text that spans name. -/

namespace Literate

/-- The lines of a text, without their line feeds. -/
abbrev Buffer := List (List Char)

namespace Buffer

/-- Only a line feed ends a line; a text that ends in one has an empty last line. -/
def ofText (text : String) : Buffer := Text.splitAt '\n' text.toList

/-- the position after the last character -/
def last (lines : Buffer) : Position :=
  match lines.getLast? with
  | none => ⟨0, 0⟩
  | some line => ⟨lines.length - 1, line.length⟩

/-- The characters from column `a` up to column `b`; a column outside the line counts as its start
for `a`, and as its end for `b`. -/
def cut (line : List Char) (a b : Int) : List Char :=
  let a := if a < 0 ∨ line.length < a then 0 else a.toNat
  let b := if b < 0 ∨ line.length < b then line.length else b.toNat
  (line.take b).drop a

/-- the whole text of a span, line breaks included -/
def slice (lines : Buffer) (span : Span) : List Char :=
  let stop := min span.stop.line (lines.length - 1)
  if span.start.line < 0 ∨ span.stop.line < 0 ∨ lines.length ≤ span.start.line then []
  else if span.start.line = stop then
    cut (lines.getD stop.toNat []) span.start.column span.stop.column
  else if stop < span.start.line then []
  else
    let first := span.start.line.toNat
    let head := (lines.getD first []).drop span.start.column.toNat
    let middle := (lines.take stop.toNat).drop (first + 1)
    let tail := (lines.getD stop.toNat []).take span.stop.column.toNat
    Text.joinWith ['\n'] (head :: middle ++ [tail])

/-- the text of a span; nothing for a span that runs backward or starts past the last line -/
def extract (lines : Buffer) (span : Span) : String := String.ofList (lines.slice span)

/-- One column on; past the end of its line, the start of the next one; never past `stop`. -/
def advance (lines : Buffer) (stop p : Position) : Position :=
  let next : Position := ⟨p.line, p.column + 1⟩
  let next := match if next.line < 0 then none else lines[next.line.toNat]? with
    | some line => if line.length < next.column then ⟨next.line + 1, 0⟩ else next
    | none => next
  if (lines.length : Int) ≤ next.line ∨ stop < next then stop else next

/-- How many characters of the line fit into the first `bytes` bytes of its UTF-8 form. -/
def fits : List Char → Nat → Nat
  | [], _ => 0
  | c :: line, bytes => if c.utf8Size ≤ bytes then fits line (bytes - c.utf8Size) + 1 else 0

/-- bytes of the UTF-8 form -/
def byteLength (line : List Char) : Nat := line.foldr (fun c n => c.utf8Size + n) 0

/-- The column at a byte offset, an offset inside a character counting as that character's start. A
negative offset counts from the end of the line. -/
def columnOfByte (line : List Char) (offset : Int) : Nat :=
  fits line (if offset < 0 then (byteLength line + offset).toNat else offset.toNat)

end Buffer
end Literate
