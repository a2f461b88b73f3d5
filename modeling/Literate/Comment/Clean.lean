import Literate.Language
import Literate.Text.Blank

/-! Comments freed of their markup: marks, the stars of a starred block and common indentation. -/

namespace Literate.Clean

/-- drops the mark, one blank after it, and blanks at the end -/
def line (mark : List Char) (s : List Char) : List Char :=
  let s := if mark.isPrefixOf s then s.drop mark.length else s
  Text.trimRight (if s.head? = some ' ' then s.tail else s)

def indentOf (s : List Char) : Nat := (s.takeWhile Text.isBlank).length

/-- the common indentation of the lines that are not blank -/
def commonIndent (lines : List (List Char)) : Nat :=
  ((lines.filter fun l => !Text.blank l).map indentOf).min?.getD 0

/-- moves all lines to the left by their common indentation; a shorter line stays -/
def dedent (lines : List (List Char)) : List (List Char) :=
  let n := commonIndent lines
  lines.map fun l => if n ≤ l.length then l.drop n else l

/-- drops a blank first line, and a blank last one -/
def trimEdges (lines : List (List Char)) : List (List Char) :=
  let lines := if lines.head?.any Text.blank then lines.tail else lines
  if lines.getLast?.any Text.blank then lines.dropLast else lines

def joinLines : List (List Char) → List Char := Text.joinWith ['\n']

/-- every line that is not blank starts with a star, and there is one -/
def starred (lines : List (List Char)) : Bool :=
  let full := lines.filter fun l => !Text.blank l
  !full.isEmpty && full.all fun l => (Text.trimLeft l).head? = some '*'

def unstar (lines : List (List Char)) : List (List Char) :=
  let lines := lines.map fun l => if Text.blank l then [] else line ['*'] (Text.trimLeft l)
  let lines := if lines.head? = some [] then lines.tail else lines
  if lines.getLast? = some [] then lines.dropLast else lines

/-- an inside of several lines, without blank edges -/
def plainBlock (lines : List (List Char)) : List Char :=
  joinLines (dedent ((trimEdges lines).map Text.trimRight))

def block (inner : List Char) : List Char :=
  let lines := Text.splitAt '\n' inner
  if starred lines then joinLines (unstar lines) else plainBlock lines

def enclosed (first last s : List Char) : Bool :=
  first.isPrefixOf s && last.isSuffixOf s && first.length + last.length ≤ s.length

/-- without two characters at either end -/
def inside (s : List Char) : List Char := (s.take (s.length - 2)).drop 2

/-- A text that matches no form of comment is only trimmed. Braces need a blank beside the dash, so
that pragmas stay whole. -/
def comment (style : Option CommentStyle) (s : List Char) : List Char :=
  match style with
  | some .slashes =>
    if ['/', '/'].isPrefixOf s then line ['/', '/'] s
    else if enclosed ['/', '*'] ['*', '/'] s then block (inside s)
    else Text.trim s
  | some .hash => if ['#'].isPrefixOf s then line ['#'] s else Text.trim s
  | some .dashes =>
    if ['-', '-'].isPrefixOf s then line ['-', '-'] s
    else if enclosed ['\x7b', '-', ' '] [' ', '-', '\x7d'] s then
      let inner := inside s
      if inner.contains '\n' then plainBlock (Text.splitAt '\n' inner) else Text.trim inner
    else Text.trim s
  | none => Text.trim s

end Clean

/-- the prose of a comment -/
def cleanComment (language : String) (text : String) : String :=
  String.ofList (Clean.comment (Language.commentStyle? language) text.toList)

end Literate
