import Literate.Text.Blank
import Literate.Text.Code

/-! The text that documents a definition, without the indentation of the block that it stands in. -/

namespace Literate.Script

/-- tabs as blanks up to the next of the tab stops, which are eight columns apart -/
def expandTabs (s : Wording) : Wording := go 0 s
where
  go (column : Nat) : Wording → Wording
    | [] => []
    | c :: s =>
      if c = '\t' then
        let width := 8 - column % 8
        List.replicate width (.char ' ') ++ go (column + width) s
      else if c = '\n' || c = '\r' then c :: go 0 s
      else c :: go (column + 1) s

def indent (line : Wording) : Nat := (line.takeWhile (·.is Text.isBlank)).length

/-- the least indentation of the lines that are not blank -/
def commonIndent (lines : List Wording) : Option Nat :=
  ((lines.filter fun l => !l.all (·.is Text.isBlank)).map indent).min?

/-- Drops the blanks in front of the first line, the common indentation of the others, and empty lines
at both ends. -/
def cleanDoc (s : Wording) : Wording :=
  let lines := Text.splitAt (.char '\n') (expandTabs s)
  let margin := (commonIndent (lines.drop 1)).getD 0
  let lines : List Wording := match lines with
    | [] => []
    | first :: rest => first.dropWhile (·.is Text.isBlank) :: rest.map (List.drop margin)
  let kept := (lines.dropWhile List.isEmpty).reverse.dropWhile List.isEmpty
  Text.joinWith (codes "\n") kept.reverse

end Literate.Script
