import Literate.Position

/-! Warnings about input that is used only in part, each with the part of the library that gives
it. -/

namespace Literate

/-- the end of tokens before the end of the text -/
inductive Interruption where
  /-- a string literal that starts there is never closed -/
  | openString (start : Position)
  /-- the text ends inside brackets, or after a continued line -/
  | openStatement (stop : Position)
  /-- a line steps back to a depth that no line before it has -/
  | unmatchedDedent (line : Nat)
  deriving DecidableEq, Repr, Inhabited

namespace Interruption

/-- Lines count from 1 here. -/
def message : Interruption → String
  | openString p => "('EOF in multi-line string', " ++ place p ++ ")"
  | openStatement p => "('EOF in multi-line statement', " ++ place p ++ ")"
  | unmatchedDedent line =>
    "unindent does not match any outer indentation level (<tokenize>, line " ++
      toString (line + 1) ++ ")"
where
  place (p : Position) : String := "(" ++ toString (p.line + 1) ++ ", " ++ toString p.column ++ ")"

end Interruption

inductive Notice where
  /-- the assembly could reach neither the next segment nor the next comment -/
  | stalled (cursor : Position) (segment comment : Option Position)
  /-- a comment starts before an earlier one ends -/
  | droppedComment (span : Span) (stop : Position)
  /-- highlighting ends after so many tokens -/
  | highlightingStopped (count : Nat) (why : Interruption)
  /-- the search for comments ends after so many -/
  | commentsStopped (count : Nat) (why : Interruption)
  deriving DecidableEq, Repr, Inhabited

namespace Notice

/-- the part of the library that gives the warning -/
def source : Notice → String
  | stalled .. => "cire.core.assembler"
  | droppedComment .. => "cire.pipeline"
  | highlightingStopped .. => "cire.analyzers.highlight"
  | commentsStopped .. => "cire.analyzers.comments"

def message : Notice → String
  | stalled p s c =>
    "Assembler stalled at " ++ p.text ++ " (next segment " ++ orNone s ++ ", next comment " ++
      orNone c ++ "); forcing advance"
  | droppedComment s p => "Dropping comment at " ++ s.text ++ ": overlaps comment ending at " ++ p.text
  | highlightingStopped n w =>
    "Highlighting stopped early after " ++ toString n ++ " tokens: " ++ w.message
  | commentsStopped n w =>
    "Comment extraction stopped early after " ++ toString n ++ " comments: " ++ w.message
where
  orNone : Option Position → String
    | none => "None"
    | some p => p.text

/-- one line of a log -/
def line (n : Notice) : String := "WARNING " ++ n.source ++ ": " ++ n.message

end Notice
end Literate
