import Literate.Text.Code

/-! Text made safe inside markup: between tags, in attribute values, and in template literals. -/

namespace Literate.Escape

open Code (char)

def entity? : Code → Option Wording
  | char '&' => some "&amp;"
  | char '<' => some "&lt;"
  | char '>' => some "&gt;"
  | char '"' => some "&quot;"
  | char '\'' => some "&#39;"
  | _ => none

def htmlChar (c : Code) : Wording := (entity? c).getD [c]

/-- text and attribute values of HTML -/
def html (s : Wording) : Wording := s.flatMap htmlChar

def attributeChar (c : Code) : Wording :=
  if c = char '\t' then [char '\\', char 't']
  else if c = char '\x7b' ∨ c = char '\x7d' then [char '\\', c]
  else htmlChar c

/-- attribute values of JSX in double quotes -/
def attributeValue (s : Wording) : Wording := s.flatMap attributeChar

def templateChar (c : Code) : Wording :=
  if c = char '&' ∨ c = char '<' ∨ c = char '>' then htmlChar c
  else if c = char '\\' ∨ c = char '\x60' then [char '\\', c]
  else if c = char '\t' then [char '\\', char 't']
  else if c = char '\r' then [char '\\', char 'r']
  else [c]

/-- the inside of a template literal; a dollar sign is escaped where it would open an expression -/
def template : Wording → Wording
  | [] => []
  | char '$' :: char '\x7b' :: s => char '\\' :: char '$' :: char '\x7b' :: template s
  | c :: s => templateChar c ++ template s

end Literate.Escape
