import Literate.Json.Value

/-! JSON documents as text: two blanks to a level, a line to an item. Only quotes, backslashes and
control characters are escaped. -/

namespace Literate.Json

open Code (char)

def escapeChar (c : Code) : Wording :=
  if c = char '"' then [char '\\', char '"']
  else if c = char '\\' then [char '\\', char '\\']
  else if c = char '\n' then [char '\\', char 'n']
  else if c = char '\r' then [char '\\', char 'r']
  else if c = char '\t' then [char '\\', char 't']
  else if c = char '\x08' then [char '\\', char 'b']
  else if c = char '\x0c' then [char '\\', char 'f']
  else if c.toNat < 32 then char '\\' :: char 'u' :: (Text.hexText 4 c.toNat).map char
  else [c]

def stringText (s : Wording) : Wording := char '"' :: s.flatMap escapeChar ++ [char '"']

/-- infinities and what is no number have words of their own -/
def realText (x : Binary64) : Wording := x.textWith ⟨true, "Infinity", "NaN"⟩

def lineBreak (depth : Nat) : Wording := char '\n' :: List.replicate (2 * depth) (char ' ')

mutual

def print (depth : Nat) : Json → Wording
  | null => "null"
  | bool b => if b then "true" else "false"
  | int n => toString n
  | real x => realText x
  | string s => stringText s
  | array [] => [char '[', char ']']
  | array (v :: vs) =>
    char '[' :: lineBreak (depth + 1) ++ print (depth + 1) v ++ printItems depth vs ++
      lineBreak depth ++ [char ']']
  | object [] => [char '\x7b', char '\x7d']
  | object ((k, v) :: fs) =>
    char '\x7b' :: lineBreak (depth + 1) ++ stringText k ++ [char ':', char ' '] ++
      print (depth + 1) v ++ printFields depth fs ++ lineBreak depth ++ [char '\x7d']

def printItems (depth : Nat) : List Json → Wording
  | [] => []
  | v :: vs => char ',' :: lineBreak (depth + 1) ++ print (depth + 1) v ++ printItems depth vs

def printFields (depth : Nat) : List (Wording × Json) → Wording
  | [] => []
  | (k, v) :: fs =>
    char ',' :: lineBreak (depth + 1) ++ stringText k ++ [char ':', char ' '] ++ print (depth + 1) v ++
      printFields depth fs

end

/-- the text of a document -/
def text (v : Json) : Wording := print 0 v

end Literate.Json
