import Literate.Script.Grammar.Expr
import Literate.Script.Outline

/-! The grammar of patterns. Of a pattern only its outline is kept. A rule that needs a pattern inside
of itself takes it from `sub`. -/

namespace Literate.Script.Grammar

open Parse

/-- A name that a value is bound to. It is not the low line, and no word goes on from it. -/
def capture : Parse Outline := do
  let t ← ofKind .name
  if t.text = "_" then failure
  if (← ahead ["."]) || (← ahead ["("]) || (← ahead ["="]) then failure
  return .plain []

def imaginary : Constant → Bool
  | .imaginary _ => true
  | _ => false

def signedNumber : Parse Constant := do
  let _ ← accept "-"
  lift (Literal.number (← ofKind .number).text.toList)

/-- a number, or a sum of a real and an imaginary one -/
def numberPattern : Parse Outline := do
  let first ← signedNumber
  if (← ahead ["+"]) || (← ahead ["-"]) then
    let _ ← oneOf signs
    let second ← lift (Literal.number (← ofKind .number).text.toList)
    if imaginary first || !imaginary second then failure
  return .plain []

/-- what a pattern can be equal to, names aside -/
def literalPattern (sub : Rules) : Parse Outline := fun ts =>
  match ts with
  | [] => none
  | t :: _ =>
    match t.kind with
    | .number => numberPattern ts
    | .string => (atom sub ts).map fun (e, rest) => (e.outline, rest)
    | .reserved => (atom sub ts).map fun (e, rest) => (e.outline, rest)
    | .operator => if t.text = "-" then numberPattern ts else none
    | _ => none

/-- names with points between them -/
def dotted : Parse (Expr × Bool) := do
  let t ← ofKind .name
  let step (e : Expr) : Parse (Option Expr) := do
    if ← accept "." then return some (.member e (← identifier)) else return none
  let long ← ahead ["."]
  return (← loop step (.ofName t .load), long)

def starPattern (sub : Parse Outline) : Parse Outline := do
  if ← accept "*" then
    match ← attempt capture with
    | some o => return o
    | none =>
      let t ← ofKind .name
      if t.text = "_" then return .plain [] else failure
  else sub

/-- patterns with commas between them, up to a closing bracket, which is taken -/
def patternsTo (close : String) (sub : Parse Outline) : Parse (List Outline) := do
  if ← accept close then return []
  let (os, _) ← commas sub
  expect close
  return os

def keyPattern (rules : Rules) (sub : Parse Outline) : Parse (Outline × Outline) := do
  let key ← match ← attempt (literalPattern rules) with
    | some o => pure o
    | none => do
      let (e, long) ← dotted
      if long then pure e.outline else failure
  expect ":"
  return (key, ← sub)

/-- The entries of a pattern for dictionaries. Behind the rest of the entries there are no more. -/
def dictPattern (rules : Rules) (sub : Parse Outline) : Parse Outline := do
  if ← accept "\x7d" then return .plain []
  let entry : Parse (Option (Outline × Outline)) := do
    if ← accept "**" then
      let _ ← capture
      return none
    else return some (← keyPattern rules sub)
  let (es, _) ← commas entry
  expect "\x7d"
  if es.dropLast.any (·.isNone) then failure
  let pairs := es.filterMap id
  return .plain (pairs.map (·.1) ++ pairs.map (·.2))

/-- the patterns behind a class, those with names last -/
def classPattern (sub : Parse Outline) (cls : Expr) : Parse Outline := do
  let argument : Parse (Bool × Outline) := do
    if ← nameAhead "=" then
      let _ ← identifier
      expect "="
      return (true, ← sub)
    else return (false, ← sub)
  if ← accept ")" then return .plain [cls.outline]
  let (as, _) ← commas argument
  expect ")"
  if (as.dropWhile fun a => !a.1).all (·.1) then return .plain (cls.outline :: as.map (·.2))
  else failure

def closedPattern (rules : Rules) (sub : Parse Outline) : Parse Outline := do
  if ← accept "(" then
    if ← accept ")" then return .plain []
    let starry ← ahead ["*"]
    let first ← starPattern sub
    if ← accept "," then return .plain (first :: (← patternsTo ")" (starPattern sub)))
    expect ")"
    if starry then failure else return first
  else if ← accept "[" then return .plain (← patternsTo "]" (starPattern sub))
  else if ← accept "\x7b" then dictPattern rules sub
  else
    match ← attempt (literalPattern rules) with
    | some o => return .plain [o]
    | none =>
      match ← attempt capture with
      | some o => return o
      | none =>
        let ts ← get
        if (ts.head?.map (·.text)) = some "_" then
          let _ ← ofKind .name
          return .plain []
        let (e, long) ← dotted
        if ← accept "(" then classPattern sub e
        else if long && !(← ahead ["="]) then return .plain [e.outline]
        else failure

def pattern (rules : Rules) (sub : Parse Outline) : Parse Outline := do
  let first ← closedPattern rules sub
  let step (acc : List Outline) : Parse (Option (List Outline)) := do
    if ← accept "|" then return some ((← closedPattern rules sub) :: acc) else return none
  let rest ← loop step []
  let whole := if rest.isEmpty then first else .plain (first :: rest.reverse)
  if ← accept "as" then
    let _ ← capture
    return .plain [whole]
  else return whole

/-- patterns of depth at most `n` -/
def patternTo (rules : Rules) : Nat → Parse Outline
  | 0 => failure
  | n + 1 => pattern rules (patternTo rules n)

/-- the patterns of a case; a comma makes a sequence -/
def casePattern (sub : Parse Outline) : Parse Outline := do
  let starry ← ahead ["*"]
  match ← commas (starPattern sub) with
  | ([o], false) => if starry then failure else return o
  | (os, _) => return .plain os

end Literate.Script.Grammar
