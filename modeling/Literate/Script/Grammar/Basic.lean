import Literate.Script.Expr

/-! Parsers of terminals: a parser takes terminals from the front of a list, or it declines. -/

namespace Literate.Script

abbrev Parse := StateT (List Terminal) Option

namespace Parse

/-- whether the terminals in front are these words -/
def ahead (words : List String) : Parse Bool := fun ts =>
  some (go words ts, ts)
where
  go : List String → List Terminal → Bool
    | [], _ => true
    | w :: ws, t :: ts => t.isWord w && go ws ts
    | _ :: _, [] => false

/-- a name in front of a word -/
def nameAhead (word : String) : Parse Bool := fun ts =>
  match ts with
  | t :: u :: _ => some (t.kind = .name && u.isWord word, ts)
  | _ => some (false, ts)

/-- takes a word if it is in front -/
def accept (word : String) : Parse Bool := fun ts =>
  match ts with
  | t :: rest => if t.isWord word then some (true, rest) else some (false, ts)
  | [] => some (false, ts)

def expect (word : String) : Parse Unit := do
  if ← accept word then return () else failure

def ofKind (kind : TerminalKind) : Parse Terminal := fun ts =>
  match ts with
  | t :: rest => if t.kind = kind then some (t, rest) else none
  | [] => none

/-- the text of a name in its normal form -/
def identifier : Parse String := do
  return String.ofList (Text.normalize (← ofKind .name).text.toList)

/-- takes the word of a table that is in front -/
def oneOf (table : List (String × α)) : Parse (Option α) := fun ts =>
  match ts with
  | t :: rest =>
    match table.find? fun (w, _) => t.isWord w with
    | some (_, a) => some (some a, rest)
    | none => some (none, ts)
  | [] => some (none, ts)

/-- takes one of the words if one is in front -/
def acceptAny (words : List String) : Parse Bool := do
  return (← oneOf (words.map (·, ()))).isSome

/-- where `p` declines nothing is taken -/
def attempt (p : Parse α) : Parse (Option α) := fun ts =>
  match p ts with
  | some (a, rest) => some (some a, rest)
  | none => some (none, ts)

def iterate (step : α → Parse (Option α)) : Nat → α → Parse α
  | 0, a => return a
  | n + 1, a => do
    match ← step a with
    | some b => iterate step n b
    | none => return a

/-- Goes on from `a` as long as `step` gives something. Each step takes a terminal at least. -/
def loop (step : α → Parse (Option α)) (a : α) : Parse α := do
  match ← step a with
  | some b => iterate step (← get).length b
  | none => return a

/-- the results of `p` as long as it does not decline -/
def many (p : Parse α) : Parse (List α) := do
  let step (acc : List α) : Parse (Option (List α)) := do
    return (← attempt p).map (· :: acc)
  return (← loop step []).reverse

/-- Items with a word between them, perhaps with one behind the last, and whether there is any such
word. -/
def separated (word : String) (item : Parse α) : Parse (List α × Bool) := do
  let first ← item
  if ← accept word then
    let step (acc : List α × Bool) : Parse (Option (List α × Bool)) := do
      if acc.2 then
        match ← attempt item with
        | some a => return some (a :: acc.1, ← accept word)
        | none => return none
      else return none
    let (rest, _) ← loop step ([], true)
    return (first :: rest.reverse, true)
  else return ([first], false)

def commas (item : Parse α) : Parse (List α × Bool) := separated "," item

/-- items with commas between them and none behind the last -/
def strictCommas (item : Parse α) : Parse (List α) := do
  let first ← item
  let step (acc : List α) : Parse (Option (List α)) := do
    if ← accept "," then return some ((← item) :: acc) else return none
  return first :: (← loop step []).reverse

/-- what a partial function makes of a result -/
def lift (a : Option α) : Parse α := fun ts => a.map (·, ts)

/-- runs a parser on all terminals of a text of its own -/
def onText (p : Parse α) (origin : Point) (s : List Char) : Option α := do
  let ts ← Strict.terminals s
  let (a, _) ← p (ts.map (Terminal.shift origin))
  return a

end Parse
end Literate.Script
