import Literate.Script.Grammar.Field

/-! The grammar of expressions. The rules stand in the order of how tightly their operators bind. A rule
that needs an expression inside of itself takes it from `sub`, the rules one level further in. -/

namespace Literate.Script

/-- the kinds of expressions that stand inside others -/
inductive Goal where
  /-- whatever may stand where a value is asked for, but for commas -/
  | expression
  /-- without `if` and `lambda` at the outside -/
  | disjunction
  | inversion
  /-- without comparisons and logic at the outside -/
  | operand
  | factor
  /-- without operators at the outside -/
  | primary
  deriving DecidableEq, Repr

namespace Grammar

open Parse

abbrev Rules := Goal → Parse Expr

/-- a name that a value is given to inside an expression, or any expression -/
def named (sub : Rules) : Parse Expr := do
  if ← nameAhead ":=" then
    let t ← ofKind .name
    expect ":="
    return .walrus (.ofName t .store) (← sub .expression)
  else sub .expression

def starred (item : Parse Expr) : Parse (Option Expr) := do
  if ← accept "*" then return some (.starred (← item)) else return none

def starredOperand (sub : Rules) : Parse (Option Expr) := starred (sub .operand)

/-- an item of a list in brackets -/
def item (sub : Rules) : Parse Expr := do
  match ← starredOperand sub with
  | some e => return e
  | none => named sub

/-- an item of a list without brackets -/
def looseItem (sub : Rules) : Parse Expr := do
  match ← starredOperand sub with
  | some e => return e
  | none => sub .expression

def isStarred : Expr → Bool
  | .starred _ => true
  | _ => false

/-- a comma makes a tuple -/
def tupled (r : List Expr × Bool) : Expr :=
  match r with
  | ([e], false) => e
  | (es, _) => .tuple es

/-- expressions with commas between them -/
def loose (sub : Rules) : Parse Expr := do return tupled (← commas (looseItem sub))

/-- something that values can be given to -/
def target (sub : Rules) : Parse Expr := do
  match ← starred (sub .primary) with
  | some e => lift e.stored
  | none => lift (← sub .primary).stored

def targets (sub : Rules) : Parse Expr := do return tupled (← commas (target sub))

/-- what follows the word `yield` -/
def yielded (sub : Rules) : Parse Expr := do
  if ← accept "from" then return .delegate (← sub .expression)
  else return .yield (← attempt (loose sub))

/-- a `yield`, or expressions with commas between them -/
def yieldOrLoose (sub : Rules) : Parse Expr := do
  if ← accept "yield" then yielded sub else loose sub

/-! Comprehensions. -/

def clause (sub : Rules) : Parse Clause := do
  let isAsync ← if ← ahead ["async", "for"] then accept "async" else pure false
  expect "for"
  let left ← targets sub
  expect "in"
  let source ← sub .disjunction
  let conditions ← loop (fun cs => do
    if ← accept "if" then return some ((← sub .disjunction) :: cs) else return none) []
  return .mk isAsync left source conditions.reverse

def clauseAhead : Parse Bool := do
  if ← ahead ["for"] then return true else ahead ["async", "for"]

/-- the clauses in front, if there are any -/
def clauses (sub : Rules) : Parse (List Clause) := do
  let cs ← loop (fun cs => do
    if ← clauseAhead then return some ((← clause sub) :: cs) else return none) []
  return cs.reverse

/-! Parameters. -/

/-- one parameter without its value -/
def param (note : Parse (Option Expr)) : Parse Param := do
  return .mk (← identifier) (← note) none

/-- a parameter, perhaps with a value -/
def valued (sub : Rules) (note : Parse (Option Expr)) : Parse Param := do
  let id ← identifier
  let note ← note
  let value ← if ← accept "=" then some <$> sub .expression else pure none
  return .mk id note value

/-- parameters as they come -/
inductive Slot where
  | param (p : Param)
  /-- the end of those without a usable name -/
  | slash
  /-- takes what is left over, or only marks where names are needed -/
  | star (p : Option Param)
  /-- takes the names left over -/
  | doubleStar (p : Param)

/-- `note` reads what may follow a name, `wide` what may follow the name behind a star. -/
def slot (sub : Rules) (note wide : Parse (Option Expr)) : Parse Slot := do
  if ← accept "/" then return .slash
  else if ← accept "**" then return .doubleStar (← param note)
  else if ← accept "*" then
    if ← ahead [","] then return .star none else return .star (some (← param wide))
  else return .param (← valued sub note)

def hasValue : Param → Bool
  | .mk _ _ value => value.isSome

/-- the parameters of slots, if these are in an order that parameters may have -/
def arrange : List Slot → Option Params
  | slots => front [] none slots
where
  /-- `before` are the parameters since the start or the slash, the last one first -/
  front (before : List Param) (leading : Option (List Param)) : List Slot → Option Params
    | [] => some (.mk (leading.getD []) before.reverse none [] none)
    | .param p :: rest =>
      let lastValued := match before, leading with
        | q :: _, _ => hasValue q
        | [], some qs => (qs.getLast?.map hasValue).getD false
        | [], none => false
      if lastValued && !hasValue p then none else front (p :: before) leading rest
    | .slash :: rest =>
      if leading.isSome || before.isEmpty then none else front [] (some before.reverse) rest
    | .star p :: rest => back (leading.getD []) before.reverse p [] rest
    | [.doubleStar p] => some (.mk (leading.getD []) before.reverse none [] (some p))
    | .doubleStar _ :: _ => none
  back (leading plain : List Param) (star : Option Param) (named : List Param) :
      List Slot → Option Params
    | [] =>
      if star.isNone && named.isEmpty then none
      else some (.mk leading plain star named.reverse none)
    | .param p :: rest => back leading plain star (p :: named) rest
    | [.doubleStar p] =>
      if star.isNone && named.isEmpty then none
      else some (.mk leading plain star named.reverse (some p))
    | _ => none

/-- parameters up to the word `close`, which is not taken -/
def params (sub : Rules) (note wide : Parse (Option Expr)) (close : String) :
    Parse Params := do
  if ← ahead [close] then return .mk [] [] none [] none
  let (slots, _) ← commas (slot sub note wide)
  if ← ahead [close] then lift (arrange slots) else failure

/-- what follows the word `lambda` -/
def lambda (sub : Rules) : Parse Expr := do
  let ps ← params sub (pure none) (pure none) ":"
  expect ":"
  return .lambda ps (← sub .expression)

/-! Calls and subscripts. -/

inductive Argument where
  | plain (e : Expr)
  /-- with its star -/
  | starred (e : Expr)
  | keyword (name : String) (e : Expr)
  | spread (e : Expr)

def argument (sub : Rules) : Parse Argument := do
  if ← accept "**" then return .spread (← sub .expression)
  else if ← nameAhead "=" then
    let id ← identifier
    expect "="
    return .keyword id (← sub .expression)
  else
    match ← starred (sub .expression) with
    | some e => return .starred e
    | none => return .plain (← named sub)

/-- Plain arguments come first, and no starred one comes behind a spread one. -/
def inOrder (keyword spread : Bool) : List Argument → Bool
  | [] => true
  | .plain _ :: rest => !keyword && !spread && inOrder keyword spread rest
  | .starred _ :: rest => !spread && inOrder keyword spread rest
  | .keyword .. :: rest => inOrder true spread rest
  | .spread _ :: rest => inOrder keyword true rest

def values (as : List Argument) : List Expr := as.filterMap fun
  | .plain e => some e
  | .starred e => some e
  | _ => none

def keywords (as : List Argument) : List Keyword := as.filterMap fun
  | .keyword id e => some (.mk (some id) e)
  | .spread e => some (.mk none e)
  | _ => none

/-- arguments up to a closing bracket, which is taken -/
def arguments (sub : Rules) : Parse (List Expr × List Keyword) := do
  if ← accept ")" then return ([], [])
  let (as, _) ← commas (argument sub)
  expect ")"
  if inOrder false false as then return (values as, keywords as) else failure

/-- The arguments of a call. A comprehension that is the only argument needs no brackets of its own. -/
def callArguments (sub : Rules) : Parse (List Expr × List Keyword) := do
  if ← accept ")" then return ([], [])
  let first ← argument sub
  match first, ← clauseAhead with
  | .plain e, true =>
    let cs ← clauses sub
    expect ")"
    return ([.comprehension .generator e cs], [])
  | _, _ =>
    let rest ← if ← accept "," then
        if ← ahead [")"] then pure [] else do pure (← commas (argument sub)).1
      else pure []
    expect ")"
    let as := first :: rest
    if inOrder false false as then return (values as, keywords as) else failure

def sliceItem (sub : Rules) : Parse Expr := do
  match ← starred (sub .expression) with
  | some e => return e
  | none =>
    if ← nameAhead ":=" then named sub
    else
      let lower ← if ← ahead [":"] then pure none else some <$> sub .expression
      if ← accept ":" then
        let upper ← attempt (sub .expression)
        let step ← if ← accept ":" then attempt (sub .expression) else pure none
        return .slice lower upper step
      else lift lower

/-- A starred item makes a tuple also without a comma. -/
def index (sub : Rules) : Parse Expr := do
  match ← commas (sliceItem sub) with
  | ([e], false) => if isStarred e then return .tuple [e] else return e
  | (es, _) => return .tuple es

/-! Displays in brackets; the opening bracket is taken already. -/

def inParens (sub : Rules) : Parse Expr := do
  if ← accept ")" then return .tuple []
  let e ← if ← accept "yield" then yielded sub
    else do
      let first ← item sub
      if (← clauseAhead) && !isStarred first then
        pure (.comprehension .generator first (← clauses sub))
      else if ← accept "," then
        let rest ← if ← ahead [")"] then pure [] else do pure (← commas (item sub)).1
        pure (.tuple (first :: rest))
      else if isStarred first then failure
      else pure first
  expect ")"
  return e

def inBrackets (sub : Rules) : Parse Expr := do
  if ← accept "]" then return .list []
  let first ← item sub
  let e ← if (← clauseAhead) && !isStarred first then
      pure (.comprehension .list first (← clauses sub))
    else if ← accept "," then
      let rest ← if ← ahead ["]"] then pure [] else do pure (← commas (item sub)).1
      pure (.list (first :: rest))
    else pure (.list [first])
  expect "]"
  return e

def entry (sub : Rules) : Parse Entry := do
  if ← accept "**" then return .spread (← sub .operand)
  else
    let key ← sub .expression
    expect ":"
    return .pair key (← sub .expression)

/-- the entries behind the first one -/
def dictFrom (sub : Rules) (first : Entry) : Parse Expr := do
  if ← accept "," then
    let rest ← if ← ahead ["\x7d"] then pure [] else do pure (← commas (entry sub)).1
    return .dict (first :: rest)
  else return .dict [first]

def setFrom (sub : Rules) (first : Expr) : Parse Expr := do
  if (← clauseAhead) && !isStarred first then return .comprehension .set first (← clauses sub)
  else if ← accept "," then
    let rest ← if ← ahead ["\x7d"] then pure [] else do pure (← commas (item sub)).1
    return .set (first :: rest)
  else return .set [first]

def inBraces (sub : Rules) : Parse Expr := do
  if ← accept "\x7d" then return .dict []
  let e ← if ← ahead ["**"] then do dictFrom sub (← entry sub)
    else
      let canPair := !(← nameAhead ":=") && !(← ahead ["*"])
      let first ← item sub
      let paired ← if canPair then accept ":" else pure false
      if paired then do
        let value ← sub .expression
        if ← clauseAhead then pure (.mapping first value (← clauses sub))
        else dictFrom sub (.pair first value)
      else setFrom sub first
  expect "\x7d"
  return e

/-! Operators, the tightest first. -/

def atom (sub : Rules) : Parse Expr := fun ts =>
  match ts with
  | [] => none
  | t :: rest =>
    match t.kind with
    | .name => some (.ofName t .load, rest)
    | .number => (Literal.number t.text.toList).map fun c => (.constant c, rest)
    | .string =>
      let more := rest.takeWhile (·.kind = .string)
      (literals (loose sub) (t :: more)).map fun e => (e, rest.drop more.length)
    | .reserved =>
      match t.text with
      | "True" => some (.constant (.bool true), rest)
      | "False" => some (.constant (.bool false), rest)
      | "None" => some (.constant .none, rest)
      | _ => none
    | .operator =>
      match t.text with
      | "..." => some (.constant .ellipsis, rest)
      | "(" => inParens sub rest
      | "[" => inBrackets sub rest
      | "\x7b" => inBraces sub rest
      | _ => none
    | _ => none

def trailer (sub : Rules) (e : Expr) : Parse (Option Expr) := do
  if ← accept "." then return some (.member e (← identifier))
  else if ← accept "(" then
    let (as, ks) ← callArguments sub
    return some (.call e as ks)
  else if ← accept "[" then
    let i ← index sub
    expect "]"
    return some (.subscript e i)
  else return none

def primary (sub : Rules) : Parse Expr := do loop (trailer sub) (← atom sub)

def awaited (sub : Rules) : Parse Expr := do
  if ← accept "await" then return .await (← primary sub) else primary sub

def power (sub : Rules) : Parse Expr := do
  let base ← awaited sub
  if ← accept "**" then return .binary .pow base (← sub .factor) else return base

def signs : List (String × UnaryOp) := [("+", .plus), ("-", .minus), ("~", .invert)]

def factor (sub : Rules) : Parse Expr := do
  match ← oneOf signs with
  | some op => return .unary op (← sub .factor)
  | none => power sub

/-- operands with operators of one strength between them, grouped from the left -/
def chain (ops : List (String × BinaryOp)) (operand : Parse Expr) : Parse Expr := do
  let step (left : Expr) : Parse (Option Expr) := do
    match ← oneOf ops with
    | some op => return some (.binary op left (← operand))
    | none => return none
  loop step (← operand)

/-- operators that group from the left, the tightest first -/
def operators : List (List (String × BinaryOp)) :=
  [[("*", .mul), ("/", .div), ("//", .floorDiv), ("%", .mod), ("@", .matMul)],
    [("+", .add), ("-", .sub)], [("<<", .shiftLeft), (">>", .shiftRight)], [("&", .bitAnd)],
    [("^", .bitXor)], [("|", .bitOr)]]

def operand (sub : Rules) : Parse Expr := operators.foldl (fun p ops => chain ops p) (factor sub)

def relations : List (String × CompareOp) :=
  [("==", .eq), ("!=", .notEq), ("<", .lt), ("<=", .le), (">", .gt), (">=", .ge), ("in", .isIn)]

def relation : Parse (Option CompareOp) := do
  if ← ahead ["not", "in"] then
    expect "not"
    expect "in"
    return some .notIn
  else if ← accept "is" then
    if ← accept "not" then return some .isNot else return some .is
  else oneOf relations

def comparison (sub : Rules) : Parse Expr := do
  let first ← operand sub
  let step (acc : List (CompareOp × Expr)) : Parse (Option (List (CompareOp × Expr))) := do
    match ← relation with
    | some op => return some ((op, ← operand sub) :: acc)
    | none => return none
  let rest ← loop step []
  if rest.isEmpty then return first
  else return .comparison first (rest.reverse.map (·.1)) (rest.reverse.map (·.2))

def inversion (sub : Rules) : Parse Expr := do
  if ← accept "not" then return .unary .not (← sub .inversion) else comparison sub

/-- operands with one word between them -/
def joinedBy (word : String) (op : BoolOp) (operand : Parse Expr) : Parse Expr := do
  let first ← operand
  let step (acc : List Expr) : Parse (Option (List Expr)) := do
    if ← accept word then return some ((← operand) :: acc) else return none
  let rest ← loop step []
  if rest.isEmpty then return first else return .boolean op (first :: rest.reverse)

def disjunction (sub : Rules) : Parse Expr :=
  joinedBy "or" .or (joinedBy "and" .and (inversion sub))

def expression (sub : Rules) : Parse Expr := do
  if ← accept "lambda" then lambda sub
  else
    let body ← disjunction sub
    if ← accept "if" then
      let test ← disjunction sub
      expect "else"
      return .conditional test body (← sub .expression)
    else return body

def rules (sub : Rules) : Rules
  | .expression => expression sub
  | .disjunction => disjunction sub
  | .inversion => inversion sub
  | .operand => operand sub
  | .factor => factor sub
  | .primary => primary sub

/-- the rules for expressions of depth at most `n` -/
def rulesTo : Nat → Rules
  | 0, _ => failure
  | n + 1, goal => rules (rulesTo n) goal

end Grammar
end Literate.Script
