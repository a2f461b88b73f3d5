import Literate.Script.Literal
import Literate.Text.Normal

/-! Expressions of a script, without the places of anything but names. -/

namespace Literate.Script

/-- what a name is there for -/
inductive Use where
  | load | store | delete
  deriving DecidableEq, Repr, Inhabited

inductive BoolOp where
  | and | or
  deriving DecidableEq, Repr, Inhabited

inductive BinaryOp where
  | add | sub | mul | matMul | div | mod | floorDiv | shiftLeft | shiftRight | bitOr | bitXor
  | bitAnd | pow
  deriving DecidableEq, Repr, Inhabited

inductive UnaryOp where
  | not | invert | plus | minus
  deriving DecidableEq, Repr, Inhabited

inductive CompareOp where
  | eq | notEq | lt | le | gt | ge | is | isNot | isIn | notIn
  deriving DecidableEq, Repr, Inhabited

/-- brackets around a comprehension -/
inductive Shape where
  | list | set | generator
  deriving DecidableEq, Repr, Inhabited

mutual

inductive Expr where
  | name (id : String) (use : Use) (start stop : Point)
  | constant (value : Constant)
  /-- a text with fields -/
  | joined (parts : List Expr)
  /-- a field of a text, with the letter of its conversion and with its format -/
  | field (value : Expr) (conversion : Option Char) (format : Option Expr)
  | tuple (items : List Expr)
  | list (items : List Expr)
  | set (items : List Expr)
  | dict (entries : List Entry)
  | boolean (op : BoolOp) (operands : List Expr)
  | binary (op : BinaryOp) (left right : Expr)
  | unary (op : UnaryOp) (operand : Expr)
  | comparison (first : Expr) (ops : List CompareOp) (others : List Expr)
  | call (function : Expr) (arguments : List Expr) (keywords : List Keyword)
  | member (value : Expr) (name : String)
  | subscript (value index : Expr)
  | slice (lower upper step : Option Expr)
  | starred (value : Expr)
  | conditional (test body otherwise : Expr)
  | lambda (params : Params) (body : Expr)
  | comprehension (shape : Shape) (element : Expr) (clauses : List Clause)
  | mapping (key value : Expr) (clauses : List Clause)
  | await (value : Expr)
  | yield (value : Option Expr)
  | delegate (value : Expr)
  | walrus (target value : Expr)

/-- an entry of a dictionary display -/
inductive Entry where
  | pair (key value : Expr)
  | spread (value : Expr)

/-- an argument with a name, or a spread dictionary -/
inductive Keyword where
  | mk (name : Option String) (value : Expr)

/-- a `for` inside a comprehension with its conditions -/
inductive Clause where
  | mk (isAsync : Bool) (target source : Expr) (conditions : List Expr)

inductive Param where
  | mk (name : String) (note default : Option Expr)

/-- Parameters: the `leading` ones have no usable name, `rest` takes what is left over, the `named` ones
are given by name only, and `others` takes the names left over. -/
inductive Params where
  | mk (leading plain : List Param) (rest : Option Param) (named : List Param)
      (others : Option Param)

end

deriving instance Repr, Inhabited for Expr, Entry, Keyword, Clause, Param, Params

namespace Expr

/-- a name that stands where `t` stands -/
def ofName (t : Terminal) (use : Use) : Expr :=
  name (String.ofList (Text.normalize t.text.toList)) use t.start t.stop

mutual

/-- the expression as a target of an assignment -/
def stored : Expr → Option Expr
  | name id _ a b => some (name id .store a b)
  | member e n => some (member e n)
  | subscript e i => some (subscript e i)
  | tuple es => (storedAll es).map tuple
  | list es => (storedAll es).map list
  | starred e => e.stored.map starred
  | _ => none

def storedAll : List Expr → Option (List Expr)
  | [] => some []
  | e :: es => do return (← e.stored) :: (← storedAll es)

end

mutual

/-- the expression as what a `del` removes -/
def deleted : Expr → Option Expr
  | name id _ a b => some (name id .delete a b)
  | member e n => some (member e n)
  | subscript e i => some (subscript e i)
  | tuple es => (deletedAll es).map tuple
  | list es => (deletedAll es).map list
  | _ => none

def deletedAll : List Expr → Option (List Expr)
  | [] => some []
  | e :: es => do return (← e.deleted) :: (← deletedAll es)

end

/-- a target that is one thing and no list of things -/
def single : Expr → Option Expr
  | name id _ a b => some (name id .store a b)
  | member e n => some (member e n)
  | subscript e i => some (subscript e i)
  | _ => none

end Expr
end Literate.Script
