import Literate.Json.Value

/-! Schemas of JSON documents, and every way in which a document breaks one. -/

namespace Literate

/-- the types that schemas name -/
inductive JsonType where
  | object | array | string | integer | boolean
  deriving DecidableEq, Repr, Inhabited

namespace JsonType

def name : JsonType → String
  | object => "object"
  | array => "array"
  | string => "string"
  | integer => "integer"
  | boolean => "boolean"

/-- A real number without a fraction is an integer too. -/
def has : JsonType → Json → Bool
  | object, .object _ => true
  | array, .array _ => true
  | string, .string _ => true
  | integer, .int _ => true
  | integer, .real x => x.toInt?.isSome
  | boolean, .bool _ => true
  | _, _ => false

end JsonType

/-- A schema is a list of rules, checked in order. A rule says nothing about values of other types than
its own. -/
inductive Rule where
  | type (t : JsonType)
  | required (keys : List String)
  | properties (fields : List (String × List Rule))
  /-- no fields but those of the schema's properties -/
  | closed
  | items (schema : List Rule)
  | minItems (n : Nat)
  | maxItems (n : Nat)
  | minimum (n : Int)
  | anyOf (schemas : List (List Rule))
  | oneOf (schemas : List (List Rule))
  | const (v : String)
  | among (vs : List String)
  deriving Repr, Inhabited

abbrev Schema := List Rule

namespace Schema

def type? (s : Schema) : Option JsonType :=
  s.findSome? fun
    | .type t => some t
    | _ => none

/-- the keys that the schema's properties name -/
def keys (s : Schema) : List String :=
  s.flatMap fun
    | .properties fs => fs.map (·.1)
    | _ => []

end Schema

/-- a step from a value into it -/
inductive PathStep where
  | index (n : Nat)
  | key (k : String)
  deriving DecidableEq, Repr, Inhabited

/-- what a value does against a rule -/
inductive Breach where
  | wrongType (v : Json) (t : JsonType)
  | missing (key : String)
  | unexpected (keys : List Wording)
  | tooFew (v : Json) (least : Nat)
  | tooMany (v : Json) (most : Nat)
  | below (v : Json) (least : Int)
  | noneOf (v : Json)
  | several (v : Json)
  | notEqual (expected : String)
  | notAmong (v : Json) (choices : List String)
  deriving Repr, Inhabited

namespace Breach

def message : Breach → String
  | wrongType v t => v.shown ++ " is not of type '" ++ t.name ++ "'"
  | missing key => Text.quotedString key ++ " is a required property"
  | unexpected keys =>
    "Additional properties are not allowed (" ++ Text.join ", " (keys.map Json.quoted) ++
      (if keys.length = 1 then " was" else " were") ++ " unexpected)"
  | tooFew v least => v.shown ++ (if least = 1 then " should be non-empty" else " is too short")
  | tooMany v most => v.shown ++ (if most = 0 then " is expected to be empty" else " is too long")
  | below v least => v.shown ++ " is less than the minimum of " ++ toString least
  | noneOf v => v.shown ++ " is not valid under any of the given schemas"
  | several v => v.shown ++ " is valid under more than one of the given schemas"
  | notEqual expected => Text.quotedString expected ++ " was expected"
  | notAmong v choices =>
    v.shown ++ " is not one of [" ++ Text.join ", " (choices.map Text.quotedString) ++ "]"

/-- a choice between schemas failed, for reasons of its own -/
def isChoice : Breach → Bool
  | noneOf _ | several _ => true
  | _ => false

end Breach

/-- A breach, with the path to the value, and the reasons of each alternative where no alternative
fits. -/
inductive Fault where
  | mk (path : List PathStep) (breach : Breach) (typeFits : Bool) (context : List Fault)
  deriving Inhabited

namespace Fault

def path : Fault → List PathStep
  | mk p _ _ _ => p

def breach : Fault → Breach
  | mk _ b _ _ => b

/-- the value has the type that its schema demands -/
def typeFits : Fault → Bool
  | mk _ _ t _ => t

def context : Fault → List Fault
  | mk _ _ _ c => c

/-- the fault as seen from a step further out; faults in its context keep their paths, which start at
its value -/
def under (s : PathStep) : Fault → Fault
  | mk p b t c => mk (s :: p) b t c

end Fault

namespace Rule

/-- a fault of the value itself, not of a part -/
def here (schema : Schema) (v : Json) (b : Breach) (context : List Fault := []) : Fault :=
  .mk [] b (match schema.type? with
    | some t => t.has v
    | none => false) context

def belowMinimum (n : Int) : Json → Bool
  | .int k => k < n
  | .real x => if n = 0 then x.belowZero else match x.toInt? with
    | some k => k < n
    | none => x.isNegative
  | _ => false

/-- the faults of a simple rule, which looks at no part of the value -/
def simpleFaults (schema : Schema) (v : Json) : Rule → List Fault
  | type t => if t.has v then [] else [here schema v (.wrongType v t)]
  | required ks =>
    match v with
    | .object fs =>
      (ks.filter fun k => (fs.lookup ↑k).isNone).map fun k => here schema v (.missing k)
    | _ => []
  | closed =>
    match v with
    | .object fs =>
      let extra := (fs.map (·.1)).filter fun k => !(schema.keys.map codes).contains k
      if extra.isEmpty then [] else
        let sorted := extra.mergeSort fun a b => !(b.map Code.toNat).lex (a.map Code.toNat)
        [here schema v (.unexpected sorted)]
    | _ => []
  | minItems n =>
    match v with
    | .array vs => if vs.length < n then [here schema v (.tooFew v n)] else []
    | _ => []
  | maxItems n =>
    match v with
    | .array vs => if n < vs.length then [here schema v (.tooMany v n)] else []
    | _ => []
  | minimum n => if belowMinimum n v then [here schema v (.below v n)] else []
  | const k => if v == .string k then [] else [here schema v (.notEqual k)]
  | among ks =>
    if ks.any fun k => v == .string k then [] else [here schema v (.notAmong v ks)]
  | _ => []

mutual

/-- every fault of a value, in the order of the rules -/
def faults (schema : Schema) (v : Json) : List Rule → List Fault
  | [] => []
  | r :: rs => ruleFaults schema v r ++ faults schema v rs

def ruleFaults (schema : Schema) (v : Json) : Rule → List Fault
  | properties fields =>
    match v with
    | .object fs => fieldFaults fs fields
    | _ => []
  | items s =>
    match v with
    | .array vs =>
      (vs.zipIdx.map fun (w, n) => (faults s w s).map (Fault.under (.index n))).flatten
    | _ => []
  | anyOf ss =>
    match alternatives v ss with
    | none => []
    | some context => [here schema v (.noneOf v) context]
  | oneOf ss =>
    match alternatives v ss with
    | none => if 1 < fitting v ss then [here schema v (.several v)] else []
    | some context => [here schema v (.noneOf v) context]
  | r => simpleFaults schema v r

def fieldFaults (fs : List (Wording × Json)) : List (String × List Rule) → List Fault
  | [] => []
  | (k, s) :: rest =>
    (match fs.lookup ↑k with
    | some w => (faults s w s).map (Fault.under (.key k))
    | none => []) ++ fieldFaults fs rest

/-- the faults under all alternatives, unless one fits -/
def alternatives (v : Json) : List (List Rule) → Option (List Fault)
  | [] => some []
  | s :: ss =>
    match faults s v s with
    | [] => none
    | fs => (alternatives v ss).map (fs ++ ·)

/-- how many alternatives fit -/
def fitting (v : Json) : List (List Rule) → Nat
  | [] => 0
  | s :: ss => (if (faults s v s).isEmpty then 1 else 0) + fitting v ss

end
end Rule

namespace Schema

def faults (s : Schema) (v : Json) : List Fault := Rule.faults s v s

def accepts (s : Schema) (v : Json) : Bool := (s.faults v).isEmpty

end Schema
end Literate
