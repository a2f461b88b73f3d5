import Literate.Script.Expr

/-! What a script defines and what it uses, as a tree: the nodes are statements, expressions and their
parts, in the order in which the language names them. -/

namespace Literate.Script

/-- what stands behind the name of a definition -/
inductive Signature where
  | function (isAsync : Bool) (params : Params) (result : Option Expr)
  | class (bases : List Expr)
  deriving Repr, Inhabited

structure Definition where
  name : String
  /-- where its first word stands -/
  start : Point
  signature : Signature
  /-- the code points of the text that its block starts with -/
  doc : Option (List Nat)
  deriving Repr, Inhabited

inductive Landmark where
  /-- neither a definition nor a use -/
  | plain
  | definition (d : Definition)
  | use (name : String) (start stop : Point)
  deriving Repr, Inhabited

inductive Outline where
  | node (landmark : Landmark) (children : List Outline)
  deriving Repr, Inhabited

namespace Outline

def landmark : Outline → Landmark
  | node l _ => l

def children : Outline → List Outline
  | node _ cs => cs

def plain (children : List Outline) : Outline := node .plain children

end Outline

mutual

def Expr.outline : Expr → Outline
  | .name id use a b => .node (if use = .load then .use id a b else .plain) []
  | .constant _ => .plain []
  | .joined es => .plain (outlines es)
  | .field e _ f => .plain (e.outline :: outlineOf f)
  | .tuple es => .plain (outlines es)
  | .list es => .plain (outlines es)
  | .set es => .plain (outlines es)
  | .dict es => .plain (keyOutlines es ++ valueOutlines es)
  | .boolean _ es => .plain (outlines es)
  | .binary _ a b => .plain [a.outline, b.outline]
  | .unary _ a => .plain [a.outline]
  | .comparison a _ es => .plain (a.outline :: outlines es)
  | .call f as ks => .plain (f.outline :: outlines as ++ keywordOutlines ks)
  | .member e _ => .plain [e.outline]
  | .subscript e i => .plain [e.outline, i.outline]
  | .slice a b c => .plain (outlineOf a ++ outlineOf b ++ outlineOf c)
  | .starred e => .plain [e.outline]
  | .conditional t a b => .plain [t.outline, a.outline, b.outline]
  | .lambda ps e => .plain [ps.outline, e.outline]
  | .comprehension _ e cs => .plain (e.outline :: clauseOutlines cs)
  | .mapping k v cs => .plain (k.outline :: v.outline :: clauseOutlines cs)
  | .await e => .plain [e.outline]
  | .yield e => .plain (outlineOf e)
  | .delegate e => .plain [e.outline]
  | .walrus t e => .plain [t.outline, e.outline]

def outlines : List Expr → List Outline
  | [] => []
  | e :: es => e.outline :: outlines es

def outlineOf : Option Expr → List Outline
  | none => []
  | some e => [e.outline]

def keyOutlines : List Entry → List Outline
  | [] => []
  | .pair k _ :: es => k.outline :: keyOutlines es
  | .spread _ :: es => keyOutlines es

def valueOutlines : List Entry → List Outline
  | [] => []
  | .pair _ v :: es => v.outline :: valueOutlines es
  | .spread v :: es => v.outline :: valueOutlines es

def keywordOutlines : List Keyword → List Outline
  | [] => []
  | .mk _ e :: ks => .plain [e.outline] :: keywordOutlines ks

def clauseOutlines : List Clause → List Outline
  | [] => []
  | .mk _ t s cs :: rest =>
    .plain (t.outline :: s.outline :: outlines cs) :: clauseOutlines rest

def Params.outline : Params → Outline
  | .mk leading plain rest named others =>
    .plain (paramOutlines leading ++ paramOutlines plain ++ paramOutline rest ++
      paramOutlines named ++ defaultOutlines named ++ paramOutline others ++
      defaultOutlines leading ++ defaultOutlines plain)

/-- a node for each parameter, its note below -/
def paramOutlines : List Param → List Outline
  | [] => []
  | .mk _ a _ :: ps => .plain (outlineOf a) :: paramOutlines ps

def paramOutline : Option Param → List Outline
  | none => []
  | some (.mk _ a _) => [.plain (outlineOf a)]

def defaultOutlines : List Param → List Outline
  | [] => []
  | .mk _ _ d :: ps => outlineOf d ++ defaultOutlines ps

end

end Literate.Script
