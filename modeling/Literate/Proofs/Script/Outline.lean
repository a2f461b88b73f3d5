import Mathlib.Data.List.Basic
import Literate.Script.Symbols

/-! The two orders in which the nodes of a script are visited. Definitions are found in the order of
the script, each with the names of those around it; uses are found one level of depth after another.
Both visit each node once. -/

namespace Literate.Script

/-- the name that a node defines -/
def Landmark.defines : Landmark → Option String
  | .definition d => some d.name
  | _ => none

namespace Outline

mutual

/-- the nodes in the order of the script, each with those around it, the outermost first -/
def lineage (above : List Landmark) : Outline → List (List Landmark × Landmark)
  | node l cs => (above, l) :: lineages (above ++ [l]) cs

def lineages (above : List Landmark) : List Outline → List (List Landmark × Landmark)
  | [] => []
  | o :: os => o.lineage above ++ lineages above os

end

/-- the nodes in the order of the script -/
def nodes (o : Outline) : List Landmark := (o.lineage []).map Prod.snd

end Outline

/-- a definition, with the nodes around it -/
structure Site where
  above : List Landmark
  definition : Definition

namespace Site

def name (s : Site) : String := s.definition.name

/-- the names of the definitions around it, the outermost first -/
def scope (s : Site) : List String := s.above.filterMap Landmark.defines

/-- number of definitions around it -/
def depth (s : Site) : Nat := s.scope.length

/-- the names of the definitions around it and its own, joined by dots and made safe -/
def symbol (s : Site) : String := Anchor.ofSymbol (Text.join "." (s.scope ++ [s.name]))

def qualified (s : Site) : List String × Definition := (s.scope ++ [s.name], s.definition)

/-- the definition at a node, if one is there -/
def of? : List Landmark × Landmark → Option Site
  | (above, .definition d) => some ⟨above, d⟩
  | _ => none

end Site

/-- a use of a name, from one place to another -/
structure Mention where
  name : String
  start : Point
  stop : Point
  deriving DecidableEq, Repr

/-- the use at a node, if one is there -/
def Mention.of? : Landmark → Option Mention
  | .use name start stop => some ⟨name, start, stop⟩
  | _ => none

namespace Outline

/-- the definitions in the order of the script -/
def sites (o : Outline) : List Site := (o.lineage []).filterMap Site.of?

/-- the uses, one level of depth after another -/
def mentions (o : Outline) : List Mention := o.breadthFirst.filterMap Mention.of?

mutual

theorem definitions_lineage : ∀ (o : Outline) (above : List Landmark),
    o.definitions (above.filterMap Landmark.defines) =
      ((o.lineage above).filterMap Site.of?).map Site.qualified
  | node l cs, above => by
    have below := definitionsIn_lineages cs (above ++ [l])
    rw [List.filterMap_append] at below
    cases l with
    | definition d =>
      have here : Site.of? (above, .definition d) = some ⟨above, d⟩ := rfl
      rw [lineage, List.filterMap_cons_some here, List.map_cons, ← below]
      rfl
    | plain | use =>
      rw [lineage, List.filterMap_cons_none rfl, ← below, definitions]
      · exact congrArg (definitionsIn · cs) (List.append_nil _).symm
      · simp

theorem definitionsIn_lineages : ∀ (os : List Outline) (above : List Landmark),
    definitionsIn (above.filterMap Landmark.defines) os =
      ((lineages above os).filterMap Site.of?).map Site.qualified
  | [], _ => rfl
  | o :: os, above => by
    rw [definitionsIn, lineages, List.filterMap_append, List.map_append,
      definitions_lineage o above, definitionsIn_lineages os above]

end

/-- The names on the way to a definition are those of the definitions around it. -/
theorem definitions_eq (o : Outline) : o.definitions [] = o.sites.map Site.qualified :=
  definitions_lineage o []

theorem flatten_beside (xs ys : List (List α)) :
    (beside xs ys).flatten.Perm (xs.flatten ++ ys.flatten) := by
  fun_induction beside xs ys with
  | case1 ys => exact .refl _
  | case2 xs => simp
  | case3 x xs y ys ih =>
    -- the head of the second list moves in front of the rest of the first
    simp only [List.flatten_cons, List.append_assoc]
    exact ((ih.append_left y).trans (List.perm_append_comm_assoc y _ _)).append_left x

mutual

theorem flatten_levels : ∀ (o : Outline) (above : List Landmark),
    o.levels.flatten.Perm ((o.lineage above).map Prod.snd)
  | node l cs, above => by
    rw [levels, lineage, List.flatten_cons, List.map_cons]
    exact (flatten_levelsIn cs (above ++ [l])).cons l

theorem flatten_levelsIn : ∀ (os : List Outline) (above : List Landmark),
    (levelsIn os).flatten.Perm ((lineages above os).map Prod.snd)
  | [], _ => .refl _
  | o :: os, above => by
    rw [levelsIn, lineages, List.map_append]
    exact (flatten_beside _ _).trans ((flatten_levels o above).append (flatten_levelsIn os above))

end

/-- One level after another, each node is visited once. -/
theorem breadthFirst_perm (o : Outline) : o.breadthFirst.Perm o.nodes := flatten_levels o []

theorem mentions_perm (o : Outline) : o.mentions.Perm (o.nodes.filterMap Mention.of?) :=
  o.breadthFirst_perm.filterMap Mention.of?

end Outline

end Literate.Script
