import Literate.Position
import Literate.Text.Code

/-! What producers say about spans of a text: annotations, tokens and comments; segments are the
pieces that overlapping tokens are cut into. Annotations of tokens that cover the same piece merge. -/

namespace Literate

structure Mark where
  /-- identity shared by a definition and its references; empty for none -/
  symbol : Wording := []
  isDefinition : Bool := false
  isReference : Bool := false
  /-- class of the highlighting; empty for none -/
  highlight : Wording := []
  /-- pieces of documentation, in the order of their producers -/
  doc : List Wording := []
  deriving DecidableEq, Repr, Inhabited

/-- an annotated span; tokens may overlap -/
structure Token where
  span : Span
  mark : Mark := {}
  deriving DecidableEq, Repr, Inhabited

/-- a span that becomes prose, with its text already free of comment markers -/
structure Comment where
  span : Span
  content : Wording
  deriving DecidableEq, Repr, Inhabited

/-- a span with everything that the tokens covering it say -/
structure Segment where
  span : Span
  mark : Mark
  deriving DecidableEq, Repr, Inhabited

namespace Mark

/-- the later symbol and class win unless empty, flags add up, documentation is appended -/
def add (a b : Mark) : Mark where
  symbol := if b.symbol = [] then a.symbol else b.symbol
  isDefinition := a.isDefinition || b.isDefinition
  isReference := a.isReference || b.isReference
  highlight := if b.highlight = [] then a.highlight else b.highlight
  doc := a.doc ++ b.doc

def merge (as : List Mark) : Mark := as.foldl add {}

@[simp] theorem merge_nil : merge [] = {} := rfl

theorem add_assoc (a b c : Mark) : (a.add b).add c = a.add (b.add c) := by
  simp only [add, Mark.mk.injEq, Bool.or_assoc, List.append_assoc, and_true, true_and]
  refine ⟨?_, ?_⟩ <;> split <;> simp_all

@[simp] theorem empty_add (a : Mark) : Mark.add {} a = a := by
  cases a; simp only [add, Bool.false_or, List.nil_append, Mark.mk.injEq, and_true, true_and]
  refine ⟨?_, ?_⟩ <;> split <;> simp_all

@[simp] theorem merge_singleton (a : Mark) : merge [a] = a := by simp [merge]

end Mark

/-- by start, then by stop; equal spans keep their order -/
def sortTokens (ts : List Token) : List Token := ts.mergeSort fun a b => a.span.before b.span

/-- by start; equal starts keep their order -/
def sortComments (cs : List Comment) : List Comment :=
  cs.mergeSort fun a b => a.span.start ≤ b.span.start

theorem sortTokens_perm (ts : List Token) : (sortTokens ts).Perm ts := List.mergeSort_perm ..

theorem sortComments_perm (cs : List Comment) : (sortComments cs).Perm cs :=
  List.mergeSort_perm ..

end Literate
