import Literate.Proofs.Tree.Lineage
import Literate.Tree.Highlight

/-! One pass over a tree finds the classes that two passes find. The pass knows the names that the
nodes so far declare. A declaration that comes later stands behind every node that is done, or below
it; its name lies inside it and is not empty, so the name is none of the leaves that are done. -/

namespace Literate.Tree

/-- strings, comments and numbers, which are highlighted as a whole -/
def isWholeNode (t : Tree) : Bool :=
  t.isComment || (t.info.named && (stringKinds.test t.info.kind || numberKinds.test t.info.kind))

def functionName? (t : Tree) : Option ByteRange :=
  if t.info.named && functionDeclarations.test t.info.kind then t.info.name else none

/-- the name that a node declares for a type, if it does not for a function -/
def typeName? (t : Tree) : Option ByteRange :=
  if t.info.named && !functionDeclarations.test t.info.kind && typeDeclarations.test t.info.kind then
    t.info.name
  else none

def declarations (ts : List Tree) : Declared := ⟨ts.filterMap functionName?, ts.filterMap typeName?⟩

def declared (t : Tree) : List ByteRange := (functionName? t).toList ++ (typeName? t).toList

/-- a name of some bytes, inside the node that declares it -/
structure NamedInside (t : Tree) (r : ByteRange) : Prop where
  full : r.first < r.stop
  first : t.info.bytes.first ≤ r.first
  stop : r.stop ≤ t.info.bytes.stop

instance (t : Tree) (r : ByteRange) : Decidable (NamedInside t r) :=
  decidable_of_iff (r.first < r.stop ∧ t.info.bytes.first ≤ r.first ∧ r.stop ≤ t.info.bytes.stop)
    ⟨fun ⟨h₁, h₂, h₃⟩ => ⟨h₁, h₂, h₃⟩, fun ⟨h₁, h₂, h₃⟩ => ⟨h₁, h₂, h₃⟩⟩

/-- Below each node its children stand inside it, one behind the other. -/
inductive Arranged : Tree → Prop where
  | node {i : NodeInfo} {cs : List Tree}
      (nested : ∀ c ∈ cs, i.bytes.first ≤ c.info.bytes.first ∧ c.info.bytes.stop ≤ i.bytes.stop)
      (ordered : cs.Pairwise fun a b => a.info.bytes.stop ≤ b.info.bytes.first)
      (children : ∀ c ∈ cs, Arranged c) : Arranged (.node i cs)

/-- the class of a node that has one and some bytes -/
def label? (declared : Declared) (t : Tree) : Option (Tree × String) :=
  if classOf declared t ≠ "" ∧ t.info.bytes.first < t.info.bytes.stop then
    some (t, classOf declared t)
  else none

def token? (p : Parsed) (declared : Declared) (t : Tree) : Option Token :=
  (label? declared t).map fun n => { span := p.span n.1, mark := { highlight := n.2 } }

variable {d e : Declared} {t u : Tree} {ts us waiting : List Tree} {r : ByteRange} {b : Nat}
  {above : List Tree}

section Declared

theorem functions_declare (d : Declared) (t : Tree) :
    (declare d t).functions = (functionName? t).toList ++ d.functions := by
  unfold declare functionName?
  cases t.info.name <;> cases t.info.named <;> cases functionDeclarations.test t.info.kind <;>
    cases typeDeclarations.test t.info.kind <;> rfl

theorem types_declare (d : Declared) (t : Tree) :
    (declare d t).types = (typeName? t).toList ++ d.types := by
  unfold declare typeName?
  cases t.info.name <;> cases t.info.named <;> cases functionDeclarations.test t.info.kind <;>
    cases typeDeclarations.test t.info.kind <;> rfl

theorem mem_functions_foldl (ts : List Tree) (d : Declared) (r : ByteRange) :
    r ∈ (ts.foldl declare d).functions ↔ r ∈ (declarations ts).functions ∨ r ∈ d.functions := by
  induction ts generalizing d with
  | nil => simp [declarations]
  | cons t ts ih =>
    rw [List.foldl_cons, ih, functions_declare]
    simp only [declarations, List.mem_append, Option.mem_toList, List.mem_filterMap, List.mem_cons,
      exists_eq_or_imp]
    rw [or_left_comm, or_assoc]

theorem mem_types_foldl (ts : List Tree) (d : Declared) (r : ByteRange) :
    r ∈ (ts.foldl declare d).types ↔ r ∈ (declarations ts).types ∨ r ∈ d.types := by
  induction ts generalizing d with
  | nil => simp [declarations]
  | cons t ts ih =>
    rw [List.foldl_cons, ih, types_declare]
    simp only [declarations, List.mem_append, Option.mem_toList, List.mem_filterMap, List.mem_cons,
      exists_eq_or_imp]
    rw [or_left_comm, or_assoc]

/-- Names matter to leaves only, and of these the name that is the leaf. -/
theorem classOf_congr (hf : t.children = [] → (t.info.bytes ∈ d.functions ↔ t.info.bytes ∈ e.functions))
    (ht : t.children = [] → (t.info.bytes ∈ d.types ↔ t.info.bytes ∈ e.types)) :
    classOf d t = classOf e t := by
  unfold classOf
  cases hc : t.children with
  | nil =>
    have functions : d.functions.contains t.info.bytes = e.functions.contains t.info.bytes := by
      rw [Bool.eq_iff_iff, List.contains_iff_mem, List.contains_iff_mem]
      exact hf hc
    have types : d.types.contains t.info.bytes = e.types.contains t.info.bytes := by
      rw [Bool.eq_iff_iff, List.contains_iff_mem, List.contains_iff_mem]
      exact ht hc
    rw [functions, types]
  | cons => rfl

/-- A node with something below it is whole by its kind. -/
theorem isWhole_classOf (d : Declared) (h : t.children ≠ []) :
    isWhole (classOf d t) = isWholeNode t := by
  have inner : t.children.isEmpty = false := by simpa using h
  unfold classOf isWholeNode
  rw [inner]
  cases t.isComment <;> cases t.info.named <;> cases stringKinds.test t.info.kind <;>
    cases numberKinds.test t.info.kind <;> cases typeKinds.contains t.info.kind <;>
    cases isWord t.info.kind.toList <;> cases punctuation.contains t.info.kind <;> rfl

end Declared

theorem Arranged.nested (h : t.Arranged) : ∀ c ∈ t.children,
    t.info.bytes.first ≤ c.info.bytes.first ∧ c.info.bytes.stop ≤ t.info.bytes.stop := by
  cases h with
  | node nested _ _ => exact nested

theorem Arranged.ordered (h : t.Arranged) :
    t.children.Pairwise fun a b => a.info.bytes.stop ≤ b.info.bytes.first := by
  cases h with
  | node _ ordered _ => exact ordered

theorem Arranged.children (h : t.Arranged) : ∀ c ∈ t.children, c.Arranged := by
  cases h with
  | node _ _ children => exact children

mutual

theorem Arranged.first_le_of_mem {n : List Tree × Tree} :
    ∀ {t : Tree} {above : List Tree}, t.Arranged → n ∈ lineage above t →
      t.info.bytes.first ≤ n.2.info.bytes.first
  | node i cs, above, h, hn => by
    rw [lineage] at hn
    rcases List.mem_cons.mp hn with rfl | hn
    · exact le_rfl
    · exact first_le_of_mem_lineages (fun c hc => ⟨h.children c hc, (h.nested c hc).1⟩) hn

theorem first_le_of_mem_lineages {n : List Tree × Tree} {b : Nat} :
    ∀ {ts above : List Tree}, (∀ t ∈ ts, t.Arranged ∧ b ≤ t.info.bytes.first) →
      n ∈ lineages above ts → b ≤ n.2.info.bytes.first
  | [], _, _, hn => by simp [lineages] at hn
  | t :: ts, above, h, hn => by
    rw [lineages] at hn
    rcases List.mem_append.mp hn with hn | hn
    · obtain ⟨arranged, hb⟩ := h t List.mem_cons_self
      exact hb.trans (arranged.first_le_of_mem hn)
    · exact first_le_of_mem_lineages (fun u hu => h u (List.mem_cons_of_mem t hu)) hn

end

/-- Trees that wait for their visit, one behind the other. -/
structure InOrder (waiting : List Tree) : Prop where
  arranged : ∀ t ∈ waiting, t.Arranged
  ordered : waiting.Pairwise fun a b => a.info.bytes.stop ≤ b.info.bytes.first

theorem Arranged.inOrder (h : t.Arranged) : InOrder [t] :=
  ⟨by simpa using h, List.pairwise_singleton _ _⟩

theorem InOrder.tail (h : InOrder (t :: waiting)) : InOrder waiting :=
  ⟨fun u hu => h.arranged u (List.mem_cons_of_mem t hu), (List.pairwise_cons.mp h.ordered).2⟩

/-- The children of the first tree take its place. -/
theorem InOrder.expand (h : InOrder (t :: waiting)) : InOrder (t.children ++ waiting) := by
  have ht := h.arranged t List.mem_cons_self
  constructor
  · intro u hu
    rcases List.mem_append.mp hu with hu | hu
    · exact ht.children u hu
    · exact h.tail.arranged u hu
  · rw [List.pairwise_append]
    refine ⟨ht.ordered, h.tail.ordered, ?_⟩
    intro u hu v hv
    exact (ht.nested u hu).2.trans ((List.pairwise_cons.mp h.ordered).1 v hv)

/-- All that is still to come stands behind the first of the trees that wait. -/
theorem InOrder.stop_le (h : InOrder (t :: waiting)) {p : Tree → Bool} :
    ∀ u ∈ exposed p [] waiting, t.info.bytes.stop ≤ u.info.bytes.first := by
  intro u hu
  obtain ⟨n, hn, rfl⟩ := List.mem_map.mp hu
  apply first_le_of_mem_lineages _ (List.mem_filter.mp hn).1
  intro v hv
  exact ⟨h.tail.arranged v hv, (List.pairwise_cons.mp h.ordered).1 v hv⟩

/-- What comes behind a node declares no name that the node is. -/
theorem InOrder.classOf_foldl (h : InOrder (t :: waiting)) (d : Declared)
    (hu : us = exposed isWholeNode [] ((if isWholeNode t then [] else t.children) ++ waiting))
    (names : ∀ u ∈ us, ∀ r ∈ u.declared, NamedInside u r) :
    classOf (us.foldl declare d) t = classOf d t := by
  have strange (leaf : t.children = []) : ∀ u ∈ us, t.info.bytes ∉ u.declared := by
    intro u mem name
    rw [leaf, ite_self, List.nil_append] at hu
    have inside := names u mem t.info.bytes name
    have behind := h.stop_le u (hu ▸ mem)
    exact absurd inside.full (behind.trans inside.first).not_gt
  apply classOf_congr
  · intro leaf
    rw [mem_functions_foldl, or_iff_right]
    intro hm
    obtain ⟨u, mem, name⟩ := List.mem_filterMap.mp hm
    exact strange leaf u mem (List.mem_append_left _ (Option.mem_toList.mpr name))
  · intro leaf
    rw [mem_types_foldl, or_iff_right]
    intro hm
    obtain ⟨u, mem, name⟩ := List.mem_filterMap.mp hm
    exact strange leaf u mem (List.mem_append_right _ (Option.mem_toList.mpr name))

/-- Whether the children of a node are visited does not hang on the names. -/
theorem exposed_next (d : Declared) (t : Tree) (rest : List Tree) :
    exposed isWholeNode [] ((if isWhole (classOf d t) then [] else t.children) ++ rest) =
      exposed isWholeNode [] ((if isWholeNode t then [] else t.children) ++ rest) := by
  cases hc : t.children with
  | nil => rw [ite_self, ite_self]
  | cons c cs => rw [isWhole_classOf d (by rw [hc]; exact List.cons_ne_nil c cs)]

theorem classified_cons (d : Declared) (t : Tree) (rest : List Tree) :
    classified d (t :: rest) = (label? (declare d t) t).toList ++
      classified (declare d t)
        ((if isWhole (classOf (declare d t) t) then [] else t.children) ++ rest) := by
  rw [classified, label?]
  split <;> split <;> rfl

theorem label?_foldl (h : classOf (us.foldl declare d) t = classOf d t) :
    label? (us.foldl declare d) t = label? d t := by
  rw [label?, h, label?]

/-- The pass gives each node the class that it has by all names, those to come included. -/
theorem InOrder.classified_eq {waiting : List Tree} (h : InOrder waiting)
    (names : ∀ u ∈ exposed isWholeNode [] waiting, ∀ r ∈ u.declared, NamedInside u r)
    (d : Declared) :
    classified d waiting = (exposed isWholeNode [] waiting).filterMap
      (label? ((exposed isWholeNode [] waiting).foldl declare d)) := by
  match waiting with
  | [] =>
    rw [classified]
    rfl
  | t :: rest =>
    generalize hp : (if isWhole (classOf (declare d t) t) then [] else t.children) ++ rest = pending
    have next := exposed_next (declare d t) t rest
    rw [hp] at next
    have order : InOrder pending := by
      rw [← hp]
      split
      · exact h.tail
      · exact h.expand
    rw [exposed_waiting, ← next] at names ⊢
    have later : ∀ u ∈ exposed isWholeNode [] pending, ∀ r ∈ u.declared, NamedInside u r :=
      fun u hu => names u (List.mem_cons_of_mem t hu)
    have here := label?_foldl (h.classOf_foldl (declare d t) next later)
    rw [classified_cons, hp, order.classified_eq later, List.foldl_cons, List.filterMap_cons, here]
    cases label? (declare d t) t <;> rfl
termination_by sizes waiting
decreasing_by
  rw [sizes, sizes_append, size_eq]
  split
  · rw [sizes]; omega
  · omega

theorem classOf_declarations (ts : List Tree) (t : Tree) :
    classOf (ts.foldl declare {}) t = classOf (declarations ts) t := by
  apply classOf_congr
  · intro _
    rw [mem_functions_foldl, or_iff_left (by simp)]
  · intro _
    rw [mem_types_foldl, or_iff_left (by simp)]

/-- The tokens of a tree are those of two passes. -/
theorem highlight_eq {p : Parsed} (h : p.root.Arranged)
    (names : ∀ u ∈ exposed isWholeNode [] [p.root], ∀ r ∈ u.declared, NamedInside u r) :
    highlight p = (exposed isWholeNode [] [p.root]).filterMap
      (token? p (declarations (exposed isWholeNode [] [p.root]))) := by
  have same : label? ((exposed isWholeNode [] [p.root]).foldl declare {}) =
      label? (declarations (exposed isWholeNode [] [p.root])) := by
    funext t
    rw [label?, classOf_declarations, label?]
  rw [highlight, h.inOrder.classified_eq names, same, List.map_filterMap]
  rfl

/-- The leaf that is the name of a function has its class, wherever its declaration stands. -/
theorem classOf_function (ht : t.isComment = false) (leaf : t.children = [])
    (hu : u ∈ us) (name : functionName? u = some t.info.bytes) :
    classOf (declarations us) t = "function" := by
  have known : (declarations us).functions.contains t.info.bytes = true :=
    List.contains_iff_mem.mpr (List.mem_filterMap.mpr ⟨u, hu, name⟩)
  rw [classOf, ht, leaf, known]
  rfl

theorem classOf_type (ht : t.isComment = false) (leaf : t.children = []) (hu : u ∈ us)
    (name : typeName? u = some t.info.bytes) (other : ∀ v ∈ us, functionName? v ≠ some t.info.bytes) :
    classOf (declarations us) t = "class" := by
  have unknown : (declarations us).functions.contains t.info.bytes = false := by
    rw [Bool.eq_false_iff, ne_eq, List.contains_iff_mem]
    intro hm
    obtain ⟨v, hv, hname⟩ := List.mem_filterMap.mp hm
    exact other v hv hname
  have known : (declarations us).types.contains t.info.bytes = true :=
    List.contains_iff_mem.mpr (List.mem_filterMap.mpr ⟨u, hu, name⟩)
  rw [classOf, ht, leaf, unknown, known]
  rfl

theorem mem_highlight {p : Parsed} {c : String} (h : p.root.Arranged)
    (names : ∀ u ∈ exposed isWholeNode [] [p.root], ∀ r ∈ u.declared, NamedInside u r)
    (ht : t ∈ exposed isWholeNode [] [p.root]) (full : t.info.bytes.first < t.info.bytes.stop)
    (hc : classOf (declarations (exposed isWholeNode [] [p.root])) t = c) (hne : c ≠ "") :
    { span := p.span t, mark := { highlight := c } } ∈ highlight p := by
  rw [highlight_eq h names]
  refine List.mem_filterMap.mpr ⟨t, ht, ?_⟩
  rw [token?, label?, hc, if_pos ⟨hne, full⟩]
  rfl

/-- The tokens of a tree are those of two passes over the nodes that are not below a string, a comment
or a number: the first collects the names of functions and types, the second gives each node its class
by all of them. So each leaf that is the name of a function or of a type has its class, wherever the
declaration stands, and no token is made below a string, a comment or a number. -/
theorem highlight_two_passes {p : Parsed} (arranged : p.root.Arranged)
    (names : ∀ u ∈ exposed isWholeNode [] [p.root], ∀ r ∈ u.declared, NamedInside u r) :
    highlight p = (exposed isWholeNode [] [p.root]).filterMap
      (token? p (declarations (exposed isWholeNode [] [p.root]))) ∧
    (∀ u ∈ exposed isWholeNode [] [p.root], ∀ t ∈ exposed isWholeNode [] [p.root],
      t.children = [] → t.isComment = false → functionName? u = some t.info.bytes →
      { span := p.span t, mark := { highlight := "function" } } ∈ highlight p) ∧
    (∀ u ∈ exposed isWholeNode [] [p.root], ∀ t ∈ exposed isWholeNode [] [p.root],
      t.children = [] → t.isComment = false → typeName? u = some t.info.bytes →
      (∀ v ∈ exposed isWholeNode [] [p.root], functionName? v ≠ some t.info.bytes) →
      { span := p.span t, mark := { highlight := "class" } } ∈ highlight p) ∧
    ∀ k ∈ highlight p, ∃ n ∈ lineage [] p.root, (∀ a ∈ n.1, a.isWholeNode = false) ∧
      k.span = p.span n.2 := by
  refine ⟨highlight_eq arranged names, ?_, ?_, ?_⟩
  · intro u hu t ht leaf other name
    have inside := names u hu _ (List.mem_append_left _ (Option.mem_toList.mpr name))
    exact mem_highlight arranged names ht inside.full (classOf_function other leaf hu name) (by decide)
  · intro u hu t ht leaf other name none
    have inside := names u hu _ (List.mem_append_right _ (Option.mem_toList.mpr name))
    exact mem_highlight arranged names ht inside.full (classOf_type other leaf hu name none) (by decide)
  · intro k hk
    rw [highlight_eq arranged names] at hk
    obtain ⟨t, ht, hk⟩ := List.mem_filterMap.mp hk
    obtain ⟨n, hn, rfl⟩ := List.mem_map.mp ht
    obtain ⟨hn, free⟩ := List.mem_filter.mp hn
    rw [lineages, lineages, List.append_nil] at hn
    refine ⟨n, hn, by simpa using free, ?_⟩
    obtain ⟨l, hl, rfl⟩ := Option.map_eq_some_iff.mp hk
    rw [label?, Option.ite_none_right_eq_some] at hl
    obtain ⟨-, hl⟩ := hl
    rw [← Option.some.inj hl]

/-! A program that calls a function in front of its declaration. -/

namespace Early

def source : String := "f('f')
function f() {}
"

/-- a node over the characters from `i` up to `j`, one byte each -/
def node (kind : String) (named : Bool) (i j : Nat) (name : Option ByteRange) (cs : List Tree) : Tree :=
  .node ⟨kind, named, ⟨i, j⟩, Point.after ⟨0, 0⟩ (source.toList.take i),
    Point.after ⟨0, 0⟩ (source.toList.take j), name⟩ cs

def text : Tree :=
  node "string" true 2 5 none [node "'" false 2 3 none [], node "string_fragment" true 3 4 none []]

def call : Tree := node "call_expression" true 0 6 none [node "identifier" true 0 1 none [], text]

def declaration : Tree :=
  node "function_declaration" true 7 22 (some ⟨16, 17⟩)
    [node "function" false 7 15 none [], node "identifier" true 16 17 none [],
      node "formal_parameters" true 17 19 none [], node "statement_block" true 20 22 none []]

def parsed : Parsed :=
  ⟨Utf8.encode source.toList, Buffer.ofText source, node "program" true 0 23 none [call, declaration]⟩

theorem arranged : parsed.root.Arranged := by
  have leaf (i : NodeInfo) : Arranged (.node i []) := .node (by simp) List.Pairwise.nil (by simp)
  have text : text.Arranged := .node (by decide) (by decide) (by simp [node, leaf])
  have call : call.Arranged := .node (by decide) (by decide) (by simp [node, leaf, text])
  have declaration : declaration.Arranged := .node (by decide) (by decide) (by simp [node, leaf])
  exact .node (by decide) (by decide) (by simp [call, declaration])

theorem named_inside : ∀ u ∈ exposed isWholeNode [] [parsed.root], ∀ r ∈ u.declared,
    NamedInside u r := by
  decide +kernel

end Early

open Early in
/-- The call has no class, the name of the declaration has, and nothing is found inside the string. -/
theorem highlight_two_passes_call :
    parsed.root.Arranged ∧
    (∀ u ∈ exposed isWholeNode [] [parsed.root], ∀ r ∈ u.declared, NamedInside u r) ∧
    highlight parsed = [⟨⟨⟨0, 2⟩, ⟨0, 5⟩⟩, { highlight := "string" }⟩,
      ⟨⟨⟨1, 0⟩, ⟨1, 8⟩⟩, { highlight := "keyword" }⟩,
      ⟨⟨⟨1, 9⟩, ⟨1, 10⟩⟩, { highlight := "function" }⟩] := by
  refine ⟨arranged, named_inside, ?_⟩
  rw [(highlight_two_passes arranged named_inside).1]
  decide +kernel

end Literate.Tree
