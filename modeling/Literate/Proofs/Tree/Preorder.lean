import Mathlib.Data.List.Forall2
import Mathlib.Logic.Function.Iterate
import Literate.Tree

/-! The walk over a tree, which keeps the nodes still to visit in a list, finds what a recursion over the
tree finds: each node, and behind it the nodes below its children, child by child. Nodes are told apart
by their places, the numbers of the children that lead to them: the walk passes the places that have no
pruned node above them, in the order of a dictionary and so each of them once. -/

namespace Literate.Tree

mutual

/-- a node, and behind it the nodes below it, unless its kind is in `prune` -/
def preorder (prune : List String) : Tree → List Tree
  | node i cs => node i cs :: if prune.contains i.kind then [] else preorders prune cs

def preorders (prune : List String) : List Tree → List Tree
  | [] => []
  | t :: ts => preorder prune t ++ preorders prune ts

end

/-- the node that the numbers of children lead to -/
def node? (t : Tree) : List Nat → Option Tree
  | [] => some t
  | k :: place => t.children[k]?.bind (node? · place)

mutual

/-- where the nodes of the recursion stand -/
def places (prune : List String) : Tree → List (List Nat)
  | node i cs => [] :: if prune.contains i.kind then [] else placesFrom prune 0 cs

/-- the same below children that are numbered from `k` on -/
def placesFrom (prune : List String) (k : Nat) : List Tree → List (List Nat)
  | [] => []
  | t :: ts => (places prune t).map (k :: ·) ++ placesFrom prune (k + 1) ts

end

/-- There is a node at the place, and no pruned one above it. -/
def Reached (prune : List String) (t : Tree) (place : List Nat) : Prop :=
  (t.node? place).isSome ∧
    ∀ above, above <+: place → above ≠ place → ∀ u ∈ t.node? above, prune.contains u.info.kind = false

/-- One round of the walk: the first node is visited, and its children wait in its place. -/
def turn (prune : List String) : List Tree → List Tree
  | [] => []
  | t :: rest => (if prune.contains t.info.kind then [] else t.children) ++ rest

section

variable {prune : List String} {t : Tree} {k : Nat} {place : List Nat}

theorem preorders_eq (ts : List Tree) : preorders prune ts = ts.flatMap (preorder prune) := by
  induction ts with
  | nil => rfl
  | cons t ts ih => rw [preorders, ih, List.flatMap_cons]

theorem preorder_eq (t : Tree) :
    t.preorder prune =
      t :: if prune.contains t.info.kind then [] else t.children.flatMap (preorder prune) := by
  cases t with
  | node i cs => rw [preorder, preorders_eq, info, children]

theorem visit_turn (t : Tree) (rest : List Tree) :
    visit prune (t :: rest) = t :: visit prune (turn prune (t :: rest)) := by
  rw [visit, turn]
  split <;> rfl

/-- Trees that wait are walked through one after another. -/
theorem visit_eq_preorders (waiting : List Tree) : visit prune waiting = preorders prune waiting := by
  rw [preorders_eq]
  fun_induction visit prune waiting with
  | case1 => rfl
  | case2 t rest hc ih => rw [ih, List.flatMap_cons, preorder_eq, if_pos hc, List.singleton_append]
  | case3 t rest hc ih =>
    rw [ih, List.flatMap_append, List.flatMap_cons, preorder_eq, if_neg hc, List.cons_append]

/-- What a round visits is the first of what waits after the rounds before it. -/
theorem getElem?_visit (waiting : List Tree) (n : Nat) :
    (visit prune waiting)[n]? = ((turn prune)^[n] waiting).head? := by
  induction n generalizing waiting with
  | zero =>
    cases waiting with
    | nil => rw [visit]; rfl
    | cons t rest => rw [visit_turn]; rfl
  | succ n ih =>
    rw [Function.iterate_succ_apply, ← ih]
    cases waiting with
    | nil => rw [turn, visit]; rfl
    | cons t rest => rw [visit_turn, List.getElem?_cons_succ]

theorem iterate_turn_eq_nil_iff (waiting : List Tree) (n : Nat) :
    (turn prune)^[n] waiting = [] ↔ (visit prune waiting).length ≤ n := by
  rw [← List.head?_eq_none_iff, ← getElem?_visit, List.getElem?_eq_none_iff]

mutual

theorem node?_places : ∀ t : Tree,
    List.Forall₂ (fun place u => t.node? place = some u) (places prune t) (preorder prune t)
  | node i cs => by
    rw [places, preorder]
    refine .cons rfl ?_
    split
    · exact .nil
    · refine (node?_placesFrom cs 0).imp ?_
      rintro _ u ⟨j, place, c, rfl, hc, hu⟩
      rw [Nat.zero_add, node?, children, hc, Option.bind_some, hu]

theorem node?_placesFrom : ∀ (ts : List Tree) (k : Nat),
    List.Forall₂ (fun place u => ∃ j below c, place = (k + j) :: below ∧ ts[j]? = some c ∧
      c.node? below = some u) (placesFrom prune k ts) (preorders prune ts)
  | [], _ => .nil
  | t :: ts, k => by
    rw [placesFrom, preorders]
    refine List.rel_append ?_ ((node?_placesFrom ts (k + 1)).imp ?_)
    · rw [List.forall₂_map_left_iff]
      exact (node?_places t).imp fun place u hu => ⟨0, place, t, rfl, rfl, hu⟩
    · rintro _ u ⟨j, place, c, rfl, hc, hu⟩
      exact ⟨j + 1, place, c, by rw [Nat.add_right_comm, Nat.add_assoc], hc, hu⟩

end

theorem node?_cons (t : Tree) (k : Nat) (place : List Nat) :
    t.node? (k :: place) = t.children[k]?.bind (node? · place) := rfl

theorem reached_nil (t : Tree) : Reached prune t [] := by
  refine ⟨rfl, fun above h hne => ?_⟩
  exact absurd (List.prefix_nil.mp h) hne

/-- Below a node that is not pruned a place is reached if it is reached from the child. -/
theorem reached_cons_iff :
    Reached prune t (k :: place) ↔ prune.contains t.info.kind = false ∧
      ∃ c, t.children[k]? = some c ∧ Reached prune c place := by
  constructor
  · rintro ⟨hsome, free⟩
    refine ⟨free [] List.nil_prefix (by simp) t rfl, ?_⟩
    cases hc : t.children[k]? with
    | none => simp [node?_cons, hc] at hsome
    | some c =>
      rw [node?_cons, hc, Option.bind_some] at hsome
      refine ⟨c, rfl, hsome, fun above h hne u hu => ?_⟩
      refine free (k :: above) (List.cons_prefix_cons.mpr ⟨rfl, h⟩) (by simpa using hne) u ?_
      rw [node?_cons, hc, Option.bind_some]
      exact hu
  · rintro ⟨root, c, hc, hsome, free⟩
    refine ⟨by rw [node?_cons, hc, Option.bind_some]; exact hsome, fun above h hne u hu => ?_⟩
    cases above with
    | nil =>
      obtain rfl : t = u := Option.some.inj hu
      exact root
    | cons j above =>
      obtain ⟨rfl, inner⟩ := List.cons_prefix_cons.mp h
      rw [node?_cons, hc, Option.bind_some] at hu
      exact free above inner (by simpa using hne) u hu

mutual

theorem mem_places : ∀ {t : Tree} {place : List Nat}, place ∈ places prune t ↔ Reached prune t place
  | node i cs, [] => by
    rw [places]
    exact iff_of_true List.mem_cons_self (reached_nil _)
  | node i cs, k :: place => by
    rw [places, List.mem_cons, reached_cons_iff, info, children]
    cases prune.contains i.kind with
    | true => simp
    | false => simp [mem_placesFrom]

theorem mem_placesFrom : ∀ {ts : List Tree} {k : Nat} {place : List Nat},
    place ∈ placesFrom prune k ts ↔
      ∃ j below c, place = (k + j) :: below ∧ ts[j]? = some c ∧ Reached prune c below
  | [], k, place => by simp [placesFrom]
  | t :: ts, k, place => by
    rw [placesFrom, List.mem_append, List.mem_map, mem_placesFrom]
    simp only [mem_places]
    constructor
    · rintro (⟨below, h, rfl⟩ | ⟨j, below, c, rfl, hc, h⟩)
      · exact ⟨0, below, t, rfl, rfl, h⟩
      · exact ⟨j + 1, below, c, by rw [Nat.add_right_comm, Nat.add_assoc], hc, h⟩
    · rintro ⟨j, below, c, rfl, hc, h⟩
      cases j with
      | zero =>
        obtain rfl : t = c := Option.some.inj hc
        exact .inl ⟨below, h, rfl⟩
      | succ j => exact .inr ⟨j, below, c, by rw [Nat.add_right_comm, Nat.add_assoc], hc, h⟩

end

mutual

theorem places_sorted : ∀ t : Tree, (places prune t).Pairwise (· < ·)
  | node i cs => by
    rw [places, List.pairwise_cons]
    split
    · exact ⟨by simp, .nil⟩
    · refine ⟨fun place h => ?_, placesFrom_sorted cs 0⟩
      obtain ⟨j, below, c, rfl, -⟩ := mem_placesFrom.mp h
      exact List.nil_lt_cons _ _

theorem placesFrom_sorted : ∀ (ts : List Tree) (k : Nat), (placesFrom prune k ts).Pairwise (· < ·)
  | [], _ => .nil
  | t :: ts, k => by
    rw [placesFrom, List.pairwise_append, List.pairwise_map]
    refine ⟨(places_sorted t).imp fun h => ?_, placesFrom_sorted ts (k + 1), fun a ha b hb => ?_⟩
    · exact List.cons_lt_cons_iff.mpr (.inr ⟨rfl, h⟩)
    · -- the first child comes in front of those behind it
      obtain ⟨above, -, rfl⟩ := List.mem_map.mp ha
      obtain ⟨j, below, c, rfl, -⟩ := mem_placesFrom.mp hb
      exact List.cons_lt_cons_iff.mpr (.inl (by omega))

end

end

/-- The walk finds the nodes that the recursion finds, in the same order. They stand at the places that
are reached, the first of these in the order of a dictionary being the first node and so on, and no place
comes twice. Each round of the walk gives the node that is then the first to wait, and after as many
rounds as there are nodes, and not before, none waits any more. -/
theorem nodes_preorder (t : Tree) (prune : List String) :
    t.nodes prune = t.preorder prune ∧
    (∃ ps : List (List Nat), ps.Pairwise (· < ·) ∧ (∀ place, place ∈ ps ↔ Reached prune t place) ∧
      List.Forall₂ (fun place u => t.node? place = some u) ps (t.nodes prune)) ∧
    ∀ n, (t.nodes prune)[n]? = ((turn prune)^[n] [t]).head? ∧
      ((turn prune)^[n] [t] = [] ↔ (t.nodes prune).length ≤ n) := by
  have walk : t.nodes prune = t.preorder prune := by
    rw [nodes, visit_eq_preorders, preorders, preorders, List.append_nil]
  refine ⟨walk, ⟨places prune t, places_sorted t, fun _ => mem_places, ?_⟩, fun n => ⟨?_, ?_⟩⟩
  · rw [walk]
    exact node?_places t
  · exact getElem?_visit [t] n
  · exact iterate_turn_eq_nil_iff [t] n

end Literate.Tree
