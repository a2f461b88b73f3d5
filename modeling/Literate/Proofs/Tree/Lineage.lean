import Literate.Proofs.Tree.Site

/-! The nodes of a tree, each with the nodes above it. A walk that looks below no node of some class
visits those that have none of that class above them, each once and in front of its children. -/

namespace Literate.Tree

mutual

/-- the nodes of a tree, each in front of its children, with those above it -/
def lineage (above : List Tree) : Tree → List (List Tree × Tree)
  | node i cs => (above, node i cs) :: lineages (node i cs :: above) cs

def lineages (above : List Tree) : List Tree → List (List Tree × Tree)
  | [] => []
  | t :: ts => lineage above t ++ lineages above ts

end

/-- the nodes with none of the class `p` above them -/
def exposed (p : Tree → Bool) (above ts : List Tree) : List Tree :=
  ((lineages above ts).filter fun n => !n.1.any p).map Prod.snd

/-- a comment with no comment above it -/
def isOutermost (n : List Tree × Tree) : Bool := n.2.isComment && !n.1.any isComment

/-- the outermost comments below some nodes -/
def outermost (above ts : List Tree) : List Tree :=
  ((lineages above ts).filter isOutermost).map Prod.snd

variable {p : Tree → Bool} {above above' : List Tree} {t : Tree} {ts us : List Tree}

theorem lineages_append (above ts us : List Tree) :
    lineages above (ts ++ us) = lineages above ts ++ lineages above us := by
  induction ts with
  | nil => rfl
  | cons t ts ih => rw [List.cons_append, lineages, lineages, ih, List.append_assoc]

theorem lineage_eq (above : List Tree) (t : Tree) :
    lineage above t = (above, t) :: lineages (t :: above) t.children := by
  cases t with
  | node i cs => rw [lineage, children]

mutual

theorem suffix_of_mem_lineage {n : List Tree × Tree} :
    ∀ {t : Tree} {above : List Tree}, n ∈ lineage above t → above <:+ n.1
  | node i cs, above, h => by
    rw [lineage] at h
    rcases List.mem_cons.mp h with rfl | h
    · exact List.suffix_refl above
    · exact (List.suffix_cons (node i cs) above).trans (suffix_of_mem_lineages h)

theorem suffix_of_mem_lineages {n : List Tree × Tree} :
    ∀ {ts above : List Tree}, n ∈ lineages above ts → above <:+ n.1
  | [], _, h => by simp [lineages] at h
  | t :: ts, above, h => by
    rw [lineages] at h
    rcases List.mem_append.mp h with h | h
    · exact suffix_of_mem_lineage h
    · exact suffix_of_mem_lineages h

end

theorem exposed_append (p : Tree → Bool) (above ts us : List Tree) :
    exposed p above (ts ++ us) = exposed p above ts ++ exposed p above us := by
  rw [exposed, lineages_append, List.filter_append, List.map_append]
  rfl

/-- Below a node of the class none is exposed. -/
theorem exposed_of_any (h : above.any p = true) (ts : List Tree) : exposed p above ts = [] := by
  rw [exposed, List.map_eq_nil_iff, List.filter_eq_nil_iff]
  intro n hn free
  obtain ⟨a, ha, hp⟩ := List.any_eq_true.mp h
  have above_n := (suffix_of_mem_lineages hn).subset ha
  rw [Bool.not_eq_true', List.any_eq_false] at free
  exact free a above_n hp

theorem exposed_cons (h : above.any p = false) (t : Tree) (ts : List Tree) :
    exposed p above (t :: ts) = t :: (exposed p (t :: above) t.children ++ exposed p above ts) := by
  rw [exposed, lineages, lineage_eq, List.filter_append, List.map_append,
    List.filter_cons_of_pos (by rw [h]; rfl)]
  rfl

mutual

/-- Nodes above that are not of the class are of no account. -/
theorem exposed_singleton_congr :
    ∀ (t : Tree) {above above' : List Tree}, above.any p = false → above'.any p = false →
      exposed p above [t] = exposed p above' [t]
  | node i cs, above, above', h, h' => by
    rw [exposed_cons h, exposed_cons h', children]
    congr 2
    by_cases hp : p (node i cs) = true
    · have below (as : List Tree) : (node i cs :: as).any p = true := by
        rw [List.any_cons, hp, Bool.true_or]
      rw [exposed_of_any (below above), exposed_of_any (below above')]
    · have free {as : List Tree} (has : as.any p = false) : (node i cs :: as).any p = false := by
        rw [List.any_cons, has, Bool.eq_false_iff.mpr hp, Bool.or_false]
      exact exposed_congr cs (free h) (free h')

theorem exposed_congr :
    ∀ (ts : List Tree) {above above' : List Tree}, above.any p = false → above'.any p = false →
      exposed p above ts = exposed p above' ts
  | [], _, _, _, _ => rfl
  | t :: ts, above, above', h, h' => by
    rw [← List.singleton_append, exposed_append, exposed_append, exposed_singleton_congr t h h',
      exposed_congr ts h h']

end

/-- The first of the trees that wait is exposed; its children come next unless it is of the class. -/
theorem exposed_waiting (p : Tree → Bool) (t : Tree) (rest : List Tree) :
    exposed p [] (t :: rest) = t :: exposed p [] ((if p t then [] else t.children) ++ rest) := by
  rw [exposed_cons rfl, exposed_append]
  split
  · next hp =>
    have below : [t].any p = true := by rw [List.any_cons, hp, Bool.true_or]
    rw [exposed_of_any below]
    rfl
  · next hp =>
    have free : [t].any p = false := by simpa using hp
    have same : exposed p [t] t.children = exposed p [] t.children := exposed_congr _ free rfl
    rw [same]

/-- The walk visits what is exposed. -/
theorem visit_eq (prune : List String) (waiting : List Tree) :
    visit prune waiting = exposed (fun t => prune.contains t.info.kind) [] waiting := by
  fun_induction visit prune waiting with
  | case1 => rfl
  | case2 t rest hc ih => rw [exposed_waiting, if_pos hc, ih, List.nil_append]
  | case3 t rest hc ih => rw [exposed_waiting, if_neg hc, ih]

theorem outermost_eq (above ts : List Tree) :
    outermost above ts = (exposed isComment above ts).filter isComment := by
  rw [outermost, exposed, List.filter_map, List.filter_filter]
  rfl

/-- The walk that looks below no comment finds the outermost ones. -/
theorem filter_visit (waiting : List Tree) :
    (visit commentKinds waiting).filter isComment = outermost [] waiting := by
  rw [visit_eq, outermost_eq]
  rfl

end Literate.Tree
