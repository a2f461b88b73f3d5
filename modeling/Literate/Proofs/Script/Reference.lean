import Mathlib.Order.Nat
import Literate.Proofs.Basic
import Literate.Proofs.Script.Outline

/-! The symbols of a script. A definition is found if its name stands in the row where it starts. A use
refers to the outermost definition with its name that is found, the first of these; other uses have no
token. -/

namespace Literate.Script

variable {lines : Buffer} {ls front back : List Located} {l m : Located} {name : String}
  {ts : List Token}

/-- what is found of a definition, whose names are given with those around it -/
structure Finds (lines : Buffer) (n : List String × Definition) (l : Located) : Prop where
  path : l.path = n.1
  span : n.2.nameSpan lines = some l.span
  doc : n.2.docText = .ok l.doc

theorem finds_iff {path : List String} {d : Definition} {span : Span} {doc : List Wording}
    (hspan : d.nameSpan lines = some span) (hdoc : d.docText = .ok doc) :
    Finds lines (path, d) l ↔ l = ⟨path, span, doc⟩ := by
  constructor
  · rintro ⟨rfl, hspan', hdoc'⟩
    cases hspan.symm.trans hspan'
    cases hdoc.symm.trans hdoc'
    rfl
  · rintro rfl
    exact ⟨rfl, hspan, hdoc⟩

/-- All definitions whose names are in their rows are found, and no others. -/
theorem locate_eq_ok {ds : List (List String × Definition)} : locate lines ds = .ok ls ↔
    List.Forall₂ (Finds lines) (ds.filter fun n => (n.2.nameSpan lines).isSome) ls := by
  induction ds generalizing ls with
  | nil => rw [locate, List.filter_nil, List.forall₂_nil_left_iff, Except.ok.injEq, eq_comm]
  | cons n ds ih =>
    obtain ⟨path, d⟩ := n
    rw [locate]
    cases hspan : d.nameSpan lines with
    | none => rw [List.filter_cons_of_neg (by simp [hspan]), ← ih]
    | some span =>
      rw [List.filter_cons_of_pos (by simp [hspan]), List.forall₂_cons_left_iff]
      cases hdoc : d.docText with
      | error e =>
        -- one definition without a text leaves the whole script without symbols
        refine iff_of_false (fun h => nomatch h) ?_
        rintro ⟨l, rest, found, -, -⟩
        cases hdoc.symm.trans found.doc
      | ok doc =>
        simp only [bind_eq_ok, ih, finds_iff hspan hdoc]
        constructor
        · rintro ⟨rest, hrest, h⟩
          cases h
          exact ⟨_, rest, rfl, hrest, rfl⟩
        · rintro ⟨_, rest, rfl, hrest, rfl⟩
          exact ⟨rest, hrest, rfl⟩

/-- `l` has the name, no other with it has fewer definitions around it, and those that have as many
come later. -/
structure Outermost (ls : List Located) (name : String) (l : Located) : Prop where
  named : l.name = name
  first : ∃ front back, ls = front ++ l :: back ∧ (∀ m ∈ front, m.name = name → l.depth < m.depth) ∧
    ∀ m ∈ back, m.name = name → l.depth ≤ m.depth

theorem Outermost.mem (h : Outermost ls name l) : l ∈ ls := by
  obtain ⟨front, back, rfl, -, -⟩ := h.first
  simp

theorem Outermost.depth_le (h : Outermost ls name l) (hm : m ∈ ls) (hname : m.name = name) :
    l.depth ≤ m.depth := by
  obtain ⟨front, back, rfl, before, behind⟩ := h.first
  rcases List.mem_append.mp hm with hm | hm
  · exact (before m hm hname).le
  · rcases List.mem_cons.mp hm with rfl | hm
    · exact le_rfl
    · exact behind m hm hname

theorem outermost_snoc : Outermost (ls ++ [m]) name l ↔
    (Outermost ls name l ∧ (m.name = name → l.depth ≤ m.depth)) ∨
    (l = m ∧ m.name = name ∧ ∀ k ∈ ls, k.name = name → m.depth < k.depth) := by
  constructor
  · rintro ⟨hname, front, back, h, before, behind⟩
    rcases snoc_eq_append_cons h with ⟨rfl, rfl, -⟩ | ⟨back, rfl, rfl⟩
    · exact .inr ⟨rfl, hname, before⟩
    · refine .inl ⟨⟨hname, front, back, rfl, before, fun k hk => behind k (by simp [hk])⟩, ?_⟩
      exact behind m (by simp)
  · rintro (⟨⟨hname, front, back, rfl, before, behind⟩, last⟩ | ⟨rfl, hname, before⟩)
    · refine ⟨hname, front, back ++ [m], by simp, before, ?_⟩
      exact List.forall_mem_append.mpr ⟨behind, by simpa using last⟩
    · exact ⟨hname, ls, [], rfl, before, by simp⟩

theorem resolve_snoc : resolve (ls ++ [m]) name =
    if m.name ≠ name then resolve ls name
    else match resolve ls name with
      | none => some m
      | some b => if m.depth < b.depth then some m else some b := by
  rw [resolve, List.foldl_append, ← resolve, List.foldl_cons, List.foldl_nil]
  cases resolve ls name <;> rfl

theorem resolve_eq_none : resolve ls name = none ↔ ∀ l ∈ ls, l.name ≠ name := by
  induction ls using List.reverseRecOn with
  | nil => simp [resolve]
  | append_singleton ls m ih =>
    rw [resolve_snoc, List.forall_mem_append, ← ih]
    split
    · next other => simp [other]
    · next same =>
      rw [ne_eq, not_not] at same
      split
      · simp [same]
      · split <;> simp [same]

theorem resolve_eq_some : resolve ls name = some l ↔ Outermost ls name l := by
  induction ls using List.reverseRecOn generalizing l with
  | nil => exact iff_of_false (fun h => nomatch h) fun h => absurd h.mem List.not_mem_nil
  | append_singleton ls m ih =>
    rw [resolve_snoc, outermost_snoc, ← ih]
    split
    · next other => simp [other]
    · next same =>
      rw [ne_eq, not_not] at same
      cases found : resolve ls name with
      | none =>
        have strange := resolve_eq_none.mp found
        constructor
        · intro h
          cases h
          exact .inr ⟨rfl, same, fun k hk hname => absurd hname (strange k hk)⟩
        · rintro (⟨h, -⟩ | ⟨rfl, -, -⟩)
          · cases h
          · rfl
      | some b =>
        -- `b` has the fewest around it so far, so `m` is compared with all of them at once
        have least := ih.mp found
        dsimp only
        split
        · next deeper =>
          constructor
          · intro h
            cases h
            exact .inr ⟨rfl, same, fun k hk hname => deeper.trans_le (least.depth_le hk hname)⟩
          · rintro (⟨h, le⟩ | ⟨rfl, -, -⟩)
            · cases h
              exact absurd (le same) deeper.not_ge
            · rfl
        · next later =>
          constructor
          · intro h
            cases h
            exact .inl ⟨rfl, fun _ => not_lt.mp later⟩
          · rintro (⟨h, -⟩ | ⟨rfl, -, before⟩)
            · exact h
            · exact absurd (before b least.mem least.named) later

/-- the token of a use: that of what the name refers to, at the place of the use -/
structure Refers (lines : Buffer) (ls : List Located) (u : Mention) (t : Token) : Prop where
  target : ∃ l, Outermost ls u.name l ∧
    t.mark = { symbol := l.symbol, isReference := true, doc := l.doc }
  start : positionIn lines u.start = .ok t.span.start
  stop : positionIn lines u.stop = .ok t.span.stop

/-- A use has a token if a definition with its name is found, and else none. -/
theorem references_eq_ok {ms : List Landmark} : references lines ls ms = .ok ts ↔
    List.Forall₂ (Refers lines ls)
      ((ms.filterMap Mention.of?).filter fun u => u.name ∈ ls.map Located.name) ts := by
  induction ms generalizing ts with
  | nil => rw [references, List.filterMap_nil, List.filter_nil, List.forall₂_nil_left_iff,
      Except.ok.injEq, eq_comm]
  | cons m ms ih =>
    cases m with
    | plain | definition =>
      rw [references, ih, List.filterMap_cons_none rfl]
      · simp
    | use name start stop =>
      have here : Mention.of? (.use name start stop) = some ⟨name, start, stop⟩ := rfl
      rw [references, List.filterMap_cons_some here]
      cases found : resolve ls name with
      | none =>
        have free : name ∉ ls.map Located.name := by
          simpa [List.mem_map] using resolve_eq_none.mp found
        rw [List.filter_cons_of_neg (by simpa using free), ← ih]
      | some l =>
        have outermost := resolve_eq_some.mp found
        have bound : name ∈ ls.map Located.name :=
          List.mem_map.mpr ⟨l, outermost.mem, outermost.named⟩
        rw [List.filter_cons_of_pos (by simpa using bound), List.forall₂_cons_left_iff]
        simp only [bind_eq_ok, ih]
        constructor
        · rintro ⟨a, hstart, b, hstop, rest, hrest, h⟩
          cases h
          exact ⟨_, rest, ⟨⟨l, outermost, rfl⟩, hstart, hstop⟩, hrest, rfl⟩
        · rintro ⟨⟨⟨a, b⟩, mark⟩, rest, ⟨⟨k, hk, hmark⟩, hstart, hstop⟩, hrest, rfl⟩
          cases found.symm.trans (resolve_eq_some.mpr hk)
          cases hmark
          exact ⟨a, hstart, b, hstop, rest, hrest, rfl⟩

/-- the definitions whose names are in their rows, in the order of the script -/
def Outline.found (lines : Buffer) (o : Outline) : List Site :=
  o.sites.filter fun s => (s.definition.nameSpan lines).isSome

section

variable {s : Site} {o : Outline}

theorem Finds.name_eq (h : Finds lines s.qualified l) : l.name = s.name := by
  rw [Located.name, h.path, Site.qualified, List.getLastD_concat]

theorem Finds.depth_eq (h : Finds lines s.qualified l) : l.depth = s.depth := by
  rw [Located.depth, h.path, Site.qualified, List.length_append]
  rfl

theorem Finds.symbol_eq (h : Finds lines s.qualified l) : l.symbol = s.symbol := by
  rw [Located.symbol, h.path]
  rfl

theorem names_found (h : List.Forall₂ (fun s l => Finds lines s.qualified l) (o.found lines) ls) :
    ls.map Located.name = (o.found lines).map Site.name := by
  have same : List.Forall₂ (fun s l => Site.name s = Located.name l) (o.found lines) ls :=
    h.imp fun _ _ found => found.name_eq.symm
  have lists := List.forall₂_map_left_iff.mpr (List.forall₂_map_right_iff.mpr same)
  rw [List.forall₂_eq_eq_eq] at lists
  exact lists.symm

theorem locate_definitions : locate lines (o.definitions []) = .ok ls ↔
    List.Forall₂ (fun s l => Finds lines s.qualified l) (o.found lines) ls := by
  rw [locate_eq_ok, Outline.definitions_eq, List.filter_map, List.forall₂_map_left_iff]
  rfl

/-- There are symbols just where each definition that is found has a text and each use that refers to
one has a place. -/
theorem symbolsOf_eq_ok : symbolsOf lines o = .ok ts ↔ ∃ ls refs, ts = ls.map Located.token ++ refs ∧
    List.Forall₂ (fun s l => Finds lines s.qualified l) (o.found lines) ls ∧
    List.Forall₂ (Refers lines ls)
      (o.mentions.filter fun u => u.name ∈ (o.found lines).map Site.name) refs := by
  simp only [symbolsOf, bind_eq_ok, locate_definitions, references_eq_ok]
  constructor
  · rintro ⟨ls, hls, refs, hrefs, h⟩
    cases h
    rw [names_found hls] at hrefs
    exact ⟨ls, refs, rfl, hls, hrefs⟩
  · rintro ⟨ls, refs, rfl, hls, hrefs⟩
    rw [← names_found hls] at hrefs
    exact ⟨ls, hls, refs, hrefs, rfl⟩

/-- Where a script has symbols, each definition that is found has a token, and its symbol is made of the
names of the definitions around it and its own. Each use of the name of such a definition has one token,
and all other uses have none. The token of a use has the symbol and the text of the token of a
definition: of those with the name that are found, the first of the ones furthest out. -/
theorem symbolsOf_references (h : symbolsOf lines o = .ok ts) :
    ∃ ls refs, ts = ls.map Located.token ++ refs ∧
      List.Forall₂ (fun s l => l.name = s.name ∧ l.depth = s.depth ∧ l.symbol = s.symbol ∧
        s.definition.nameSpan lines = some l.span ∧ s.definition.docText = .ok l.doc)
        (o.found lines) ls ∧
      List.Forall₂ (Refers lines ls)
        (o.mentions.filter fun u => u.name ∈ (o.found lines).map Site.name) refs ∧
      o.mentions.Perm (o.nodes.filterMap Mention.of?) ∧
      ∀ t ∈ refs, ∃ d ∈ ts, d.mark.isDefinition = true ∧ d.mark.symbol = t.mark.symbol ∧
        d.mark.doc = t.mark.doc := by
  obtain ⟨ls, refs, rfl, hls, hrefs⟩ := symbolsOf_eq_ok.mp h
  refine ⟨ls, refs, rfl, ?_, hrefs, o.mentions_perm, ?_⟩
  · exact hls.imp fun s l found => ⟨found.name_eq, found.depth_eq, found.symbol_eq, found.span, found.doc⟩
  · intro t ht
    obtain ⟨u, -, refers⟩ := exists_of_mem_right hrefs ht
    obtain ⟨l, outermost, hmark⟩ := refers.target
    refine ⟨l.token, List.mem_append_left _ (List.mem_map_of_mem outermost.mem), rfl, ?_, ?_⟩
    · rw [hmark]
      rfl
    · rw [hmark]
      rfl

end

/-! A function in a class that passes on its own name, above a function of that name. -/

namespace Hidden

def source : String := "class A:
  def f(): print(f)
def f(): pass
"

def function (start : Point) : Landmark :=
  .definition ⟨"f", start, .function false (.mk [] [] none [] none) none, none⟩

def call : Outline :=
  .plain [.node (.use "print" ⟨1, 11⟩ ⟨1, 16⟩) [], .node (.use "f" ⟨1, 17⟩ ⟨1, 18⟩) []]

def outline : Outline :=
  .plain [
    .node (.definition ⟨"A", ⟨0, 0⟩, .class [], none⟩) [
      .node (function ⟨1, 2⟩) [.plain [], .plain [call]]],
    .node (function ⟨2, 0⟩) [.plain [], .plain []]]

def tokens : List Token := [
  ⟨⟨⟨0, 6⟩, ⟨0, 7⟩⟩, { symbol := "A", isDefinition := true, doc := ["class A"] }⟩,
  ⟨⟨⟨1, 6⟩, ⟨1, 7⟩⟩, { symbol := "A.f", isDefinition := true, doc := ["def f()"] }⟩,
  ⟨⟨⟨2, 4⟩, ⟨2, 5⟩⟩, { symbol := "f", isDefinition := true, doc := ["def f()"] }⟩,
  ⟨⟨⟨1, 17⟩, ⟨1, 18⟩⟩, { symbol := "f", isReference := true, doc := ["def f()"] }⟩]

theorem symbolsOf_eq : symbolsOf (Buffer.ofText source) outline = .ok tokens := by
  decide +kernel

end Hidden

open Hidden in
/-- The use refers to the function further out, and `print` to nothing. -/
theorem symbolsOf_references_hidden :
    symbolsOf (Buffer.ofText source) outline = .ok tokens ∧
    ∃ ls refs, tokens = ls.map Located.token ++ refs ∧
      List.Forall₂ (Refers (Buffer.ofText source) ls) [⟨"f", ⟨1, 17⟩, ⟨1, 18⟩⟩] refs := by
  refine ⟨symbolsOf_eq, ?_⟩
  obtain ⟨ls, refs, h, -, hrefs, -⟩ := symbolsOf_references symbolsOf_eq
  have bound : (outline.mentions.filter fun u =>
      u.name ∈ (outline.found (Buffer.ofText source)).map Site.name) =
      [⟨"f", ⟨1, 17⟩, ⟨1, 18⟩⟩] := by
    decide +kernel
  exact ⟨ls, refs, h, bound ▸ hrefs⟩

end Literate.Script
