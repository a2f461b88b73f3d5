import Literate.Proofs.Comment.Standalone

/-! Comments as runs of nodes. The nodes that become comments fall into the longest runs in which each
starts on the line after the one before stops, and every run is one comment. -/

namespace Literate.RawComment

/-- the second starts on the line after the one on which the first stops -/
def Meets (a b : RawComment) : Prop := b.span.start.line = a.span.stop.line + 1

instance (a b : RawComment) : Decidable (a.Meets b) := inferInstanceAs (Decidable (_ = _))

/-- A list cut into runs that meet, each as long as can be. -/
structure Runs (cs : List RawComment) (runs : List (List RawComment)) : Prop where
  flatten : runs.flatten = cs
  nonempty : ∀ r ∈ runs, r ≠ []
  meets : ∀ r ∈ runs, r.IsChain Meets
  apart : runs.IsChain fun r s => ∀ a ∈ r.getLast?, ∀ b ∈ s.head?, ¬ a.Meets b

/-- From the start of the first one to the stop of the last one, with the clean text of each on lines of
its own. -/
structure Joins (language : String) (r : List RawComment) (c : Comment) : Prop where
  span : ∃ a ∈ r.head?, ∃ b ∈ r.getLast?, c.span = ⟨a.span.start, b.span.stop⟩
  content : c.content =
    Text.join "\n" (r.map fun n => cleanComment language (String.ofList n.text))

namespace Runs

variable {c b : RawComment} {cs r : List RawComment} {runs : List (List RawComment)}

theorem sublist (h : Runs cs runs) (hr : r ∈ runs) : r.Sublist cs :=
  h.flatten ▸ List.sublist_flatten_of_mem hr

theorem singleton (c : RawComment) : Runs [c] [[c]] :=
  ⟨rfl, by simp, by simp, List.isChain_singleton _⟩

/-- One more in front that meets the first run belongs to it. -/
theorem cons_meets (h : Runs cs ((b :: r) :: runs)) (hm : c.Meets b) :
    Runs (c :: cs) ((c :: b :: r) :: runs) := by
  refine ⟨?_, ?_, ?_, ?_⟩
  · rw [← h.flatten]
    rfl
  · exact List.forall_mem_cons.mpr ⟨List.cons_ne_nil _ _, (List.forall_mem_cons.mp h.nonempty).2⟩
  · obtain ⟨first, rest⟩ := List.forall_mem_cons.mp h.meets
    exact List.forall_mem_cons.mpr ⟨List.isChain_cons_cons.mpr ⟨hm, first⟩, rest⟩
  · obtain ⟨first, rest⟩ := List.isChain_cons.mp h.apart
    refine List.isChain_cons.mpr ⟨fun s hs => ?_, rest⟩
    rw [List.getLast?_cons_cons]
    exact first s hs

/-- One that does not meet the first run is a run of its own. -/
theorem cons_apart (h : Runs cs ((b :: r) :: runs)) (hm : ¬ c.Meets b) :
    Runs (c :: cs) ([c] :: (b :: r) :: runs) := by
  refine ⟨?_, ?_, ?_, ?_⟩
  · rw [← h.flatten]
    rfl
  · exact List.forall_mem_cons.mpr ⟨List.cons_ne_nil _ _, h.nonempty⟩
  · exact List.forall_mem_cons.mpr ⟨List.isChain_singleton _, h.meets⟩
  · refine List.isChain_cons_cons.mpr ⟨?_, h.apart⟩
    intro a ha d hd
    obtain rfl := Option.some.inj ha
    obtain rfl := Option.some.inj hd
    exact hm

end Runs

/-- a group made of a run -/
structure Group.Gathers (language : String) (g : Group) (r : List RawComment) : Prop where
  span : ∃ a ∈ r.head?, ∃ b ∈ r.getLast?, g.span = ⟨a.span.start, b.span.stop⟩
  parts : g.parts = r.map fun n => cleanComment language (String.ofList n.text)

variable {language : String}

theorem gathers_singleton (language : String) (c : RawComment) :
    Group.Gathers language ⟨c.span, [cleanComment language (String.ofList c.text)]⟩ [c] :=
  ⟨⟨c, rfl, c, rfl, rfl⟩, rfl⟩

/-- The groups are made of the runs. -/
theorem runs_foldr (language : String) (cs : List RawComment) :
    ∃ runs, Runs cs runs ∧
      List.Forall₂ (Group.Gathers language) (cs.foldr (cons language) []) runs := by
  induction cs with
  | nil => exact ⟨[], ⟨rfl, by simp, by simp, List.isChain_nil⟩, .nil⟩
  | cons c cs ih =>
    obtain ⟨runs, hruns, hgroups⟩ := ih
    rw [List.foldr_cons]
    generalize cs.foldr (cons language) [] = gs at hgroups
    cases hgroups with
    | nil =>
      obtain rfl : cs = [] := hruns.flatten.symm
      exact ⟨[[c]], Runs.singleton c, .cons (gathers_singleton language c) .nil⟩
    | @cons g r gs runs hg hgs =>
      obtain ⟨⟨b, hb, d, hd, hspan⟩, hparts⟩ := hg
      obtain ⟨r, rfl⟩ := List.head?_eq_some_iff.mp hb
      have start : g.span.start = b.span.start := by rw [hspan]
      by_cases hm : c.Meets b
      · refine ⟨(c :: b :: r) :: runs, hruns.cons_meets hm, ?_⟩
        rw [cons, start, if_pos (show b.span.start.line = c.span.stop.line + 1 from hm)]
        refine .cons ⟨⟨c, rfl, d, ?_, ?_⟩, ?_⟩ hgs
        · rw [List.getLast?_cons_cons]
          exact hd
        · rw [hspan]
        · rw [hparts]
          rfl
      · refine ⟨[c] :: (b :: r) :: runs, hruns.cons_apart hm, ?_⟩
        rw [cons, start, if_neg (show ¬ b.span.start.line = c.span.stop.line + 1 from hm)]
        exact .cons (gathers_singleton language c)
          (.cons ⟨⟨b, hb, d, hd, hspan⟩, hparts⟩ hgs)

theorem runs_group (language : String) (cs : List RawComment) :
    ∃ runs, Runs cs runs ∧ List.Forall₂ (Joins language) runs (group language cs) := by
  obtain ⟨runs, hruns, hgroups⟩ := runs_foldr language cs
  refine ⟨runs, hruns, ?_⟩
  rw [group, List.forall₂_map_right_iff]
  refine hgroups.flip.imp ?_
  intro r g hg
  refine ⟨hg.span, ?_⟩
  rw [hg.parts]

end RawComment

section

variable {grammars : Grammars} {language source : String} {p : Parsed}

theorem extractComments_eq (hl : Language.isPython language = false)
    (hp : Parsed.ofSource grammars language source = .ok p) :
    extractComments grammars language source =
      .ok (RawComment.group language (RawComment.ofTree p), []) := by
  simp [extractComments, hl, hp]

/-- The comments of a source with a tree: one for each run of its nodes, in order and one behind the
other, within the buffer. -/
theorem extractComments_runs (hl : Language.isPython language = false)
    (hp : Parsed.ofSource grammars language source = .ok p)
    (hw : p.root.WellFormed source.toList) :
    ∃ cs runs, extractComments grammars language source = .ok (cs, []) ∧
      RawComment.Runs (p.standalone.map (RawComment.ofNode p)) runs ∧
      List.Forall₂ (RawComment.Joins language) runs cs ∧
      cs.Pairwise (fun a b => a.span.start ≤ b.span.start ∧ a.span.stop ≤ b.span.start) ∧
      ∀ c ∈ cs, (Buffer.ofText source).Within c.span := by
  have h := Parsed.reads_of_ofSource hp
  obtain ⟨spaced, -⟩ := RawComment.spaced_group language (RawComment.spaced_ofTree h hw)
  obtain ⟨runs, hruns, hjoins⟩ := RawComment.runs_group language (RawComment.ofTree p)
  refine ⟨_, runs, extractComments_eq hl hp, ?_, hjoins, ?_, ?_⟩
  · rw [← RawComment.ofTree_eq h hw]
    exact hruns
  · refine spaced.ordered.imp_of_mem ?_
    intro a b ha _ hab
    exact ⟨(spaced.within a ha).valid.trans hab, hab⟩
  · intro c hc
    rw [← h.lines]
    exact spaced.within c hc

end

open Page in
/-- A comment of two nodes, which ends where the second one does without its line break, and one behind
an empty line. -/
theorem extractComments_runs_page :
    Language.isPython "rust" = false ∧ root.WellFormed source.toList ∧
    ∃ cs runs, extractComments grammars "rust" source = .ok (cs, []) ∧
      cs = [⟨⟨⟨1, 1⟩, ⟨3, 4⟩⟩, "ü\n/* i */\nb"⟩, ⟨⟨⟨5, 0⟩, ⟨5, 4⟩⟩, "c"⟩] ∧
      RawComment.Runs (parsed.standalone.map (RawComment.ofNode parsed)) runs ∧
      List.Forall₂ (RawComment.Joins "rust") runs cs := by
  have python : Language.isPython "rust" = false := by decide
  obtain ⟨cs, runs, hcs, hruns, hjoins, -⟩ := extractComments_runs python ofSource_eq wellFormed
  refine ⟨python, wellFormed, cs, runs, hcs, ?_, hruns, hjoins⟩
  rw [extractComments_eq python ofSource_eq, Page.ofTree_eq] at hcs
  rw [← (Prod.mk.inj (Except.ok.inj hcs)).1]
  decide

end Literate
