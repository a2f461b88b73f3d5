import Literate.Proofs.Basic
import Literate.Proofs.Render.Listing
import Literate.Proofs.Render.Replacement

/-! Links of listings in JSX. Each definition has an id and each reference a link, written from their
symbols. A tab is written as a backslash and a letter, while a backslash stays as it is, so the values
tell of a symbol what it is with its tabs spelled out: links lead to the definitions of the same symbol,
and to those of symbols that differ in how they spell a tab. -/

namespace Literate

open Code (char)

namespace Escape

/-- with a backslash and the letter for each tab -/
def spellTabs (s : Wording) : Wording := replaceAll '\t' "\\t" s

/-- without the backslash in front of each curly brace -/
def bareBraces : Wording → Wording
  | char '\\' :: char '\x7b' :: s => char '\x7b' :: bareBraces s
  | char '\\' :: char '\x7d' :: s => char '\x7d' :: bareBraces s
  | c :: s => c :: bareBraces s
  | [] => []

def StartsWithBrace (s : Wording) : Prop := s.head? = some (char '\x7b') ∨ s.head? = some (char '\x7d')

theorem bareBraces_cons {c : Code} {s : Wording} (hs : ¬ StartsWithBrace s) :
    bareBraces (c :: s) = c :: bareBraces s := by
  rw [bareBraces]
  · rintro t - rfl
    exact hs (.inl rfl)
  · rintro t - rfl
    exact hs (.inr rfl)

/-- Where no curly brace stands behind a backslash, nothing is dropped. -/
theorem bareBraces_append {u t : Wording} (hu : char '\x7b' ∉ u ∧ char '\x7d' ∉ u)
    (ht : ¬ StartsWithBrace t) : bareBraces (u ++ t) = u ++ bareBraces t := by
  induction u with
  | nil => rfl
  | cons c u ih =>
    simp only [List.mem_cons, not_or] at hu
    have behind : ¬ StartsWithBrace (u ++ t) := by
      cases u with
      | nil => exact ht
      | cons d u =>
        simp only [List.mem_cons, not_or] at hu
        simp [StartsWithBrace, Ne.symm hu.1.2.1, Ne.symm hu.2.2.1]
    rw [List.cons_append, bareBraces_cons behind, ih ⟨hu.1.2, hu.2.2⟩, List.cons_append]

theorem no_brace_htmlChar {c : Code} (hc : c ≠ char '\x7b' ∧ c ≠ char '\x7d') :
    char '\x7b' ∉ htmlChar c ∧ char '\x7d' ∉ htmlChar c := by
  unfold htmlChar entity?
  split
  case h_6 => simpa [eq_comm] using hc
  all_goals decide

theorem attributeChar_eq_cons (c : Code) :
    ∃ d u, attributeChar c = d :: u ∧ d ≠ char '\x7b' ∧ d ≠ char '\x7d' := by
  unfold attributeChar
  split_ifs with h₁ h₂
  · exact ⟨_, _, rfl, by decide⟩
  · exact ⟨_, _, rfl, by decide⟩
  · unfold htmlChar entity?
    split
    case h_6 => exact ⟨_, _, rfl, not_or.mp h₂⟩
    all_goals exact ⟨_, _, rfl, by decide⟩

theorem not_startsWithBrace_attributeValue (s : Wording) : ¬ StartsWithBrace (attributeValue s) := by
  cases s with
  | nil => simp [StartsWithBrace, attributeValue]
  | cons c s =>
    obtain ⟨d, u, hc, hd⟩ := attributeChar_eq_cons c
    simp [StartsWithBrace, attributeValue, hc, hd]

theorem spellTabs_cons (c : Code) (s : Wording) :
    spellTabs (c :: s) = spellTabs [c] ++ spellTabs s := by
  simp only [spellTabs, replaceAll, List.flatMap_cons, List.flatMap_nil, List.append_nil]

/-- Without its guards, a value is the symbol with its tabs spelled out, and with entities. -/
theorem bareBraces_attributeValue (s : Wording) :
    bareBraces (attributeValue s) = html (spellTabs s) := by
  induction s with
  | nil => rfl
  | cons c s ih =>
    have behind := not_startsWithBrace_attributeValue s
    have split : html (spellTabs (c :: s)) = html (spellTabs [c]) ++ html (spellTabs s) := by
      rw [spellTabs_cons, html, html, html, List.flatMap_append]
    rw [split, ← ih, attributeValue, List.flatMap_cons, ← attributeValue, attributeChar]
    split_ifs with h₁ h₂
    · subst h₁
      exact bareBraces_append (u := [char '\\', char 't']) (by decide) behind
    · rcases h₂ with rfl | rfl <;> rfl
    · rw [not_or] at h₂
      have plain : html (spellTabs [c]) = htmlChar c := by
        rw [spellTabs, replaceAll_other h₁, html, List.flatMap_singleton]
      rw [plain, bareBraces_append (no_brace_htmlChar h₂) behind]

theorem attributeValue_spellTabs (s : Wording) :
    attributeValue (spellTabs s) = attributeValue s := by
  rw [spellTabs, replaceAll, attributeValue, List.flatMap_assoc]
  refine List.flatMap_congr fun c _ => ?_
  split_ifs with h
  · subst h
    rfl
  · exact List.flatMap_singleton ..

/-- Values tell of a symbol what it is with its tabs spelled out, no less and no more. -/
theorem attributeValue_eq_iff (s t : Wording) :
    attributeValue s = attributeValue t ↔ spellTabs s = spellTabs t := by
  constructor
  · intro h
    have same := congrArg bareBraces h
    rw [bareBraces_attributeValue, bareBraces_attributeValue] at same
    have read (u : Wording) : unescape entities (html u) = u := by
      simpa [unescape_nil] using unescape_html u []
    rw [← read (spellTabs s), same, read]
  · intro h
    rw [← attributeValue_spellTabs s, h, attributeValue_spellTabs]

theorem spellTabs_of_notMem {s : Wording} (h : char '\t' ∉ s) : spellTabs s = s := by
  induction s with
  | nil => rfl
  | cons c s ih =>
    rw [List.mem_cons, not_or] at h
    rw [spellTabs_cons, ih h.2, spellTabs, replaceAll_other (Ne.symm h.1), List.singleton_append]

end Escape

namespace Markup

/-- the values of the attributes of one name, in the order of the tags -/
def valuesAt (key : String) (ts : List Tag) : List Wording :=
  ts.flatMap fun t => (t.attributes.filter fun a => a.1 = codes key).map (·.2)

theorem valuesAt_append (key : String) (ts us : List Tag) :
    valuesAt key (ts ++ us) = valuesAt key ts ++ valuesAt key us :=
  List.flatMap_append

theorem valuesAt_flatMap {α : Type} (key : String) (f : α → List Tag) (xs : List α) :
    valuesAt key (xs.flatMap f) = xs.flatMap fun x => valuesAt key (f x) :=
  List.flatMap_assoc

theorem valuesAt_element (key name : String) (as : List (String × Wording)) (cs : List Markup) :
    valuesAt key (tags (.element name as cs)) =
      (as.filter fun a => a.1 = key).map (·.2) ++ valuesAt key (tagsAll cs) := by
  have here : (written as).filter (fun a => a.1 = codes key) =
      written (as.filter fun a => a.1 = key) := by
    simp only [written, List.filter_map, Function.comp_def, codes_inj]
  rw [tags, valuesAt_append, valuesAt, List.flatMap_cons, ← valuesAt, opening, here, written,
    List.map_map]
  exact List.append_nil _

end Markup

open Markup

namespace Run

/-- the symbol of a run that is decorated in one way -/
def symbolAs? (k : Decoration) : Run → Option Wording
  | annotated _ x d => if d = k then some x.mark.symbol else none
  | text _ => none

/-- the symbols that are defined in a listing -/
def defined (runs : List Run) : List Wording := runs.filterMap (symbolAs? .definition)

/-- the symbols that are referred to in a listing -/
def referred (runs : List Run) : List Wording := runs.filterMap (symbolAs? .reference)

end Run

namespace Dialect

/-- what a run has besides a class, where it defines its symbol or refers to it -/
def anchor? (d : Dialect) : Run → Option (String × Wording)
  | .annotated _ x .definition => some ("id", d.attributeValue x.mark.symbol)
  | .annotated _ x .reference => some ("href", char '#' :: d.attributeValue x.mark.symbol)
  | _ => none

section

variable {d : Dialect} {key : String}

theorem valuesAt_span (hkey : key ≠ d.classAttribute) (cls : Wording) (ms : List Markup) :
    valuesAt key (d.span cls ms).tags = valuesAt key (tagsAll ms) := by
  rw [span, valuesAt_element]
  simp [Ne.symm hkey]

theorem valuesAt_plain (hkey : key ≠ d.classAttribute) (s : Wording) :
    valuesAt key (d.plain s).tags = [] := by
  rw [plain]
  split_ifs
  · rfl
  · rw [valuesAt_span hkey]
    rfl

theorem valuesAt_decorated (hkey : key ≠ d.classAttribute) (s : String) (x : Segment) (k : Decoration) :
    valuesAt key (d.decorated (codes s) x.mark k).tags =
      ((d.anchor? (.annotated s x k)).toList.filter fun a => a.1 = key).map (·.2) := by
  have nothing (t : Wording) : valuesAt key (tagsAll [.text t]) = [] := rfl
  cases k with
  | definition =>
    rw [decorated, valuesAt_element, nothing, anchor?]
    simp [List.filter_cons, Ne.symm hkey]
  | reference =>
    rw [decorated, valuesAt_element, nothing, anchor?]
    simp [List.filter_cons, Ne.symm hkey]
  | highlight =>
    rw [decorated, valuesAt_span hkey, nothing]
    rfl
  | plain =>
    rw [decorated, valuesAt_plain hkey]
    rfl

/-- Besides classes, the tags of a run hold its anchor and nothing else. -/
theorem valuesAt_run (hkey : key ≠ d.classAttribute) (r : Run) :
    valuesAt key (d.run r).tags = ((d.anchor? r).toList.filter fun a => a.1 = key).map (·.2) := by
  induction r using d.run_cases with
  | text s => exact valuesAt_plain hkey _
  | bare s x k => exact valuesAt_decorated hkey s x k
  | hover s x k =>
    rw [valuesAt_span hkey, tagsAll, tagsAll, tagsAll, valuesAt_append, List.append_nil, valuesAt_span hkey,
      valuesAt_decorated hkey]
    exact List.append_nil _

theorem ids_run (r : Run) : ((d.anchor? r).toList.filter fun a => a.1 = "id").map (·.2) =
    (r.symbolAs? .definition).toList.map fun s => d.attributeValue s := by
  cases r with
  | text s => rfl
  | annotated s x k => cases k <;> rfl

theorem links_run (r : Run) : ((d.anchor? r).toList.filter fun a => a.1 = "href").map (·.2) =
    (r.symbolAs? .reference).toList.map fun s => char '#' :: d.attributeValue s := by
  cases r with
  | text s => rfl
  | annotated s x k => cases k <;> rfl

end

/-- The ids and the links in a listing, and no others, are written from the symbols that are defined there
and referred to. -/
theorem read_jsx_listing (runs : List Run) :
    ∃ ps, read Mode.inBraces (jsx.listing runs) = some ps ∧
      valuesAt "id" (tagsOf ps) = (Run.defined runs).map Escape.attributeValue ∧
      valuesAt "href" (tagsOf ps) =
        (Run.referred runs).map (fun s => char '#' :: Escape.attributeValue s) := by
  obtain ⟨ps, hread, rfl, -, -⟩ := read_listing runs clean_jsx
  have tags : tagsOf (runs.flatMap fun r => (jsx.run r).pieces Mode.inBraces) =
      runs.flatMap fun r => (jsx.run r).tags := by
    rw [tagsOf, List.filterMap_flatMap]
    exact List.flatMap_congr fun r _ => tagsOf_pieces _ (clean_jsx r)
  refine ⟨_, hread, ?_, ?_⟩
  · simp only [tags, valuesAt_flatMap, valuesAt_run (show "id" ≠ jsx.classAttribute by decide), ids_run,
      Run.defined, List.filterMap_eq_flatMap_toList, List.map_flatMap]
    rfl
  · simp only [tags, valuesAt_flatMap, valuesAt_run (show "href" ≠ jsx.classAttribute by decide), links_run,
      Run.referred, List.filterMap_eq_flatMap_toList, List.map_flatMap]
    rfl

/-- In JSX each definition in a listing has an id and each reference in that or another listing a link, and
there are no others. A link leads to an id just where their symbols are the same once the tabs are spelled
out, so to the ids of its own symbol alone where there are no tabs. -/
theorem jsx_links_iff (runs others : List Run) :
    ∃ ps qs, read Mode.inBraces (jsx.listing runs) = some ps ∧
      read Mode.inBraces (jsx.listing others) = some qs ∧
      (valuesAt "id" (tagsOf ps)).length = (Run.defined runs).length ∧
      (valuesAt "href" (tagsOf qs)).length = (Run.referred others).length ∧
      ∀ d ∈ (Run.defined runs).zip (valuesAt "id" (tagsOf ps)),
        ∀ r ∈ (Run.referred others).zip (valuesAt "href" (tagsOf qs)),
          (r.2 = char '#' :: d.2 ↔ Escape.spellTabs r.1 = Escape.spellTabs d.1) ∧
          (char '\t' ∉ d.1 → char '\t' ∉ r.1 → (r.2 = char '#' :: d.2 ↔ r.1 = d.1)) := by
  obtain ⟨ps, hps, ids, -⟩ := read_jsx_listing runs
  obtain ⟨qs, hqs, -, links⟩ := read_jsx_listing others
  refine ⟨ps, qs, hps, hqs, ?_⟩
  rw [ids, links]
  refine ⟨List.length_map _, List.length_map _, fun d hd r hr => ?_⟩
  have spelled : r.2 = char '#' :: d.2 ↔
      Escape.spellTabs r.1 = Escape.spellTabs d.1 := by
    rw [eq_of_mem_zip_map hd, eq_of_mem_zip_map hr, List.cons_inj_right, Escape.attributeValue_eq_iff]
  refine ⟨spelled, fun hs ht => ?_⟩
  rw [spelled, Escape.spellTabs_of_notMem hs, Escape.spellTabs_of_notMem ht]

/-- Braces and backslashes keep symbols apart: in another listing, the first reference leads to the
definition, the second one does not. -/
theorem jsx_links_braces :
    let runs : List Run := [.annotated "f" ⟨⟨⟨0, 0⟩, ⟨0, 1⟩⟩, { symbol := "a\x7bb" }⟩ .definition]
    let others : List Run := [.annotated "g" ⟨⟨⟨0, 2⟩, ⟨0, 3⟩⟩, { symbol := "a\x7bb" }⟩ .reference,
      .annotated "h" ⟨⟨⟨0, 4⟩, ⟨0, 5⟩⟩, { symbol := "a\\\x7bb" }⟩ .reference]
    ∃ ps qs, read Mode.inBraces (jsx.listing runs) = some ps ∧
      read Mode.inBraces (jsx.listing others) = some qs ∧
      ∃ id first second, valuesAt "id" (tagsOf ps) = [id] ∧
        valuesAt "href" (tagsOf qs) = [first, second] ∧
          first = char '#' :: id ∧ second ≠ char '#' :: id := by
  intro runs others
  obtain ⟨ps, qs, hps, hqs, hids, hlinks, hiff⟩ := jsx_links_iff runs others
  obtain ⟨id, hid⟩ := List.length_eq_one_iff.mp hids
  obtain ⟨first, second, hlink⟩ := List.length_eq_two.mp hlinks
  rw [hid, hlink] at hiff
  have whole : char '\t' ∉ codes "a\x7bb" ∧ char '\t' ∉ codes "a\\\x7bb" := by decide
  have other : codes "a\\\x7bb" ≠ codes "a\x7bb" := by decide
  have definition : (codes "a\x7bb", id) ∈ (Run.defined runs).zip [id] := List.mem_cons_self
  have leads := (hiff _ definition (codes "a\x7bb", first) List.mem_cons_self).2 whole.1 whole.1
  have misses := (hiff _ definition (codes "a\\\x7bb", second)
    (List.mem_cons_of_mem _ List.mem_cons_self)).2 whole.1 whole.2
  exact ⟨ps, qs, hps, hqs, id, first, second, hid, hlink, leads.mpr rfl, misses.not.mpr other⟩

/-- A tab and what it is spelled as: the reference leads to the definition of another symbol. -/
theorem jsx_link_astray :
    let runs : List Run := [.annotated "f" ⟨⟨⟨0, 0⟩, ⟨0, 1⟩⟩, { symbol := "\t" }⟩ .definition,
      .annotated "g" ⟨⟨⟨0, 2⟩, ⟨0, 3⟩⟩, { symbol := "\\t" }⟩ .reference]
    Run.defined runs = ["\t"] ∧ Run.referred runs = ["\\t"] ∧ "\t" ≠ "\\t" ∧
      ∃ ps, read Mode.inBraces (jsx.listing runs) = some ps ∧
        ∃ id, valuesAt "id" (tagsOf ps) = [id] ∧ valuesAt "href" (tagsOf ps) = [char '#' :: id] := by
  refine ⟨rfl, rfl, by decide, ?_⟩
  refine ⟨[.tag ⟨false, "span", [("id", "\\t"), ("className", [])]⟩, .literal "f", .tag ⟨true, "span", []⟩,
    .tag ⟨false, "a", [("href", "#\\t"), ("className", [])]⟩, .literal "g", .tag ⟨true, "a", []⟩],
    by decide +kernel, "\\t", rfl, rfl⟩

end Dialect
end Literate
