import Literate.Proofs.Render.Reader

/-! Listings as markup, whatever the strings in their runs. The tags are properly nested, and which tags
there are depends on the shapes of the runs alone; what stands in values and between the tags reads back
as the strings of the runs, one run after another. -/

namespace Literate

open Code (char)

open Markup

/-- what a run is, whatever it says -/
inductive RunShape where
  | text
  | annotated (d : Decoration) (documented : Bool)
  deriving DecidableEq, Repr

namespace Run

def shape : Run → RunShape
  | text _ => .text
  | annotated _ x d => .annotated d (!x.mark.doc.isEmpty)

/-- the texts that a run shows: its own, and its documentation with a blank line between the pieces -/
def shown : Run → List Wording
  | text s => [codes s]
  | annotated s x _ =>
    codes s :: if x.mark.doc.isEmpty then [] else [Text.joinWith (codes "\n\n") x.mark.doc]

/-- the values of the attributes that a decoration asks for; a reference points at its symbol -/
def decorationValues (a : Mark) : Decoration → List Wording
  | .definition => [a.symbol, a.highlight]
  | .reference => [char '#' :: a.symbol, a.highlight]
  | .highlight => [a.highlight]
  | .plain => []

/-- the values of all attributes of a run where plain text needs no element -/
def values : Run → List Wording
  | text _ => []
  | annotated _ x d =>
    if x.mark.doc.isEmpty then decorationValues x.mark d
    else codes "cire_hover" :: decorationValues x.mark d ++ [codes "cire_doc"]

end Run

/-- an element with empty attributes -/
def around (name : String) (keys : List String) (inside : List Piece) : List Piece :=
  .tag (opening name (keys.map fun k => (k, []))) :: inside ++ [.tag (closing name)]

section

variable (text : Code → Option Mode) (name : String) (as : List (String × Wording))
  (cs : List Markup)

theorem piecesAll_singleton (m : Markup) : piecesAll text [m] = m.pieces text := by
  rw [piecesAll, piecesAll, List.append_nil]

theorem skeleton_element : ((Markup.element name as cs).pieces text).map Piece.skeleton =
    around name (as.map (·.1)) ((piecesAll text cs).map Piece.skeleton) := by
  have start : (Piece.tag (opening name as)).skeleton =
      .tag (opening name ((as.map (·.1)).map fun k => (k, []))) := by
    simp only [Piece.skeleton, opening, written, List.map_map]
    rfl
  rw [pieces, around, List.map_append, List.map_cons, start]
  rfl

theorem values_element : ((Markup.element name as cs).pieces text).flatMap Piece.values =
    as.map (·.2) ++ (piecesAll text cs).flatMap Piece.values := by
  have start : (Piece.tag (opening name as)).values = as.map (·.2) := by
    simp only [Piece.values, opening, written, List.map_map]
    rfl
  rw [pieces, List.flatMap_append, List.flatMap_cons, start]
  exact List.append_nil _

theorem literals_element : literalsOf ((Markup.element name as cs).pieces text) =
    literalsOf (piecesAll text cs) := by
  rw [pieces, literalsOf_append]
  exact List.append_nil _

end

namespace Dialect

variable (d : Dialect) (content : List Piece)

/-- what is read from the markup of a decoration, text left out -/
def decorationOutline : Decoration → List Piece
  | .definition => around "span" ["id", d.classAttribute] content
  | .reference => around "a" ["href", d.classAttribute] content
  | .highlight => around "span" [d.classAttribute] content
  | .plain => if d.bareText then content else around "span" [d.classAttribute] content

/-- what is read from the markup of a run, text left out -/
def outline : RunShape → List Piece
  | .text => d.decorationOutline content .plain
  | .annotated k false => d.decorationOutline content k
  | .annotated k true =>
    around "span" [d.classAttribute]
      (d.decorationOutline content k ++ around "span" [d.classAttribute] content)

/-- A run is its decoration, or a hover around it. -/
theorem run_cases {motive : Run → Markup → Prop} (d : Dialect)
    (text : ∀ s, motive (.text s) (d.decorated (codes s) {} .plain))
    (bare : ∀ s x k, x.mark.doc.isEmpty = true →
      motive (.annotated s x k) (d.decorated (codes s) x.mark k))
    (hover : ∀ s x k, x.mark.doc.isEmpty = false →
      motive (.annotated s x k) (d.span (codes "cire_hover") [d.decorated (codes s) x.mark k,
        d.span (codes "cire_doc") [.text (d.content (documentation x.mark))]])) (r : Run) :
    motive r (d.run r) := by
  cases r with
  | text s => exact text s
  | annotated s x k =>
    simp only [run]
    split_ifs with h
    · exact bare s x k h
    · exact hover s x k (by simpa using h)

section

variable {d : Dialect} {content : List Piece} {text : Code → Option Mode} {ok : Wording → Prop}

theorem clean_span (hclass : Word d.classAttribute) {cls : Wording} (hcls : Escape.Sealed cls)
    {ms : List Markup} (hms : CleanAll ok ms) : (d.span cls ms).Clean ok :=
  ⟨by decide, by simpa using ⟨hclass, hcls⟩, hms⟩

theorem clean_decorated (hclass : Word d.classAttribute)
    (hvalue : ∀ s, Escape.Sealed (d.attributeValue s)) (hcontent : ∀ s, ok (d.content s))
    (s : Wording) (a : Mark) (k : Decoration) : (d.decorated s a k).Clean ok := by
  have inside : CleanAll ok [.text (d.content s)] := ⟨hcontent s, trivial⟩
  cases k with
  | definition =>
    have id : Word "id" := by decide
    exact ⟨by decide, by simp [id, hclass, hvalue], inside⟩
  | reference =>
    have href : Word "href" := by decide
    have link : Escape.Sealed (char '#' :: d.attributeValue a.symbol) :=
      Escape.Sealed.append (s := [char '#']) (by decide) (hvalue _)
    exact ⟨by decide, by simp [href, link, hclass, hvalue], inside⟩
  | highlight => exact clean_span hclass (hvalue _) inside
  | plain =>
    rw [decorated, plain]
    split_ifs
    · exact hcontent s
    · exact clean_span hclass (by decide) inside

theorem clean_run (hclass : Word d.classAttribute) (hvalue : ∀ s, Escape.Sealed (d.attributeValue s))
    (hcontent : ∀ s, ok (d.content s)) (r : Run) : (d.run r).Clean ok := by
  have here := clean_decorated hclass hvalue hcontent
  induction r using d.run_cases with
  | text s => exact here _ _ _
  | bare s x k => exact here _ _ _
  | hover s x k =>
    have inside : CleanAll ok [.text (d.content (documentation x.mark))] := ⟨hcontent _, trivial⟩
    have doc := clean_span hclass (by decide : Escape.Sealed (codes "cire_doc")) inside
    exact clean_span hclass (by decide) ⟨here _ _ _, doc, trivial⟩

end

section

variable {d : Dialect} {content : List Piece} {text : Code → Option Mode}
  {found : Wording → List Piece}

theorem skeleton_decorated (hread : ∀ s, read text (d.content s) = some (found s))
    (hcontent : ∀ s, (found s).map Piece.skeleton = content) (s : Wording) (a : Mark)
    (k : Decoration) :
    ((d.decorated s a k).pieces text).map Piece.skeleton = d.decorationOutline content k := by
  have inside : (piecesAll text [.text (d.content s)]).map Piece.skeleton = content := by
    rw [piecesAll_singleton, pieces, hread, Option.getD_some, hcontent]
  cases k with
  | plain =>
    rw [decorated, plain, decorationOutline]
    split_ifs
    · rw [pieces, hread, Option.getD_some, hcontent]
    · rw [span, skeleton_element, inside]
      rfl
  | _ =>
    rw [decorated, ← inside]
    exact skeleton_element ..

/-- What is read from a run has the outline of its shape. -/
theorem skeleton_run (hread : ∀ s, read text (d.content s) = some (found s))
    (hcontent : ∀ s, (found s).map Piece.skeleton = content) (r : Run) :
    ((d.run r).pieces text).map Piece.skeleton = d.outline content r.shape := by
  have here := skeleton_decorated hread hcontent
  induction r using d.run_cases with
  | text s => exact here _ _ _
  | bare s x k h => rw [Run.shape, h, Bool.not_true, outline, here]
  | hover s x k h =>
    have doc : ((d.span (codes "cire_doc") [.text (d.content (documentation x.mark))]).pieces
        text).map Piece.skeleton = around "span" [d.classAttribute] content := by
      rw [span, skeleton_element, piecesAll_singleton, pieces, hread, Option.getD_some, hcontent]
      rfl
    rw [Run.shape, h, Bool.not_false, outline, span, skeleton_element, piecesAll, List.map_append, here,
      piecesAll_singleton, doc]
    rfl

end

section

variable (r : Run)

theorem read_html (s : Wording) : read Mode.bare (html.content s) = some [] :=
  read_bare (Escape.sealed_html s).1

theorem read_jsx (s : Wording) :
    read Mode.inBraces (jsx.content s) = some [.literal (Escape.template s)] :=
  read_inBraces (Escape.enclosed_template s)

theorem pieces_html (s : Wording) : piecesAll Mode.bare [.text (html.content s)] = [] := by
  rw [piecesAll_singleton, pieces, read_html, Option.getD_some]

theorem pieces_jsx (s : Wording) :
    piecesAll Mode.inBraces [.text (jsx.content s)] = [.literal (Escape.template s)] := by
  rw [piecesAll_singleton, pieces, read_jsx, Option.getD_some]

theorem values_html_decorated (s : Wording) (a : Mark) (k : Decoration) :
    ((html.decorated s a k).pieces Mode.bare).flatMap Piece.values =
      (Run.decorationValues a k).map Escape.html := by
  cases k with
  | plain =>
    have nothing := pieces_html s
    rw [piecesAll_singleton] at nothing
    exact congrArg (List.flatMap Piece.values) nothing
  | _ =>
    rw [decorated]
    exact (values_element ..).trans (by rw [pieces_html]; rfl)

theorem values_html_run :
    ((html.run r).pieces Mode.bare).flatMap Piece.values = r.values.map Escape.html := by
  induction r using html.run_cases with
  | text s => exact values_html_decorated (codes s) {} .plain
  | bare s x k h => rw [Run.values, if_pos h, values_html_decorated]
  | hover s x k h =>
    have hover : Escape.html (codes "cire_hover") = codes "cire_hover" := by decide
    have doc : Escape.html (codes "cire_doc") = codes "cire_doc" := by decide
    rw [Run.values, if_neg (by simp [h]), span, values_element, piecesAll, List.flatMap_append,
      values_html_decorated, piecesAll_singleton, span, values_element, pieces_html]
    simp only [List.map_append, List.map_cons, List.map_nil, List.flatMap_nil, hover, doc]
    rfl

theorem texts_html_decorated (s : Wording) (a : Mark) (k : Decoration) :
    (html.decorated s a k).texts = Escape.html s := by
  cases k <;> simp [decorated, plain, span, html, texts, textsAll]

theorem content_html (s : Wording) : html.content s = Escape.html s := rfl

/-- What a run shows stands between its tags. -/
theorem texts_html_run : (html.run r).texts = r.shown.flatMap Escape.html := by
  induction r using html.run_cases with
  | text s => simp [texts_html_decorated, Run.shown]
  | bare s x k h => simp [texts_html_decorated, Run.shown, h]
  | hover s x k h =>
    simp [texts_html_decorated, Run.shown, h, span, texts, textsAll, content_html, documentation]

theorem literals_jsx_decorated (s : Wording) (a : Mark) (k : Decoration) :
    literalsOf ((jsx.decorated s a k).pieces Mode.inBraces) = [Escape.template s] := by
  have inside : literalsOf (piecesAll Mode.inBraces [.text (jsx.content s)]) = [Escape.template s] := by
    rw [pieces_jsx]
    rfl
  rw [← inside]
  cases k <;> exact literals_element ..

/-- The literals of a run are what it shows. -/
theorem literals_jsx_run :
    literalsOf ((jsx.run r).pieces Mode.inBraces) = r.shown.map Escape.template := by
  induction r using jsx.run_cases with
  | text s => exact literals_jsx_decorated ..
  | bare s x k h => simp only [Run.shown, h, if_true, literals_jsx_decorated, List.map_singleton]
  | hover s x k h =>
    rw [Run.shown, if_neg (by simp [h]), span, literals_element, piecesAll, literalsOf_append,
      literals_jsx_decorated, piecesAll_singleton, span, literals_element, pieces_jsx]
    rfl

end

section

variable {d : Dialect} {text : Code → Option Mode} {ok : Wording → Prop}

theorem read_listing (runs : List Run) (h : ∀ r, (d.run r).Clean (Tagless text)) :
    ∃ ps, read text (d.listing runs) = some ps ∧ ps = runs.flatMap (fun r => (d.run r).pieces text) ∧
      Nested (tagsOf ps) ∧ ∀ v ∈ ps.flatMap Piece.values, Escape.Sealed v := by
  have clean : CleanAll (Tagless text) (runs.map d.run) := cleanAll_iff.mpr (by simp [h])
  refine ⟨_, read_printAll clean, by rw [piecesAll_eq, List.flatMap_map], ?_, ?_⟩
  · rw [tagsOf_piecesAll _ clean]
    exact nested_tagsAll _
  · intro v hv
    obtain ⟨t, ht, a, ha, rfl⟩ := mem_values.mp hv
    rw [tagsOf_piecesAll _ clean] at ht
    exact sealed_tagsAll _ clean t ht a ha

theorem clean_html (hok : ∀ s, ok (Escape.html s)) (r : Run) : (html.run r).Clean ok :=
  clean_run (by decide) Escape.sealed_html hok r

theorem clean_jsx (r : Run) : (jsx.run r).Clean (Tagless Mode.inBraces) :=
  clean_run (by decide) Escape.sealed_attributeValue
    (fun s => tagless_inBraces (Escape.enclosed_template s)) r

theorem untag_html (runs : List Run) :
    untag false (html.listing runs) = Escape.html (runs.flatMap fun r => r.shown.flatten) := by
  have noStart (r : Run) : (html.run r).Clean (char '<' ∉ ·) :=
    clean_html (fun s => (Escape.sealed_html s).1) r
  have clean : CleanAll (char '<' ∉ ·) (runs.map html.run) := cleanAll_iff.mpr (by simp [noStart])
  have shown := untag_printAll _ clean []
  rw [List.append_nil, textsAll_eq, List.flatMap_map] at shown
  rw [listing, shown, untag, List.append_nil, Escape.html, List.flatMap_assoc]
  refine List.flatMap_congr fun r _ => ?_
  rw [texts_html_run, List.flatten_eq_flatMap, List.flatMap_assoc]
  rfl

/-- Whatever the texts, symbols, classes and documentation of its runs are, a listing in HTML is read as
properly nested tags, which depend on the shapes of the runs alone. Each value is what it was written
from, and so is what remains without the tags: run by run the text, with the documentation behind it. -/
theorem html_listing_read (runs : List Run) :
    ∃ ps, read Mode.bare (html.listing runs) = some ps ∧ Nested (tagsOf ps) ∧
      ps.map Piece.skeleton = (runs.map Run.shape).flatMap (html.outline []) ∧
      (ps.flatMap Piece.values).map (Escape.unescape Escape.entities) = runs.flatMap Run.values ∧
      (∀ r ∈ runs, Escape.unescape Escape.entities (untag false (html.run r).print) = r.shown.flatten) ∧
      Escape.unescape Escape.entities (untag false (html.listing runs)) =
        runs.flatMap fun r => r.shown.flatten := by
  obtain ⟨ps, hread, rfl, hnested, -⟩ :=
    read_listing runs (clean_html fun s => tagless_bare (Escape.sealed_html s).1)
  have unescape (s : Wording) : Escape.unescape Escape.entities (Escape.html s) = s := by
    simpa [Escape.unescape_nil] using Escape.unescape_html s []
  have skeleton (r : Run) : ((html.run r).pieces Mode.bare).map Piece.skeleton = html.outline [] r.shape :=
    skeleton_run read_html (fun _ => rfl) r
  refine ⟨_, hread, hnested, ?_, ?_, fun r _ => ?_, ?_⟩
  · simp only [List.map_flatMap, List.flatMap_map, skeleton]
  · simp only [List.flatMap_assoc, List.map_flatMap, values_html_run, List.map_map]
    simp [Function.comp_def, unescape]
  · have alone := untag_html [r]
    rw [listing, List.map_singleton, printAll, printAll, List.append_nil, List.flatMap_singleton] at alone
    rw [alone, unescape]
  · rw [untag_html, unescape]

/-- Whatever the strings in its runs are, a listing in JSX is read as properly nested tags, which depend on
the shapes of the runs alone, with one literal in braces for each text that is shown and nothing else
between the tags. No literal is closed early or opens an expression, no value ends its attribute or
starts a tag, and each literal is read as the text that it was written from. -/
theorem jsx_listing_read (runs : List Run) :
    ∃ ps, read Mode.inBraces (jsx.listing runs) = some ps ∧ Nested (tagsOf ps) ∧
      ps.map Piece.skeleton = (runs.map Run.shape).flatMap (jsx.outline [.literal []]) ∧
      (∀ e ∈ literalsOf ps, Escape.Enclosed e) ∧
      (∀ v ∈ ps.flatMap Piece.values, Escape.Sealed v) ∧
      (literalsOf ps).map (fun e => (Escape.interpret? e).map (Escape.unescape Escape.textEntities)) =
        (runs.flatMap Run.shown).map some := by
  obtain ⟨ps, hread, rfl, hnested, hvalues⟩ := read_listing runs clean_jsx
  have literals : literalsOf (runs.flatMap fun r => (jsx.run r).pieces Mode.inBraces) =
      (runs.flatMap Run.shown).map Escape.template := by
    rw [literalsOf_flatMap]
    simp only [literals_jsx_run, List.map_flatMap]
  have skeleton (r : Run) :
      ((jsx.run r).pieces Mode.inBraces).map Piece.skeleton = jsx.outline [.literal []] r.shape :=
    skeleton_run read_jsx (fun _ => rfl) r
  refine ⟨_, hread, hnested, ?_, ?_, hvalues, ?_⟩
  · simp only [List.map_flatMap, List.flatMap_map, skeleton]
  · rw [literals]
    intro e he
    obtain ⟨s, -, rfl⟩ := List.mem_map.mp he
    exact Escape.enclosed_template s
  · rw [literals, List.map_map]
    refine List.map_congr_left fun s _ => ?_
    simp [Escape.interpret?_template, Escape.unescape_markup]

/-- a text that would end its literal and open an expression -/
example : jsx.content [char '\x60', char '\x7d', char '$', char '\x7b'] =
    codes "\x7b\x60\\\x60\x7d\\$\x7b\x60\x7d" := by decide

end
end Dialect
end Literate
