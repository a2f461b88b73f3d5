import Literate.Proofs.Render.Blocks
import Literate.Proofs.Render.Listing
import Literate.Proofs.Text.Whole
import Literate.Render.Format

/-! The formats of output bring in no halves of surrogate pairs: where the strings of a document and the
wrappers of its listings have none, its text has none. -/

namespace Literate

structure Mark.Whole (a : Mark) : Prop where
  symbol : Literate.Whole a.symbol
  highlight : Literate.Whole a.highlight
  doc : ∀ w ∈ a.doc, Literate.Whole w

def Run.Whole : Run → Prop
  | text _ => True
  | annotated _ x _ => x.mark.Whole

def Block.Whole : Block → Prop
  | code rs => ∀ r ∈ rs, r.Whole
  | prose s => Literate.Whole s

def Document.Whole (d : Document) : Prop := ∀ b ∈ d.blocks, b.Whole

section

variable {s : Wording} {c : Code}

theorem Escape.whole_htmlChar (h : c.isHalf = false) : Whole (htmlChar c) := by
  unfold htmlChar entity?
  split
  case h_6 => simpa using h
  all_goals exact whole_codes _

theorem Escape.whole_html (h : Whole s) : Whole (html s) := h.flatMap fun _ => whole_htmlChar

theorem Escape.whole_attributeValue (h : Whole s) : Whole (attributeValue s) := by
  refine h.flatMap fun c hc => ?_
  unfold attributeChar
  split_ifs
  · simp
  · simp [hc]
  · exact whole_htmlChar hc

theorem Escape.whole_templateChar (h : c.isHalf = false) : Whole (templateChar c) := by
  unfold templateChar
  split_ifs
  · exact whole_htmlChar h
  all_goals simp [h]

theorem Escape.whole_template (h : Whole s) : Whole (template s) := by
  fun_induction template s with
  | case1 => exact h
  | case2 s ih => simp_all
  | case3 c s _ ih =>
    rw [whole_cons] at h
    exact whole_append.mpr ⟨whole_templateChar h.1, ih h.2⟩

end

section

variable {d : Dialect} {s : Wording} {a : Mark} {r : Run}

theorem Markup.whole_element {name : String} {as : List (String × Wording)} {cs : List Markup}
    (has : ∀ a ∈ as, Whole a.2) (hcs : Whole (printAll cs)) : Whole (print (.element name as cs)) := by
  have attributes : Whole (as.flatMap printAttribute) := by
    intro c hc
    obtain ⟨a, ha, hc⟩ := List.mem_flatMap.mp hc
    have whole : Whole (printAttribute a) := by simp [printAttribute, has a ha]
    exact whole c hc
  simp [print, attributes, hcs]

variable (hvalue : ∀ s, Whole s → Whole (d.attributeValue s))
  (hcontent : ∀ s, Whole s → Whole (d.content s))

include hcontent

theorem Dialect.whole_text (hs : Whole s) : Whole (Markup.printAll [.text (d.content s)]) := by
  simpa [Markup.printAll, Markup.print] using hcontent s hs

include hvalue

theorem Dialect.whole_decorated (hs : Whole s) (ha : a.Whole) (k : Decoration) :
    Whole (d.decorated s a k).print := by
  have inside := whole_text hcontent hs
  have symbol := hvalue _ ha.symbol
  have highlight := hvalue _ ha.highlight
  cases k with
  | definition => exact Markup.whole_element (by simp [symbol, highlight]) inside
  | reference => exact Markup.whole_element (by simp [symbol, highlight]) inside
  | highlight => exact Markup.whole_element (by simp [highlight]) inside
  | plain =>
    rw [decorated, plain]
    split_ifs
    · simpa [Markup.printAll] using inside
    · exact Markup.whole_element (by simp) inside

theorem Dialect.whole_run (hr : r.Whole) : Whole (d.run r).print := by
  have here {s : Wording} (hs : Whole s) {a : Mark} (ha : a.Whole) :=
    whole_decorated hvalue hcontent hs ha
  induction r using d.run_cases with
  | text s => exact here (whole_codes s) ⟨whole_nil, whole_nil, by simp⟩ _
  | bare s x k => exact here (whole_codes s) hr k
  | hover s x k =>
    have doc : Whole (documentation x.mark) := (whole_codes _).joinWith hr.doc
    have inner : Whole (d.span "cire_doc" [.text (d.content (documentation x.mark))]).print :=
      Markup.whole_element (by simp) (whole_text hcontent doc)
    refine Markup.whole_element (by simp) ?_
    simpa [Markup.printAll] using ⟨here (whole_codes s) hr k, inner⟩

theorem Renderer.whole_block {start stop : Wording} (hstart : Whole start) (hstop : Whole stop)
    {b : Block} (hb : b.Whole) : Whole (block d start stop b) := by
  cases b with
  | code rs =>
    have listing : Whole (d.listing rs) := by
      rw [Dialect.listing]
      induction rs with
      | nil => exact whole_nil
      | cons r rs ih =>
        obtain ⟨hr, hrs⟩ := List.forall_mem_cons.mp hb
        exact whole_append.mpr ⟨Dialect.whole_run hvalue hcontent hr, ih hrs⟩
    simp [block, hstart, hstop, listing]
  | prose s =>
    have whole : Whole s := hb
    simp [block, whole]

theorem Renderer.whole_blocks {start stop : Wording} (hstart : Whole start) (hstop : Whole stop)
    {bs : List Block} (h : ∀ b ∈ bs, b.Whole) : Whole (bs.flatMap (block d start stop)) := by
  intro c hc
  obtain ⟨b, hb, hc⟩ := List.mem_flatMap.mp hc
  exact whole_block hvalue hcontent hstart hstop (h b hb) c hc

end

namespace Json

mutual

/-- no halves in the strings of a value -/
def Whole : Json → Prop
  | string s => Literate.Whole s
  | array vs => WholeItems vs
  | object fs => WholeFields fs
  | _ => True

def WholeItems : List Json → Prop
  | [] => True
  | v :: vs => Whole v ∧ WholeItems vs

def WholeFields : List (Wording × Json) → Prop
  | [] => True
  | (k, v) :: fs => Literate.Whole k ∧ Whole v ∧ WholeFields fs

end

theorem wholeItems_iff {vs : List Json} : WholeItems vs ↔ ∀ v ∈ vs, v.Whole := by
  induction vs with
  | nil => simp [WholeItems]
  | cons v vs ih => simp [WholeItems, ih]

theorem whole_escapeChar {c : Code} (h : c.isHalf = false) : Literate.Whole (escapeChar c) := by
  unfold escapeChar
  split_ifs
  all_goals simp [h]

theorem whole_stringText {s : Wording} (h : Literate.Whole s) : Literate.Whole (stringText s) := by
  have inside : Literate.Whole (s.flatMap escapeChar) := h.flatMap fun _ => whole_escapeChar
  simp [stringText, inside]

theorem whole_lineBreak (depth : Nat) : Literate.Whole (lineBreak depth) := by
  have blanks : Literate.Whole (List.replicate (2 * depth) (Code.char ' ')) :=
    fun c hc => by rw [List.eq_of_mem_replicate hc]; rfl
  simp [lineBreak, blanks]

mutual

theorem whole_print : (v : Json) → v.Whole → ∀ depth, Literate.Whole (print depth v)
  | null, _, _ => whole_codes _
  | bool b, _, _ => by cases b <;> exact whole_codes _
  | int _, _, _ => whole_codes _
  | real _, _, _ => whole_codes _
  | string _, h, _ => whole_stringText h
  | array [], _, _ => by simp [print, Code.isHalf]
  | array (v :: vs), ⟨hv, hvs⟩, depth => by
    simp [print, whole_lineBreak, whole_print v hv, whole_printItems vs hvs]
  | object [], _, _ => by simp [print, Code.isHalf]
  | object ((k, v) :: fs), ⟨hk, hv, hfs⟩, depth => by
    simp [print, whole_lineBreak, whole_stringText hk, whole_print v hv,
      whole_printFields fs hfs]

theorem whole_printItems : (vs : List Json) → WholeItems vs → ∀ depth,
    Literate.Whole (printItems depth vs)
  | [], _, _ => whole_nil
  | v :: vs, ⟨hv, hvs⟩, depth => by
    simp [printItems, whole_lineBreak, whole_print v hv, whole_printItems vs hvs]

theorem whole_printFields : (fs : List (Wording × Json)) → WholeFields fs → ∀ depth,
    Literate.Whole (printFields depth fs)
  | [], _, _ => whole_nil
  | (k, v) :: fs, ⟨hk, hv, hfs⟩, depth => by
    simp [printFields, whole_lineBreak, whole_stringText hk, whole_print v hv,
      whole_printFields fs hfs]

end
end Json

namespace Blocks

theorem whole_run {r : Run} (h : r.Whole) : (run r).Whole := by
  cases r with
  | text s => simp [run, Json.Whole, Json.WholeFields]
  | annotated s x d =>
    have doc : Json.WholeItems (x.mark.doc.map Json.string) :=
      Json.wholeItems_iff.mpr (List.forall_mem_map.mpr h.doc)
    simp [run, span, position, Json.Whole, Json.WholeFields, h.symbol, h.highlight, doc]

theorem whole_block {b : Block} (h : b.Whole) : (block b).Whole := by
  cases b with
  | code rs =>
    have runs : Json.WholeItems (rs.map run) :=
      Json.wholeItems_iff.mpr (List.forall_mem_map.mpr fun r hr => whole_run (h r hr))
    simp [block, Json.Whole, Json.WholeFields, runs]
  | prose s =>
    have whole : Literate.Whole s := h
    simp [block, Json.Whole, Json.WholeFields, whole]

theorem whole_document {d : Document} (h : d.Whole) : (document d).Whole := by
  have blocks : Json.WholeItems (d.blocks.map block) :=
    Json.wholeItems_iff.mpr (List.forall_mem_map.mpr fun b hb => whole_block (h b hb))
  simp [document, Json.Whole, Json.WholeFields, blocks]

end Blocks

def Settings.Whole (s : Settings) : Prop :=
  (∀ w ∈ s.wrapperStart, Literate.Whole w) ∧ ∀ w ∈ s.wrapperEnd, Literate.Whole w

theorem Settings.whole_wrappers {s : Settings} (h : s.Whole) (f : Format) :
    Literate.Whole (s.wrappers f.key).1 ∧ Literate.Whole (s.wrappers f.key).2 := by
  have default : Literate.Whole ((defaultWrappers.lookup f.key).getD ([], [])).1 ∧
      Literate.Whole ((defaultWrappers.lookup f.key).getD ([], [])).2 := by
    cases f with
    | json => exact ⟨whole_nil, whole_nil⟩
    | markdown | mdx => exact ⟨whole_codes _, whole_codes _⟩
  rw [wrappers]
  constructor
  · cases hw : s.wrapperStart with
    | none => exact default.1
    | some w => exact h.1 w hw
  · cases hw : s.wrapperEnd with
    | none => exact default.2
    | some w => exact h.2 w hw

/-- A text without halves is rendered from strings without halves. -/
theorem Renderer.whole_render {settings : Settings} {start stop : Option Wording} {f : Format}
    {d : Document} {text : Wording} (hset : settings.Whole) (hstart : ∀ w ∈ start, Whole w)
    (hstop : ∀ w ∈ stop, Whole w) (hd : d.Whole)
    (h : (ofFormat settings start stop f).render d = .ok text) : Whole text := by
  have chosen {o : Option Wording} {w : Wording} (ho : ∀ w ∈ o, Whole w) (hw : Whole w) :
      Whole (o.getD w) := by
    cases o with
    | none => exact hw
    | some v => exact ho v rfl
  obtain ⟨first, last⟩ := Settings.whole_wrappers hset f
  cases f with
  | json =>
    obtain ⟨-, rfl⟩ := Blocks.render_eq_ok_iff.mp h
    exact whole_append.mpr ⟨Json.whole_print _ (Blocks.whole_document hd) 0, whole_codes _⟩
  | markdown =>
    cases h
    exact whole_blocks (fun _ => Escape.whole_html) (fun _ => Escape.whole_html) (chosen hstart first)
      (chosen hstop last) hd
  | mdx =>
    cases h
    refine whole_blocks (fun _ => Escape.whole_attributeValue) (fun s hs => ?_) (chosen hstart first)
      (chosen hstop last) hd
    have inside := Escape.whole_template hs
    simp [Dialect.jsx, inside]

end Literate
