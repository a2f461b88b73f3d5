import Literate.Proofs.Command.Selection
import Literate.Proofs.Command.Session
import Literate.Proofs.Document.Whole

/-! Where halves of surrogate pairs come into a session: by the wrappers of listings, by files with
annotations, and by the texts that document definitions. Without these all that is rendered has an
encoding. -/

namespace Literate

namespace Options

variable {o : Options} {source : Path} {ps : List Producer}

/-- Producers that options ask for look at the source. -/
theorem own_of_mem_producers (h : o.producers source = .ok ps) {p : Producer} (hp : p ∈ ps) :
    p = .lexemes ∨ p = .symbols ∨ ∃ l, p = .tree l := by
  obtain ⟨key, -, stands⟩ := exists_of_mem_right (producers_eq_ok h) hp
  cases stands with
  | @python a =>
    cases a with
    | highlight => exact .inl rfl
    | symbols => exact .inr (.inl rfl)
  | grammar => exact .inr (.inr ⟨_, rfl⟩)

theorem whole_of_mem_producers {text : String} (h : o.producers source = .ok ps)
    (htext : .symbols ∈ ps → Script.DocumentedWhole text) : ∀ p ∈ ps, p.Whole text := by
  intro p hp
  rcases own_of_mem_producers h hp with rfl | rfl | ⟨l, rfl⟩
  · trivial
  · exact htext hp
  · trivial

end Options

namespace Session

/-- No halves come into a session. -/
structure Whole (settings : Settings) (s : Store) (a : Arguments) : Prop where
  settings : settings.Whole
  wrapperStart : ∀ w ∈ a.wrapperStart, Literate.Whole w
  wrapperEnd : ∀ w ∈ a.wrapperEnd, Literate.Whole w
  annotations : ∀ name ∈ a.annotations, ∀ f, s.annotations (Path.ofText name) = .ok f → f.Whole
  documented : ∀ text own, s.text (sourceOf s a) = .ok text → a.producers (sourceOf s a) = .ok own →
    .symbols ∈ own → Script.DocumentedWhole text

variable {settings : Settings} {grammars : Grammars} {s : Store} {a : Arguments} {f : Format}
  {text : Wording}

theorem Whole.document {d : Document} (h : Whole settings s a)
    (hd : Builds grammars s a.toOptions (sourceOf s a) (.ok d)) : d.Whole := by
  obtain ⟨text, own, loaded, prose, htext, hown, hloaded, -, hbuild⟩ := hd
  have files : ∀ l ∈ loaded, l.2.Whole := fun l hl =>
    h.annotations l.1 (hloaded l hl).1 l.2 (hloaded l hl).2
  refine whole_buildDocument (List.forall_mem_append.mpr ⟨?_, ?_⟩) ?_ hbuild
  · exact Options.whole_of_mem_producers hown (h.documented text own htext hown)
  · exact List.forall_mem_map.mpr fun l hl => (files l hl).tokens
  · intro c hc
    obtain ⟨l, hl, hc⟩ := List.mem_flatMap.mp hc
    exact (files l hl).comments c hc

theorem Whole.rendered (h : Whole settings s a) (hr : Rendered settings grammars s a f text) :
    Literate.Whole text := by
  obtain ⟨d, hd, hrender⟩ := hr
  exact Renderer.whole_render h.settings h.wrapperStart h.wrapperEnd (h.document hd) hrender

/-- What has no encoding came into the session from outside. -/
theorem not_whole_of_encode {e : Utf8.Unencodable} (hr : Rendered settings grammars s a f text)
    (hencode : Utf8.encodeCodes text = .error e) : ¬ Whole settings s a := fun h =>
  Utf8.encodeCodes_eq_error_iff.mp ⟨e, hencode⟩ (h.rendered hr)

end Session
end Literate
