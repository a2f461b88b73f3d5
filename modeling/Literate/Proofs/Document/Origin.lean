import Literate.Proofs.AnnotationFile.Natural
import Literate.Proofs.Document.Script
import Literate.Proofs.Render.Blocks
import Literate.Proofs.Script.Reference

/-! Where the tokens and the errors of a document come from. All producers that look at the source count
from zero, so a document is presentable as soon as the tokens made elsewhere count from zero too; an
error is that of a producer or of the search for comments. -/

namespace Literate

namespace Script

theorem natural_highlight {source : String} {t : Token} (ht : t ∈ (highlight source).1) :
    t.span.Natural := by
  obtain ⟨l, hl, hspan⟩ := mem_tokens (show t ∈ Highlighter.tokens {} (lex source).items from ht)
  have within := (spaced_lex source).within l hl
  rw [hspan]
  exact ⟨within.start.natural, within.stop.natural⟩

theorem natural_nameSpan {lines : Buffer} {d : Definition} {s : Span} (h : d.nameSpan lines = some s) :
    s.Natural := by
  simp only [Definition.nameSpan, Option.bind_eq_bind, Option.bind_eq_some_iff, Option.pure_def,
    Option.some.injEq] at h
  obtain ⟨line, -, start, -, rfl⟩ := h
  constructor <;> constructor <;> positivity

theorem natural_positionIn {lines : Buffer} {p : Point} {q : Position}
    (h : positionIn lines p = .ok q) : q.Natural := by
  unfold positionIn at h
  split at h
  · cases h
    constructor <;> positivity
  · cases h

theorem natural_symbols {source : String} {ts : List Token} (h : symbols source = .ok ts) :
    ∀ t ∈ ts, t.span.Natural := by
  unfold symbols at h
  split at h
  · cases h
  · obtain ⟨ls, refs, rfl, hls, hrefs⟩ := symbolsOf_eq_ok.mp h
    intro t ht
    rcases List.mem_append.mp ht with ht | ht
    · obtain ⟨l, hl, rfl⟩ := List.mem_map.mp ht
      obtain ⟨s, -, found⟩ := exists_of_mem_right hls hl
      exact natural_nameSpan found.span
    · obtain ⟨u, -, refers⟩ := exists_of_mem_right hrefs ht
      exact ⟨natural_positionIn refers.start, natural_positionIn refers.stop⟩

end Script

theorem Parsed.natural_position (p : Parsed) (point : Point) : (p.position point).Natural := by
  unfold Parsed.position
  split <;> constructor <;> positivity

theorem Tree.natural_highlight {p : Parsed} {t : Token} (ht : t ∈ Tree.highlight p) : t.span.Natural := by
  obtain ⟨x, -, rfl⟩ := List.mem_map.mp ht
  exact ⟨p.natural_position _, p.natural_position _⟩

namespace Producer

/-- The tokens that are made elsewhere count from zero. -/
def Natural : Producer → Prop
  | elsewhere _ (.ok ts) => ∀ t ∈ ts, t.span.Natural
  | _ => True

variable {grammars : Grammars} {source : String} {p : Producer} {ps : List Producer} {ts : List Token}
  {ns : List Notice} {e : ProducerError}

theorem natural_tokens (hp : p.Natural) (h : p.tokens grammars source = .ok (ts, ns)) :
    ∀ t ∈ ts, t.span.Natural := by
  cases p with
  | lexemes =>
    have found : Script.highlight source = (ts, ns) := Except.ok.inj h
    intro t ht
    exact Script.natural_highlight (by rw [found]; exact ht)
  | symbols =>
    rw [tokens] at h
    split at h
    · next found =>
      cases h
      exact Script.natural_symbols found
    · cases h
  | tree l =>
    rw [tokens] at h
    split at h
    · cases h
      exact fun _ => Tree.natural_highlight
    · cases h
  | elsewhere label found =>
    cases found with
    | ok us =>
      cases h
      exact hp
    | error reason => cases h

/-- All producers run, in their order; the first error counts. -/
theorem gather_cons : (gather grammars source (p :: ps)).1 = (do
    let found ← p.tokens grammars source
    let rest ← (gather grammars source ps).1
    return found.1 ++ rest) := by
  rw [gather]
  cases p.tokens grammars source <;> cases gather grammars source ps with
    | mk rest ns => cases rest <;> rfl

/-- An error is that of a producer. -/
theorem error_of_gather (h : (gather grammars source ps).1 = .error e) :
    ∃ p ∈ ps, p.tokens grammars source = .error e := by
  induction ps with
  | nil => cases h
  | cons p ps ih =>
    rw [gather_cons] at h
    rcases bind_eq_error.mp h with herror | ⟨found, -, h⟩
    · exact ⟨p, List.mem_cons_self, herror⟩
    · rcases bind_eq_error.mp h with herror | ⟨rest, -, h⟩
      · obtain ⟨q, hq, herror⟩ := ih herror
        exact ⟨q, List.mem_cons_of_mem p hq, herror⟩
      · cases h

/-- A token is that of a producer. -/
theorem exists_of_mem_gather (h : (gather grammars source ps).1 = .ok ts) {t : Token} (ht : t ∈ ts) :
    ∃ p ∈ ps, ∃ us ns, p.tokens grammars source = .ok (us, ns) ∧ t ∈ us := by
  induction ps generalizing ts with
  | nil =>
    cases h
    exact absurd ht List.not_mem_nil
  | cons p ps ih =>
    rw [gather_cons] at h
    obtain ⟨found, htokens, h⟩ := bind_eq_ok.mp h
    obtain ⟨rest, hrest, h⟩ := bind_eq_ok.mp h
    cases h
    rcases List.mem_append.mp ht with ht | ht
    · exact ⟨p, List.mem_cons_self, _, _, htokens, ht⟩
    · obtain ⟨q, hq, made⟩ := ih hrest ht
      exact ⟨q, List.mem_cons_of_mem p hq, made⟩

theorem natural_gather (hps : ∀ p ∈ ps, p.Natural) (h : (gather grammars source ps).1 = .ok ts) :
    ∀ t ∈ ts, t.span.Natural := by
  intro t ht
  obtain ⟨p, hp, us, ns, htokens, ht⟩ := exists_of_mem_gather h ht
  exact natural_tokens (hps p hp) htokens t ht

end Producer

section

variable {grammars : Grammars} {source name : String} {ps : List Producer} {prose : Prose}

theorem buildDocument_eq : (buildDocument grammars source name ps prose).1 = (do
    let found ← prose.comments grammars source
    let ts ← (Producer.gather grammars source ps).1
    return (assembleDocument (Buffer.ofText source) (partition (sortTokens ts))
      (keepComments found.1).1 name).1) := by
  rw [buildDocument]
  cases prose.comments grammars source <;> cases Producer.gather grammars source ps with
    | mk tokens ns => cases tokens <;> rfl

/-- What stops a document is the error of a producer, or there is no tree to find comments in. -/
theorem error_of_buildDocument {e : ProducerError}
    (h : (buildDocument grammars source name ps prose).1 = .error e) :
    (∃ p ∈ ps, p.tokens grammars source = .error e) ∨ ∃ t, e = .tree t := by
  rw [buildDocument_eq] at h
  rcases bind_eq_error.mp h with hprose | ⟨found, -, h⟩
  · unfold Prose.comments at hprose
    split at hprose
    · cases hprose
    · split at hprose
      · cases hprose
      · exact .inr ⟨_, (Except.error.inj hprose).symm⟩
  · rcases bind_eq_error.mp h with htokens | ⟨ts, -, h⟩
    · exact .inl (Producer.error_of_gather htokens)
    · cases h

theorem presentable_buildDocument {d : Document} (hps : ∀ p ∈ ps, p.Natural)
    (h : (buildDocument grammars source name ps prose).1 = .ok d) : d.Presentable := by
  rw [buildDocument_eq] at h
  obtain ⟨found, -, h⟩ := bind_eq_ok.mp h
  obtain ⟨ts, htokens, h⟩ := bind_eq_ok.mp h
  cases h
  exact presentable_assembleDocument _ _ _ _
    (Grid.natural_of_mem_partition (Producer.natural_gather hps htokens))

end
end Literate
