import Literate.Command.Session
import Literate.Proofs.Basic
import Literate.Proofs.Buffer.Place

/-! What the options choose for a source. Each key that is asked for stands for one producer, in the order
of the keys, or the user is told of the first reason against it; the language of the prose is chosen
likewise. Whatever is chosen and works by grammar has a grammar, so that a missing one is never found out
later. -/

namespace Literate

namespace Analysis

theorem ofKey?_eq_some_iff {s : String} {a : Analysis} : ofKey? s = some a ↔ a.key = s := by
  constructor
  · intro h
    simpa using List.find?_some h
  · rintro rfl
    cases a <;> decide

theorem ofKey?_eq_none_iff {s : String} : ofKey? s = none ↔ ∀ a : Analysis, a.key ≠ s := by
  simp only [← ofKey?_eq_some_iff, Option.eq_none_iff_forall_ne_some, ne_eq]

end Analysis

namespace Language

theorem known_eq_false_iff {l : String} : known l = false ↔ grammar? l = none := by
  rw [known, Option.isSome_eq_false_iff, Option.isNone_iff_eq_none]

theorem known?_eq_some_iff {l : String} {k : Known} : known? l = some k ↔ k.val = l := by
  unfold known?
  split
  · next h => rw [Option.some_inj, Subtype.ext_iff, eq_comm]
  · next h =>
    simp only [reduceCtorEq, false_iff]
    rintro rfl
    exact h k.property

theorem known?_eq_none_iff {l : String} : known? l = none ↔ grammar? l = none := by
  unfold known?
  split
  · next h => simp [← known_eq_false_iff, h]
  · next h => simp [← known_eq_false_iff, h]

end Language

/-- A language that is known to have a grammar is not found to have none. -/
theorem Parsed.ofSource_ne_noGrammar (grammars : Grammars) (l : Language.Known) (source : String)
    (name : String) : Parsed.ofSource grammars l.val source ≠ .error (.noGrammar name) := by
  obtain ⟨g, hg⟩ := Option.isSome_iff_exists.mp l.property
  unfold Parsed.ofSource
  rw [hg]
  simp only
  split <;> simp

theorem extractComments_ne_noGrammar (grammars : Grammars) (l : Language.Known) (source : String)
    (name : String) : extractComments grammars l.val source ≠ .error (.noGrammar name) := by
  unfold extractComments
  split
  · simp
  · have found := Parsed.ofSource_ne_noGrammar grammars l source name
    split
    · next e he =>
      rw [he] at found
      simpa using found
    · simp

/-- Commas separate the keys; blanks around them and empty ones are of no account. -/
theorem keysOf_join {pieces : List String} (h : ∀ p ∈ pieces, ',' ∉ p.toList) :
    keysOf (Text.join "," pieces) =
      ((pieces.map fun p => Text.trim p.toList).filter (· ≠ [])).map String.ofList := by
  cases pieces with
  | nil => rfl
  | cons p pieces =>
    have cut := Text.splitAt_joinWith (List.forall_mem_map.mpr h) (List.cons_ne_nil _ _)
    rw [keysOf, Text.toList_join, show ",".toList = [','] from rfl, cut, List.map_map]
    rfl

namespace Options

/-- the keys that are asked for, or else those of all analyses that go with the source -/
def keys (o : Options) (source : Path) : List String :=
  match o.analyzers with
  | some s => keysOf s
  | none =>
    if o.isPython source then Analysis.all.map Analysis.key
    else if (o.language? source).any Language.known then
      (Analysis.all.filter Analysis.general).map Analysis.key
    else []

/-- The analysis goes with the source. -/
def Suits (o : Options) (source : Path) (a : Analysis) : Prop :=
  o.isPython source = true ∨ a.general = true

/-- the producer that a key stands for: for Python one of its own, for another language with a grammar
the one that works by it, if the analysis can -/
inductive Stands (o : Options) (source : Path) : String → Producer → Prop where
  | python {a : Analysis} : o.isPython source = true → Stands o source a.key a.forPython
  | grammar {a : Analysis} {l : Language.Known} : o.isPython source = false → a.general = true →
    o.language? source = some l.val → Stands o source a.key (.tree l)

/-- where the prose comes from -/
inductive Chooses (o : Options) (source : Path) : ProseChoice → Prop where
  | off : o.noComments = true → Chooses o source .off
  | noLanguage : o.noComments = false → o.language? source = none →
    Chooses o source (.noLanguage source.suffix)
  | comments {l : Language.Known} : o.noComments = false → o.language? source = some l.val →
    Chooses o source (.comments l)

/-- why the options cannot be followed: the first key that is none, or that does not go with the source;
no grammar for keys that all need one; no grammar for the prose -/
inductive Refuses (o : Options) (source : Path) : SelectionError → Prop where
  | unknownAnalysis {front back : List String} {key : String} : o.keys source = front ++ key :: back →
    (∀ k ∈ front, ∃ a : Analysis, a.key = k ∧ o.Suits source a) → (∀ a : Analysis, a.key ≠ key) →
    Refuses o source (.unknownAnalysis key)
  | onlyPython {front back : List String} {a : Analysis} : o.keys source = front ++ a.key :: back →
    (∀ k ∈ front, ∃ a : Analysis, a.key = k ∧ o.Suits source a) → ¬ o.Suits source a →
    Refuses o source (.onlyPython a)
  | noGrammar : o.keys source ≠ [] →
    (∀ k ∈ o.keys source, ∃ a : Analysis, a.key = k ∧ a.general = true) → o.isPython source = false →
    (∀ l ∈ o.language? source, Language.grammar? l = none) → Refuses o source (.noGrammar source.suffix)
  | unknownLanguage {l : String} {ps : List Producer} :
    List.Forall₂ (Stands o source) (o.keys source) ps → o.noComments = false →
    o.language? source = some l → Language.grammar? l = none → Refuses o source (.unknownLanguage l)

variable {o : Options} {source : Path} {a : Analysis} {key : String} {e : SelectionError}

theorem isPython_iff : o.isPython source = true ↔ Language.pythonSuffix source.suffix = true ∨
    ∃ l, o.language? source = some l ∧ Language.isPython l = true := by
  simp only [isPython, Bool.or_eq_true, Option.any_eq_true]

theorem analysis_eq_ok_iff : o.analysis source key = .ok a ↔ a.key = key ∧ o.Suits source a := by
  unfold analysis
  split
  · next h =>
    rw [Analysis.ofKey?_eq_none_iff] at h
    simp [h a]
  · next b h =>
    have unique : a.key = key ↔ b = a := by
      rw [← Analysis.ofKey?_eq_some_iff, h, Option.some_inj]
    rw [unique, Suits, ← Bool.or_eq_true]
    split
    · next suits =>
      rw [Except.ok.injEq]
      exact ⟨fun hb => ⟨hb, hb ▸ suits⟩, And.left⟩
    · next unsuited => exact iff_of_false nofun fun ⟨hb, suits⟩ => unsuited (hb ▸ suits)

/-- A key that is refused is none, or its analysis does not go with the source. -/
theorem analysis_eq_error (h : o.analysis source key = .error e) :
    (∀ a : Analysis, a.key ≠ key) ∧ e = .unknownAnalysis key ∨
      ∃ a : Analysis, a.key = key ∧ ¬ o.Suits source a ∧ e = .onlyPython a := by
  unfold analysis at h
  split at h
  · next hkey => exact .inl ⟨Analysis.ofKey?_eq_none_iff.mp hkey, (Except.error.inj h).symm⟩
  · next a hkey =>
    split at h
    · cases h
    · next unsuited =>
      rw [Bool.or_eq_true] at unsuited
      exact .inr ⟨a, Analysis.ofKey?_eq_some_iff.mp hkey, unsuited, (Except.error.inj h).symm⟩

/-- Without a list the keys are those of the analyses, and all of them go with the source. -/
theorem analyses_eq_mapM : o.analyses source = (o.keys source).mapM (o.analysis source) := by
  have own (as : List Analysis) (h : ∀ a ∈ as, o.Suits source a) :
      (as.map Analysis.key).mapM (o.analysis source) = .ok as := by
    rw [mapM_eq_ok_iff, List.forall₂_map_left_iff, List.forall₂_same]
    exact fun a ha => analysis_eq_ok_iff.mpr ⟨rfl, h a ha⟩
  unfold analyses keys
  cases o.analyzers with
  | some s => rfl
  | none =>
    simp only
    split_ifs with python known
    · exact (own _ fun _ _ => .inl python).symm
    · exact (own _ fun _ ha => .inr (List.mem_filter.mp ha).2).symm
    · rfl

theorem analyses_eq_ok_iff {as : List Analysis} : o.analyses source = .ok as ↔
    List.Forall₂ (fun key a => a.key = key ∧ o.Suits source a) (o.keys source) as := by
  simp only [analyses_eq_mapM, mapM_eq_ok_iff, analysis_eq_ok_iff]

theorem refuses_of_analyses (h : o.analyses source = .error e) : o.Refuses source e := by
  rw [analyses_eq_mapM] at h
  obtain ⟨front, key, back, hkeys, hfront, hkey⟩ := exists_of_mapM_eq_error h
  have before : ∀ k ∈ front, ∃ a : Analysis, a.key = k ∧ o.Suits source a := fun k hk =>
    (hfront k hk).imp fun _ => analysis_eq_ok_iff.mp
  rcases analysis_eq_error hkey with ⟨unknown, rfl⟩ | ⟨a, rfl, unsuited, rfl⟩
  · exact .unknownAnalysis hkeys before unknown
  · exact .onlyPython hkeys before unsuited

theorem producers_eq_ok {ps : List Producer} (h : o.producers source = .ok ps) :
    List.Forall₂ (o.Stands source) (o.keys source) ps := by
  obtain ⟨as, has, h⟩ := bind_eq_ok.mp h
  rw [analyses_eq_ok_iff] at has
  split at h
  · next python =>
    obtain rfl := Except.ok.inj h
    rw [List.forall₂_map_right_iff]
    refine has.imp ?_
    rintro _ a ⟨rfl, -⟩
    exact .python python
  · next foreign =>
    rw [Bool.not_eq_true] at foreign
    split at h
    · next =>
      obtain rfl := Except.ok.inj h
      rw [List.forall₂_nil_right_iff] at has
      rw [has]
      exact .nil
    · next l _ hl =>
      obtain rfl := Except.ok.inj h
      obtain ⟨name, hname, hknown⟩ := Option.bind_eq_some_iff.mp hl
      obtain rfl := Language.known?_eq_some_iff.mp hknown
      rw [List.forall₂_map_right_iff]
      refine has.imp ?_
      rintro _ a ⟨rfl, suits⟩
      exact .grammar foreign (suits.resolve_left (by simp [foreign])) hname
    · cases h

/-- No grammar is missed where nothing is looked for. -/
theorem refuses_of_producers (h : o.producers source = .error e) : o.Refuses source e := by
  rcases bind_eq_error.mp h with h | ⟨as, has, h⟩
  · exact refuses_of_analyses h
  · rw [analyses_eq_ok_iff] at has
    split at h
    · cases h
    · next foreign =>
      split at h
      · cases h
      · cases h
      · next nonempty hnone =>
        obtain rfl := Except.error.inj h
        refine .noGrammar ?_ ?_ (Bool.not_eq_true _ ▸ foreign) fun l hl => ?_
        · intro hkeys
          rw [hkeys, List.forall₂_nil_left_iff] at has
          exact nonempty has
        · refine exists_forall₂.mp ⟨_, has.imp ?_⟩
          rintro _ a ⟨rfl, suits⟩
          exact ⟨rfl, suits.resolve_left foreign⟩
        · exact Language.known?_eq_none_iff.mp (Option.bind_eq_none_iff.mp hnone l hl)

theorem prose_eq_ok {choice : ProseChoice} (h : o.prose source = .ok choice) :
    o.Chooses source choice := by
  unfold prose at h
  split at h
  · next off =>
    obtain rfl := Except.ok.inj h
    exact .off off
  · next on =>
    rw [Bool.not_eq_true] at on
    split at h
    · next hl =>
      obtain rfl := Except.ok.inj h
      exact .noLanguage on hl
    · next l hl =>
      split at h
      · next k hk =>
        obtain rfl := Except.ok.inj h
        obtain rfl := Language.known?_eq_some_iff.mp hk
        exact .comments on hl
      · cases h

theorem prose_eq_error (h : o.prose source = .error e) : ∃ l, o.noComments = false ∧
    o.language? source = some l ∧ Language.grammar? l = none ∧ e = .unknownLanguage l := by
  unfold prose at h
  split at h
  · cases h
  · next on =>
    split at h
    · cases h
    · next l hl =>
      split at h
      · cases h
      · next hk =>
        exact ⟨l, Bool.not_eq_true _ ▸ on, hl, Language.known?_eq_none_iff.mp hk,
          (Except.error.inj h).symm⟩

/-- the producers and then where the prose comes from -/
def selection (o : Options) (source : Path) : Except SelectionError (List Producer × ProseChoice) := do
  let ps ← o.producers source
  return (ps, ← o.prose source)

theorem selection_eq_ok {ps : List Producer} {choice : ProseChoice}
    (h : o.selection source = .ok (ps, choice)) :
    List.Forall₂ (o.Stands source) (o.keys source) ps ∧ o.Chooses source choice := by
  obtain ⟨ps', hps, h⟩ := bind_eq_ok.mp h
  obtain ⟨choice', hchoice, h⟩ := bind_eq_ok.mp h
  obtain ⟨rfl, rfl⟩ := Prod.mk.inj (Except.ok.inj h)
  exact ⟨producers_eq_ok hps, prose_eq_ok hchoice⟩

theorem refuses_of_selection (h : o.selection source = .error e) : o.Refuses source e := by
  rcases bind_eq_error.mp h with h | ⟨ps, hps, h⟩
  · exact refuses_of_producers h
  · rcases bind_eq_error.mp h with h | ⟨choice, -, h⟩
    · obtain ⟨l, on, hl, unknown, rfl⟩ := prose_eq_error h
      exact .unknownLanguage (producers_eq_ok hps) on hl unknown
    · cases h

variable {p : Producer}

theorem Stands.isPython_of_own (h : o.Stands source key p) (own : p = .lexemes ∨ p = .symbols) :
    o.isPython source = true := by
  cases h with
  | python python => exact python
  | grammar => simp at own

theorem Stands.ne_noGrammar (h : o.Stands source key p) (grammars : Grammars) (text name : String) :
    p.tokens grammars text ≠ .error (.tree (.noGrammar name)) := by
  cases h with
  | @python a =>
    cases a with
    | highlight => nofun
    | symbols =>
      simp only [Analysis.forPython, Producer.tokens]
      split <;> simp
  | @grammar _ l =>
    have parsed := Parsed.ofSource_ne_noGrammar grammars l text name
    simp only [Producer.tokens]
    split
    · nofun
    · next e he =>
      rw [he] at parsed
      simpa using parsed

/-- The keys that are asked for stand between commas, those that are blank left out. The options are
refused for a reason that the user is told, or each key stands for a producer, in the order of the keys.
Those made for Python alone are chosen for nothing else, and neither a producer nor the search for
comments lacks the grammar that it works by. -/
theorem selection_sound (o : Options) (source : Path) :
    (∀ pieces : List String, (∀ p ∈ pieces, ',' ∉ p.toList) →
      o.analyzers = some (Text.join "," pieces) → o.keys source =
        ((pieces.map fun p => Text.trim p.toList).filter (· ≠ [])).map String.ofList) ∧
    ((∃ e, o.selection source = .error e ∧ o.Refuses source e ∧
        (SessionError.selection e).told = true) ∨
      ∃ ps choice, o.selection source = .ok (ps, choice) ∧
        List.Forall₂ (o.Stands source) (o.keys source) ps ∧
        (∀ p ∈ ps, p = .lexemes ∨ p = .symbols → Language.pythonSuffix source.suffix = true ∨
          ∃ l, o.language? source = some l ∧ Language.isPython l = true) ∧
        (∀ p ∈ ps, ∀ grammars text name,
          p.tokens grammars text ≠ .error (.tree (.noGrammar name))) ∧
        o.Chooses source choice ∧
        ∀ l ∈ choice.language, ∀ grammars text name,
          extractComments grammars l.val text ≠ .error (.noGrammar name)) := by
  refine ⟨fun pieces hpieces hkeys => ?_, ?_⟩
  · rw [keys, hkeys]
    exact keysOf_join hpieces
  cases h : o.selection source with
  | error e => exact .inl ⟨e, rfl, refuses_of_selection h, rfl⟩
  | ok chosen =>
    obtain ⟨ps, choice⟩ := chosen
    obtain ⟨stands, chooses⟩ := selection_eq_ok h
    refine .inr ⟨ps, choice, rfl, stands, fun p hp own => ?_, fun p hp => ?_, chooses, fun l _ => ?_⟩
    · obtain ⟨key, -, hkey⟩ := exists_of_mem_right stands hp
      exact isPython_iff.mp (hkey.isPython_of_own own)
    · obtain ⟨key, -, hkey⟩ := exists_of_mem_right stands hp
      exact hkey.ne_noGrammar
    · exact fun grammars => extractComments_ne_noGrammar grammars l

/-- The suffix counts for the producers, and the language that is asked for counts for the comments. -/
example : Options.selection
    { format := "md", date := true, analyzers := some " symbols,,", lang := some "Haskell" }
    (Path.ofText "a.py") = .ok ([.symbols], .comments ⟨"Haskell", by decide +kernel⟩) := by rfl

end Options
end Literate
