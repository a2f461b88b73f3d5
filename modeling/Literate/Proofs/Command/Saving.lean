import Literate.Proofs.Command.Whole

/-! What a series of runs leaves behind when each chooses the name of its own output. A run that ends
with an error leaves the files as they were, unless the text of its document has no encoding: then it has
made its file already, and leaves it empty. Any other adds the file with that text. In both cases the
file has the first name that is free, so nothing that stands is replaced, and later runs find the output
of earlier ones in their way. -/

namespace Literate

/-- one run, with all that it depends on but the files -/
structure Invocation where
  settings : Settings := {}
  grammars : Grammars := {}
  today : Date
  arguments : Arguments

/-- The run got as far as its file, if only to leave it empty. -/
def Report.wrote (r : Report) : Bool :=
  match r.error with
  | none | some (.output (.notEncoded _)) => true
  | _ => false

namespace Invocation

def run (i : Invocation) : StateM Store Report :=
  runSession i.settings i.grammars Store.fileSystem i.today i.arguments

/-- the day in front of the name, if it is asked for -/
def date (i : Invocation) : Option Date := if i.arguments.date then some i.today else none

def source (i : Invocation) (s : Store) : Path := Session.sourceOf s i.arguments

/-- the text of the document that a run makes -/
def Renders (i : Invocation) (s : Store) (f : Format) (text : Wording) : Prop :=
  Format.ofKey? i.arguments.format = some f ∧
    Session.Rendered i.settings i.grammars s i.arguments f text

/-- the store that a run leaves behind, with its report -/
inductive Leaves (i : Invocation) (s : Store) : Report → Store → Prop where
  | refused {r : Report} {e : SessionError} : r.error = some e → r.wrote = false → Leaves i s r s
  | saved {r : Report} {f : Format} {n : Nat} {cs : List Char} : r.error = none →
    i.Renders s f (cs.map Code.char) →
    s.FirstFree (outputPlace i.date (i.source s) f) n → n ≤ s.entries.length + 1 →
    Leaves i s r { s with
      entries := s.entries ++ [(outputPlace i.date (i.source s) f n, .file (Utf8.encode cs))] }
  | emptied {r : Report} {f : Format} {n : Nat} {text : Wording} {e : Utf8.Unencodable} :
    r.error = some (.output (.notEncoded e)) → ¬ Session.Whole i.settings s i.arguments →
    i.Renders s f text → Utf8.encodeCodes text = .error e →
    s.FirstFree (outputPlace i.date (i.source s) f) n → n ≤ s.entries.length + 1 →
    Leaves i s r { s with
      entries := s.entries ++ [(outputPlace i.date (i.source s) f n, .file [])] }

/-- Runs follow one another, each in the store that the one before it leaves. -/
inductive History : Store → List Invocation → List Report → Store → Prop where
  | nil {s : Store} : History s [] [] s
  | cons {i : Invocation} {is : List Invocation} {r : Report} {rs : List Report} {s s' s'' : Store} :
    i.Leaves s r s' → History s' is rs s'' → History s (i :: is) (r :: rs) s''

def runAll (is : List Invocation) : StateM Store (List Report) := is.mapM run

/-- Whenever a run starts, its files with annotations have integers for coordinates. -/
def Indexed : Store → List Invocation → Prop
  | _, [] => True
  | s, i :: is => Session.Indexed s i.arguments ∧ Indexed (i.run.run s).2 is

instance decidableIndexed : (s : Store) → (is : List Invocation) → Decidable (Indexed s is)
  | _, [] => instDecidableTrue
  | s, i :: is => @instDecidableAnd _ _ _ (decidableIndexed (i.run.run s).2 is)

section

variable {i : Invocation} {is : List Invocation} {r : Report} {rs : List Report} {s s' : Store}

/-- A name that a run chooses is the first that is free, and can be written. -/
theorem outputOf_free (hhere : ∀ n ∈ s.here, '/' ∉ n.toList) (hnone : i.arguments.output = none)
    (hfile : s.kind? (i.source s) = some .file) (f : Format) :
    ∃ n, s.FirstFree (outputPlace i.date (i.source s) f) n ∧ n ≤ s.entries.length + 1 ∧
      ∀ bytes, s.write (Session.outputOf s i.today i.arguments f) bytes =
        .ok { s with entries := s.entries ++ [(outputPlace i.date (i.source s) f n, .file bytes)] } := by
  have source : s.Source (i.source s) := Store.source_resolve hhere hfile
  obtain ⟨n, hfree, hbound, hout⟩ := source.freeOutput_run i.date f
  have path : Session.outputOf s i.today i.arguments f =
      outputPath i.date (i.source s) f.suffix n := by
    rw [Session.outputOf, Session.outputFor, hnone]
    exact congrArg Prod.fst hout
  exact ⟨n, hfree, hbound, fun bytes => path ▸ source.write_output hfree.free bytes⟩

/-- The error that a session ends with before it writes is not about an encoding. -/
theorem wrote_of_cause {e : SessionError} (he : r.error = some e)
    (hcause : Session.Cause i.grammars s i.arguments e) : r.wrote = false := by
  rw [Report.wrote, he]
  cases e with
  | output e => exact hcause.elim
  | _ => rfl

theorem run_leaves (hhere : ∀ n ∈ s.here, '/' ∉ n.toList) (hnone : i.arguments.output = none) :
    ∃ r s', i.run.run s = (r, s') ∧ i.Leaves s r s' := by
  obtain ⟨r, s', hrun, ⟨hok, f, text, hf, hfile, rendered, writes⟩ | ⟨e, -, he, -, hend⟩⟩ :=
    runSession_cases i.settings i.grammars i.today i.arguments s
  · obtain ⟨n, hfree, hbound, hwrite⟩ := outputOf_free hhere hnone hfile f
    cases writes with
    | @written cs _ htext hwritten =>
      rw [hwrite] at hwritten
      cases hwritten
      exact ⟨r, _, hrun, .saved hok ⟨hf, htext ▸ rendered⟩ hfree hbound⟩
  · refine ⟨r, s', hrun, ?_⟩
    rcases hend with ⟨rfl, hcause⟩ | ⟨e', rfl, f, text, hf, hfile, rendered, writes⟩
    · exact .refused he (wrote_of_cause he hcause)
    · obtain ⟨n, hfree, hbound, hwrite⟩ := outputOf_free hhere hnone hfile f
      cases writes with
      | refused hrefused =>
        rw [hwrite] at hrefused
        cases hrefused
      | emptied hencode hwritten =>
        rw [hwrite] at hwritten
        cases hwritten
        exact .emptied he (Session.not_whole_of_encode rendered hencode) ⟨hf, rendered⟩ hencode hfree
          hbound

theorem Leaves.here (h : i.Leaves s r s') : s'.here = s.here := by cases h <;> rfl

theorem runAll_history (hhere : ∀ n ∈ s.here, '/' ∉ n.toList)
    (hnone : ∀ i ∈ is, i.arguments.output = none) :
    ∃ rs s', (runAll is).run s = (rs, s') ∧ History s is rs s' := by
  induction is generalizing s with
  | nil => exact ⟨[], s, rfl, .nil⟩
  | cons i is ih =>
    obtain ⟨hi, his⟩ := List.forall_mem_cons.mp hnone
    obtain ⟨r, s₁, hrun, hleaves⟩ := run_leaves hhere hi
    obtain ⟨rs, s₂, hruns, hhistory⟩ := ih (hleaves.here ▸ hhere) his
    refine ⟨r :: rs, s₂, ?_, .cons hleaves hhistory⟩
    have unfolded : (runAll (i :: is)).run s =
        ((i.run.run s).1 :: ((runAll is).run (i.run.run s).2).1,
          ((runAll is).run (i.run.run s).2).2) := by
      rw [runAll, List.mapM_cons]
      rfl
    rw [unfolded, hrun, hruns]

/-- A run leaves the files as they were, or adds one where nothing stands. -/
theorem Leaves.added (h : i.Leaves s r s') : (r.wrote = false ∧ s' = s) ∨
    ∃ place e, r.wrote = true ∧ s.entry? place = none ∧
      s' = { s with entries := s.entries ++ [(place, e)] } := by
  cases h with
  | refused he hwrote => exact .inl ⟨hwrote, rfl⟩
  | saved hok _ hfree _ => exact .inr ⟨_, _, by rw [Report.wrote, hok], hfree.free, rfl⟩
  | emptied he _ _ _ hfree _ => exact .inr ⟨_, _, by rw [Report.wrote, he], hfree.free, rfl⟩

/-- Earlier entries stay what they are, and as many files are new as runs got as far as theirs. -/
theorem History.frame (h : History s is rs s') : ∃ added,
    s' = { s with entries := s.entries ++ added } ∧ added.length = rs.countP Report.wrote ∧
      (∀ x ∈ added, s.entry? x.1 = none) ∧ (added.map (·.1)).Nodup := by
  induction h with
  | nil => exact ⟨[], by simp⟩
  | cons hleaves _ ih =>
    obtain ⟨added, rfl, hcount, hnew, hdistinct⟩ := ih
    rcases hleaves.added with ⟨hwrote, rfl⟩ | ⟨place, e, hwrote, hfree, rfl⟩
    · exact ⟨added, rfl, by simp [hcount, hwrote], hnew, hdistinct⟩
    · refine ⟨(place, e) :: added, by simp, by simp [hcount, hwrote], ?_, ?_⟩
      · -- what is free in a later store was free in this one
        refine List.forall_mem_cons.mpr ⟨hfree, fun x hx => ?_⟩
        exact Store.entry?_eq_none_of_append (hnew x hx)
      · -- and the place that is taken now is not
        refine List.nodup_cons.mpr ⟨fun hmem => ?_, hdistinct⟩
        obtain ⟨x, hx, hplace⟩ := List.mem_map.mp hmem
        have taken := hnew x hx
        rw [hplace, Store.entry?_append_self hfree] at taken
        cases taken

/-- Whatever the files are, and however often sources are run with no name for the output: each run
that ends without an error adds one file, with the text of its document and under the first name next to
its source that is free. Each other run leaves the files as they are, unless that text has no encoding, for
halves of surrogate pairs that came into the run: then the file that it adds is empty. No entry is ever
lost or changed. This is of files with annotations whose coordinates are integers. -/
theorem runs_keep_files (s : Store) (is : List Invocation) (hhere : ∀ n ∈ s.here, '/' ∉ n.toList)
    (hnone : ∀ i ∈ is, i.arguments.output = none) (_ : Indexed s is) :
    ∃ rs s' added, (runAll is).run s = (rs, s') ∧ History s is rs s' ∧
      s' = { s with entries := s.entries ++ added } ∧
      added.length = rs.countP Report.wrote ∧ (∀ x ∈ added, s.entry? x.1 = none) ∧
      (added.map (·.1)).Nodup ∧ ∀ place e, s.entry? place = some e → s'.entry? place = some e := by
  obtain ⟨rs, s', hrun, hhistory⟩ := runAll_history hhere hnone
  obtain ⟨added, rfl, hcount, hnew, hdistinct⟩ := hhistory.frame
  exact ⟨rs, _, added, hrun, hhistory, rfl, hcount, hnew, hdistinct, fun _ _ => Store.entry?_append⟩

/-- Two runs on the same source, next to which a file has the first name already. -/
theorem runs_keep_files_twice :
    let s : Store := ⟨["w"], [(["w"], .directory), (["w", "a.py"], .file [120, 10]),
      (["w", "b.json"], .file (Utf8.encode "\x7b\"tokens\": [\x7b\"range\": [0, 0, 1]\x7d]\x7d".toList)),
      (["w", "a.py.md"], .file [])]⟩
    let a : Arguments :=
      { format := "markdown", annotations := ["b.json"], date := false, analyzers := some "",
        noComments := true, source := "a.py" }
    let i : Invocation := { today := ⟨2024, 5, 1⟩, arguments := a }
    (∀ n ∈ s.here, '/' ∉ n.toList) ∧ (∀ j ∈ [i, i], j.arguments.output = none) ∧ Indexed s [i, i] ∧
    ((runAll [i, i]).run s).2.entries.map (·.1) = [["w"], ["w", "a.py"], ["w", "b.json"],
      ["w", "a.py.md"], ["w", "a.py-2.md"], ["w", "a.py-3.md"]] ∧
    ∃ rs s' added, (runAll [i, i]).run s = (rs, s') ∧ History s [i, i] rs s' ∧
      s' = { s with entries := s.entries ++ added } ∧
      added.length = rs.countP Report.wrote ∧ (∀ x ∈ added, s.entry? x.1 = none) ∧
      (added.map (·.1)).Nodup ∧ ∀ place e, s.entry? place = some e → s'.entry? place = some e := by
  intro s a i
  have indexed : Indexed s [i, i] := by decide +kernel
  exact ⟨by decide, by decide, indexed, by decide +kernel,
    runs_keep_files _ _ (by decide) (by decide) indexed⟩

/-- Half of a surrogate pair in the content of a comment: the run ends with an error, and leaves an
empty file behind. -/
theorem run_leaves_empty_file :
    let s : Store := ⟨["w"], [(["w"], .directory), (["w", "a.py"], .file [120, 10]),
      (["w", "b.json"], .file (Utf8.encode
        "\x7b\"comments\": [\x7b\"range\": [0, 0, 1], \"content\": \"\\ud800\"\x7d]\x7d".toList))]⟩
    let a : Arguments := { format := "mdx", annotations := ["b.json"], date := false, source := "a.py" }
    let i : Invocation := { today := ⟨2024, 5, 1⟩, arguments := a }
    i.arguments.output = none ∧
    (i.run.run s).1.error.map SessionError.message =
      some "'utf-8' codec can't encode character '\\ud800' in position 0: surrogates not allowed" ∧
    (i.run.run s).2 = { s with entries := s.entries ++ [(["w", "a.py.mdx"], .file [])] } ∧
    ¬ ((i.run.run s).1.error ≠ none → (i.run.run s).2 = s) := by
  intro s a i
  have message : (i.run.run s).1.error.map SessionError.message =
      some "'utf-8' codec can't encode character '\\ud800' in position 0: surrogates not allowed" := by
    decide +kernel
  have left : (i.run.run s).2 =
      { s with entries := s.entries ++ [(["w", "a.py.mdx"], .file [])] } := by
    decide +kernel
  refine ⟨rfl, message, left, fun h => ?_⟩
  have failed : (i.run.run s).1.error ≠ none := fun hnone => by simp [hnone] at message
  have longer : s.entries ++ [(["w", "a.py.mdx"], .file [])] = s.entries :=
    congrArg Store.entries (left.symm.trans (h failed))
  simp at longer

end
end Invocation
end Literate
