import Literate.Proofs.Command.Whole

/-! How a session can end. It writes its file, or it tells the user of an error and leaves the files as
they are, or it breaks off: where a source or a file with annotations is no text, where a definition
cannot be printed or a use has no row, and where the output that is asked for cannot be written. Where
the text of the document has no encoding it breaks off too, and leaves an empty file. A document is never
refused, a source that is a file is always read, and a name that is found is written. -/

namespace Literate

namespace Store

variable {s : Store} {p : Path}

/-- The bytes at a path are no text. -/
def NoText (s : Store) (p : Path) (e : Utf8.Invalid) : Prop :=
  ∃ bytes, s.read p = .ok bytes ∧ Utf8.decode bytes = .error e

theorem noText_of_text {e : Utf8.Invalid} (h : s.text p = .error (.notText e)) : s.NoText p e := by
  unfold text at h
  split at h
  · cases h
  · next bytes hread =>
    split at h
    · next hdecode =>
      cases h
      exact ⟨bytes, hread, hdecode⟩
    · cases h

theorem read_of_text {e : FileError} (h : s.text p = .error (.file e)) : s.read p = .error e := by
  unfold text at h
  split at h
  · next hread =>
    cases h
    exact hread
  · split at h <;> cases h

theorem text_of_annotations {e : TextError} (h : s.annotations p = .error (.text e)) :
    s.text p = .error e := by
  unfold annotations at h
  split at h
  · next htext =>
    cases h
    exact htext
  · split at h <;> cases h

/-- The tokens of a file that is loaded count from zero. -/
theorem natural_annotations {f : AnnotationFile} (h : s.annotations p = .ok f) :
    ∀ t ∈ f.tokenList, t.span.Natural := by
  unfold annotations at h
  split at h
  · cases h
  · split at h
    · cases h
    · next hparsed =>
      cases h
      unfold AnnotationFile.ofText at hparsed
      split at hparsed
      · cases hparsed
      · split at hparsed
        · cases hparsed
        · next hvalid =>
          cases hparsed
          exact (AnnotationFile.natural_of_ofJson hvalid).1

end Store

theorem Options.natural_of_mem_producers {o : Options} {source : Path} {ps : List Producer}
    (h : o.producers source = .ok ps) : ∀ p ∈ ps, p.Natural := by
  intro p hp
  rcases own_of_mem_producers h hp with rfl | rfl | ⟨l, rfl⟩ <;> trivial

namespace SessionError

theorem line_eq (e : SessionError) : ∃ text, e.line = "Error: " ++ text := by
  cases e with
  | analysis e => exact ⟨"analysis failed: " ++ e.message, rfl⟩
  | _ => exact ⟨_, rfl⟩

end SessionError

namespace Session

variable {grammars : Grammars} {s : Store} {today : Date} {a : Arguments} {source : Path}

theorem natural_of_builds {own : List Producer} {loaded : List (String × AnnotationFile)}
    (hown : a.producers source = .ok own)
    (hloaded : ∀ l ∈ loaded, l.1 ∈ a.annotations ∧ s.annotations (Path.ofText l.1) = .ok l.2) :
    ∀ p ∈ own ++ loaded.map fun (name, f) => Producer.elsewhere name (.ok f.tokenList), p.Natural := by
  refine List.forall_mem_append.mpr ⟨Options.natural_of_mem_producers hown, ?_⟩
  exact List.forall_mem_map.mpr fun l hl => Store.natural_annotations (hloaded l hl).2

/-- A document that is built is never refused. -/
theorem presentable_of_builds {d : Document} (h : Builds grammars s a.toOptions source (.ok d)) :
    d.Presentable := by
  obtain ⟨text, own, loaded, prose, -, hown, hloaded, -, hbuild⟩ := h
  exact presentable_buildDocument (natural_of_builds hown hloaded) hbuild

/-- An error of the symbols comes from the text of the source. -/
theorem symbols_of_builds {e : Script.SymbolError}
    (h : Builds grammars s a.toOptions source (.error (.symbols e))) :
    ∃ text, s.text source = .ok text ∧ Script.symbols text = .error e := by
  obtain ⟨text, own, loaded, prose, htext, -, -, -, hbuild⟩ := h
  refine ⟨text, htext, ?_⟩
  rcases error_of_buildDocument hbuild with ⟨p, hp, htokens⟩ | ⟨t, ht⟩
  · cases p with
    | lexemes => cases htokens
    | symbols =>
      rw [Producer.tokens] at htokens
      split at htokens
      · cases htokens
      · next hsymbols =>
        cases htokens
        exact hsymbols
    | tree l =>
      rw [Producer.tokens] at htokens
      split at htokens <;> cases htokens
    | elsewhere label found => cases found <;> cases htokens
  · cases ht

/-- A name for the output that is found can be written. -/
theorem write_outputOf (hhere : ∀ n ∈ s.here, '/' ∉ n.toList)
    (hfile : s.kind? (sourceOf s a) = some .file) (hoption : a.output = none ∨ a.output = some "")
    (f : Format) (bytes : List UInt8) : ∃ s', s.write (outputOf s today a f) bytes = .ok s' := by
  have source : s.Source (sourceOf s a) := Store.source_resolve hhere hfile
  obtain ⟨n, hfree, -, hrun⟩ := source.freeOutput_run (if a.date then some today else none) f
  have path : outputOf s today a f = outputPath (if a.date then some today else none) (sourceOf s a)
      f.suffix n := by
    rw [outputOf, outputFor]
    rcases hoption with h | h <;> rw [h] <;> exact congrArg Prod.fst hrun
  exact ⟨_, path ▸ source.write_output hfree.free bytes⟩

/-- where a session breaks off without a word to the user -/
inductive Breaks (s : Store) (a : Arguments) : SessionError → Prop where
  | source {e : Utf8.Invalid} : s.NoText (sourceOf s a) e → Breaks s a (.source (.notText e))
  | annotations {name : String} {e : Utf8.Invalid} : name ∈ a.annotations →
    s.NoText (Path.ofText name) e → Breaks s a (.annotations (.text (.notText e)))
  | symbols {text : String} {e : Script.SymbolError} : s.text (sourceOf s a) = .ok text →
    Script.symbols text = .error e → (∀ x, e ≠ .unreadable x) → Breaks s a (.analysis (.symbols e))
  | output {name : String} {bytes : List UInt8} {e : FileError} : a.output = some name → name ≠ "" →
    s.write (Path.ofText name) bytes = .error e → Breaks s a (.output (.file e))

/-- Of the errors that no user is told, each has a cause outside the session. -/
theorem breaks_of_cause {e : SessionError} (hcause : Cause grammars s a e) (hquiet : e.told = false) :
    Breaks s a e := by
  cases e with
  | noFile p => cases hquiet
  | unknownFormat f => cases hquiet
  | selection e => cases hquiet
  | source e =>
    obtain ⟨hfile, htext⟩ := hcause
    cases e with
    | notText e => exact .source (Store.noText_of_text htext)
    | file e =>
      obtain ⟨bytes, hread⟩ := Store.read_of_kind? hfile
      rw [Store.read_of_text htext] at hread
      cases hread
  | annotations e =>
    obtain ⟨name, hname, hload⟩ := hcause
    cases e with
    | annotations e => cases hquiet
    | text e =>
      cases e with
      | file e => cases hquiet
      | notText e =>
        exact .annotations hname (Store.noText_of_text (Store.text_of_annotations hload))
  | analysis e =>
    cases e with
    | tree e => cases hquiet
    | elsewhere reason => cases hquiet
    | symbols e =>
      obtain ⟨text, htext, hsymbols⟩ := symbols_of_builds hcause
      refine .symbols htext hsymbols fun x hx => ?_
      subst hx
      cases hquiet
  | document b =>
    obtain ⟨d, hd, hrender⟩ := hcause
    -- all tokens count from zero, so the blocks keep to their schema
    have accepted := Blocks.render_eq_ok_iff.mpr ⟨presentable_of_builds hd, rfl⟩
    rw [hrender] at accepted
    cases accepted
  | output e => exact hcause.elim

/-- What cannot be written was asked for by name. -/
theorem breaks_of_write (hhere : ∀ n ∈ s.here, '/' ∉ n.toList)
    (hfile : s.kind? (sourceOf s a) = some .file) {f : Format} {bytes : List UInt8} {e : FileError}
    (hwrite : s.write (outputOf s today a f) bytes = .error e) : Breaks s a (.output (.file e)) := by
  -- an empty name is none
  by_cases hoption : a.output = none ∨ a.output = some ""
  · obtain ⟨s', hok⟩ : ∃ s', s.write (outputOf s today a f) bytes = .ok s' :=
      write_outputOf hhere hfile hoption f _
    rw [hok] at hwrite
    cases hwrite
  · rw [not_or] at hoption
    obtain ⟨name, hname⟩ := Option.ne_none_iff_exists'.mp hoption.1
    have nonempty : name ≠ "" := fun h => hoption.2 (h ▸ hname)
    have path : outputOf s today a f = Path.ofText name := by
      rw [outputOf, outputFor, hname]
      split
      · next h => cases h
      · next h => exact absurd (Option.some.inj h) nonempty
      · next h => rw [Option.some.inj h]; rfl
    exact .output hname nonempty (path ▸ hwrite)

end Session

/-- A session writes the text of its document to its file, or ends with an error and the files as they
were, or makes an empty file where that text has no encoding, which happens only if halves of surrogate
pairs came into the session. It tells the user of an error in its last line, unless it breaks off. This is
of files with annotations whose coordinates are integers. -/
theorem runSession_outcome (settings : Settings) (grammars : Grammars) (today : Date) (a : Arguments)
    (s : Store) (hhere : ∀ n ∈ s.here, '/' ∉ n.toList) (_ : Session.Indexed s a) :
    ∃ r s', (runSession settings grammars Store.fileSystem today a).run s = (r, s') ∧
      ((r.error = none ∧ ∃ f text, Format.ofKey? a.format = some f ∧
          Session.Rendered settings grammars s a f (text.map Code.char) ∧
          s.write (Session.outputOf s today a f) (Utf8.encode text) = .ok s' ∧
          s'.read (Session.outputOf s today a f) = .ok (Utf8.encode text)) ∨
        (∃ e, r.error = some e ∧ s' = s ∧
          ((e.told = true ∧ ∃ before text, r.lines = before ++ ["Error: " ++ text]) ∨
            (e.told = false ∧ Session.Breaks s a e))) ∨
        ¬ Session.Whole settings s a ∧ ∃ f text e, Format.ofKey? a.format = some f ∧
          Session.Rendered settings grammars s a f text ∧
          Utf8.encodeCodes text = .error e ∧ r.error = some (.output (.notEncoded e)) ∧
          s.write (Session.outputOf s today a f) [] = .ok s' ∧
          s'.read (Session.outputOf s today a f) = .ok []) := by
  obtain ⟨r, s', hrun, ⟨hok, f, text, hf, -, rendered, writes⟩ | ⟨e, lines, he, hlines, hend⟩⟩ :=
    runSession_cases settings grammars today a s
  · cases writes with
    | @written cs _ htext hwrite =>
      exact ⟨r, s', hrun, .inl ⟨hok, f, cs, hf, htext ▸ rendered, hwrite, Store.read_of_write hwrite⟩⟩
  · refine ⟨r, s', hrun, .inr ?_⟩
    rcases hend with ⟨hsame, hcause⟩ | ⟨e', rfl, f, text, hf, hfile, rendered, writes⟩
    · refine .inl ⟨e, he, hsame, ?_⟩
      cases htold : e.told with
      | true =>
        obtain ⟨text, hline⟩ := e.line_eq
        exact .inl ⟨rfl, lines, text, by rw [hlines, htold, if_pos rfl, hline]⟩
      | false => exact .inr ⟨rfl, Session.breaks_of_cause hcause htold⟩
    · cases writes with
      | refused hwrite =>
        exact .inl ⟨_, he, rfl, .inr ⟨rfl, Session.breaks_of_write hhere hfile hwrite⟩⟩
      | emptied hencode hwrite =>
        exact .inr ⟨Session.not_whole_of_encode rendered hencode, f, text, _, hf, rendered, hencode, he,
          hwrite, Store.read_of_write hwrite⟩

/-- The output is asked for in a directory that is not there. -/
theorem runSession_outcome_no_directory :
    let s : Store := ⟨["w"], [(["w"], .directory), (["w", "a.py"], .file [120, 10]),
      (["w", "b.json"], .file (Utf8.encode "\x7b\"tokens\": [\x7b\"range\": [0, 0, 1]\x7d]\x7d".toList))]⟩
    let a : Arguments :=
      { format := "markdown", annotations := ["b.json"], date := false, analyzers := some "",
        noComments := true, output := some "d/o.md", source := "a.py" }
    (∀ n ∈ s.here, '/' ∉ n.toList) ∧ Session.Indexed s a ∧
    ((runSession {} {} Store.fileSystem ⟨2024, 5, 1⟩ a).run s).1.error.map SessionError.told = some false ∧
    ∃ r s', (runSession {} {} Store.fileSystem ⟨2024, 5, 1⟩ a).run s = (r, s') ∧
      ((r.error = none ∧ ∃ f text, Format.ofKey? a.format = some f ∧
          Session.Rendered {} {} s a f (text.map Code.char) ∧
          s.write (Session.outputOf s ⟨2024, 5, 1⟩ a f) (Utf8.encode text) = .ok s' ∧
          s'.read (Session.outputOf s ⟨2024, 5, 1⟩ a f) = .ok (Utf8.encode text)) ∨
        (∃ e, r.error = some e ∧ s' = s ∧
          ((e.told = true ∧ ∃ before text, r.lines = before ++ ["Error: " ++ text]) ∨
            (e.told = false ∧ Session.Breaks s a e))) ∨
        ¬ Session.Whole {} s a ∧ ∃ f text e, Format.ofKey? a.format = some f ∧
          Session.Rendered {} {} s a f text ∧
          Utf8.encodeCodes text = .error e ∧ r.error = some (.output (.notEncoded e)) ∧
          s.write (Session.outputOf s ⟨2024, 5, 1⟩ a f) [] = .ok s' ∧
          s'.read (Session.outputOf s ⟨2024, 5, 1⟩ a f) = .ok []) := by
  intro s a
  have indexed : Session.Indexed s a := by decide +kernel
  exact ⟨by decide, indexed, by decide +kernel, runSession_outcome _ _ _ _ _ (by decide) indexed⟩

/-- A file with annotations that is no text breaks a session off: no file is written, and no line tells the
user of an error. -/
theorem runSession_annotations_no_text :
    let s : Store := ⟨["w"], [(["w"], .directory), (["w", "a.py"], .file [120, 10]),
      (["w", "b.json"], .file [255])]⟩
    let a : Arguments := { format := "mdx", annotations := ["b.json"], date := false, source := "a.py" }
    let x := (runSession {} {} Store.fileSystem ⟨2024, 5, 1⟩ a).run s
    x.2 = s ∧ x.1.lines = ["Source: /w/a.py"] ∧ x.1.error.map SessionError.told = some false ∧
      ¬ (x.1.error = none ∨ ∃ before text, x.1.lines = before ++ ["Error: " ++ text]) := by
  intro s a x
  have lines : x.1.lines = ["Source: /w/a.py"] := by decide +kernel
  have told : x.1.error.map SessionError.told = some false := by decide +kernel
  refine ⟨by decide +kernel, lines, told, ?_⟩
  rintro (hnone | ⟨before, text, hlines⟩)
  · rw [hnone] at told
    cases told
  · rw [lines] at hlines
    have last := congrArg List.getLast? hlines
    rw [List.getLast?_concat] at last
    simp [← String.toList_inj] at last

end Literate
