import Literate.Command.Session
import Literate.Proofs.Command.Output
import Literate.Proofs.Text.Utf8

/-! What the steps of a session do in a store, by what each of them leaves behind: what it gives and the
store then, or why the session ends there and the store then. Only the last step writes, and a text that
has no encoding leaves an empty file. -/

namespace Literate

namespace Store

variable (s : Store) (p : Path)

/-- the text at a path -/
def text : Except TextError String :=
  match s.read p with
  | .error e => .error (.file e)
  | .ok bytes =>
    match Utf8.decode bytes with
    | .error e => .error (.notText e)
    | .ok cs => .ok (String.ofList (Text.unifyBreaks cs))

/-- the annotations in the file at a path -/
def annotations : Except LoadError AnnotationFile :=
  match s.text p with
  | .error e => .error (.text e)
  | .ok text =>
    match AnnotationFile.ofText p.text text with
    | .error e => .error (.annotations e)
    | .ok f => .ok f

theorem bind_run {α β : Type} {s s' : Store} {x : StateM Store α} {f : α → StateM Store β} {a : α}
    (h : x.run s = (a, s')) : (x >>= f).run s = (f a).run s' := by
  have unfolded : (x >>= f).run s = (f (x.run s).1).run (x.run s).2 := rfl
  rw [unfolded, h]

/-- Reading changes nothing. -/
theorem readText_run : (fileSystem.readText p).run s = (s.text p, s) := by
  have asked : (fileSystem.read p).run s = (s.read p, s) := rfl
  rw [FileSystem.readText, bind_run asked, text]
  cases s.read p with
  | error e => rfl
  | ok bytes => dsimp only; cases Utf8.decode bytes <;> rfl

theorem load_run : (AnnotationFile.load fileSystem p).run s = (s.annotations p, s) := by
  rw [AnnotationFile.load, bind_run (readText_run s p), annotations]
  cases s.text p with
  | error e => rfl
  | ok text => dsimp only; cases AnnotationFile.ofText p.text text <;> rfl

theorem write_run (bytes : List UInt8) :
    (∃ s', s.write p bytes = .ok s' ∧ (fileSystem.write p bytes).run s = (.ok (), s')) ∨
      ∃ e, s.write p bytes = .error e ∧ (fileSystem.write p bytes).run s = (.error e, s) := by
  cases hwrite : s.write p bytes with
  | ok s' => exact .inl ⟨s', rfl, by simp only [fileSystem, StateT.run, hwrite]⟩
  | error e => exact .inr ⟨e, rfl, by simp only [fileSystem, StateT.run, hwrite]⟩

/-- what becomes of a store in which a text is written -/
inductive Writes (w : Wording) : Except OutputError Unit → Store → Prop where
  | written {cs : List Char} {s' : Store} : w = cs.map Code.char →
    s.write p (Utf8.encode cs) = .ok s' → Writes w (.ok ()) s'
  | refused {bytes : List UInt8} {e : FileError} : s.write p bytes = .error e →
    Writes w (.error (.file e)) s
  | emptied {e : Utf8.Unencodable} {s' : Store} : Utf8.encodeCodes w = .error e →
    s.write p [] = .ok s' → Writes w (.error (.notEncoded e)) s'

theorem writeText_run (w : Wording) :
    ∃ result s', (fileSystem.writeText p w).run s = (result, s') ∧ s.Writes p w result s' := by
  unfold FileSystem.writeText
  cases hencode : Utf8.encodeCodes w with
  | ok bytes =>
    obtain ⟨cs, hw, rfl⟩ := Utf8.encodeCodes_eq_ok_iff.mp hencode
    rcases s.write_run p (Utf8.encode cs) with ⟨s', hwrite, hrun⟩ | ⟨e, hwrite, hrun⟩
    · exact ⟨.ok (), s', bind_run hrun, .written hw hwrite⟩
    · exact ⟨.error (.file e), s, bind_run hrun, .refused hwrite⟩
  | error e =>
    rcases s.write_run p [] with ⟨s', hwrite, hrun⟩ | ⟨e', hwrite, hrun⟩
    · exact ⟨.error (.notEncoded e), s', bind_run hrun, .emptied hencode hwrite⟩
    · exact ⟨.error (.file e'), s, bind_run hrun, .refused hwrite⟩

end Store

namespace Session

variable {α β ε : Type}

/-- steps from a report and a store on -/
def exec (x : Session (StateM Store) α) (r : Report) (s : Store) :
    (Except SessionError α × Report) × Store := (x.run.run r).run s

theorem exec_bind (x : Session (StateM Store) α) (f : α → Session (StateM Store) β) (r : Report)
    (s : Store) : exec (x >>= f) r s =
      match exec x r s with
      | ((.ok a, r'), s') => exec (f a) r' s'
      | ((.error e, r'), s') => ((.error e, r'), s') := by
  unfold exec
  rw [ExceptT.run_bind, StateT.run_bind, StateT.run_bind]
  rcases (x.run.run r).run s with ⟨⟨_ | _, _⟩, _⟩ <;> rfl

/-- Whatever was told before, the steps give a value and a store as in `Q`, or end the session with an
error and a store as in `E`; they set no error in the report themselves. -/
def Yields (s : Store) (x : Session (StateM Store) α) (Q : α → Store → Prop)
    (E : SessionError → Store → Prop) : Prop :=
  ∀ r, ∃ result r' s', exec x r s = ((result, r'), s') ∧ r'.error = r.error ∧
    match result with
    | .ok a => Q a s'
    | .error e => E e s'

namespace Yields

variable {s : Store} {Q : α → Store → Prop} {Q' : β → Store → Prop} {E : SessionError → Store → Prop}

theorem pure {a : α} (h : Q a s) : Yields s (Pure.pure a) Q E := fun r =>
  ⟨.ok a, r, s, rfl, rfl, h⟩

theorem mono {E' : SessionError → Store → Prop} {x : Session (StateM Store) α} (h : Yields s x Q E)
    (hE : ∀ e s', E e s' → E' e s') : Yields s x Q E' := by
  intro r
  obtain ⟨result, r', s', hexec, hreport, hresult⟩ := h r
  refine ⟨result, r', s', hexec, hreport, ?_⟩
  cases result with
  | ok a => exact hresult
  | error e => exact hE e s' hresult

theorem throw {e : SessionError} (h : E e s) : Yields s (throw e) Q E := fun r =>
  ⟨.error e, r, s, rfl, rfl, h⟩

theorem bind {x : Session (StateM Store) α} {f : α → Session (StateM Store) β} (hx : Yields s x Q E)
    (hf : ∀ a s', Q a s' → Yields s' (f a) Q' E) : Yields s (x >>= f) Q' E := by
  intro r
  obtain ⟨result, r₁, s₁, hexec, hreport, hresult⟩ := hx r
  cases result with
  | error e => exact ⟨.error e, r₁, s₁, by rw [exec_bind, hexec], hreport, hresult⟩
  | ok a =>
    obtain ⟨result, r₂, s₂, hexec', hreport', hresult'⟩ := hf a s₁ hresult r₁
    exact ⟨result, r₂, s₂, by rw [exec_bind, hexec]; exact hexec', hreport'.trans hreport, hresult'⟩

theorem lift {x : StateM Store α} {a : α} {s' : Store} (hx : x.run s = (a, s')) (h : Q a s') :
    Yields s (liftM x) Q E := fun r =>
  ⟨.ok (x.run s).1, r, (x.run s).2, rfl, rfl, by rw [hx]; exact h⟩

theorem tell {lines : List String} {Q : Unit → Store → Prop} (h : Q () s) :
    Yields s (Session.tell lines) Q E := fun _ => ⟨.ok (), _, s, rfl, rfl, h⟩

theorem warn {notices : List Notice} {Q : Unit → Store → Prop} (h : Q () s) :
    Yields s (Session.warn notices) Q E := fun _ => ⟨.ok (), _, s, rfl, rfl, h⟩

theorem fromExcept {cause : ε → SessionError} {x : Except ε α} (hok : ∀ a, x = .ok a → Q a s)
    (herror : ∀ e, x = .error e → E (cause e) s) : Yields s (Session.fromExcept cause x) Q E := by
  cases x with
  | ok a => exact pure (hok a rfl)
  | error e => exact throw (herror e rfl)

theorem fromOption {e : SessionError} {x : Option α} (hsome : ∀ a, x = some a → Q a s)
    (hnone : x = none → E e s) : Yields s (Session.fromOption e x) Q E := by
  cases x with
  | some a => exact pure (hsome a rfl)
  | none => exact throw (hnone rfl)

theorem act {cause : ε → SessionError} {x : StateM Store (Except ε α)} {y : Except ε α} {s' : Store}
    (hx : x.run s = (y, s')) (hok : ∀ a, y = .ok a → Q a s')
    (herror : ∀ e, y = .error e → E (cause e) s') : Yields s (Session.act cause x) Q E :=
  bind (Q := fun z t => z = y ∧ t = s') (lift hx ⟨rfl, rfl⟩) fun z t h => by
    rw [h.1, h.2]
    exact fromExcept hok herror

/-- One after another, each from the store as it was. -/
theorem mapM {f : α → Session (StateM Store) β} {P : β → Prop} {as : List α}
    (h : ∀ a ∈ as, Yields s (f a) (fun b s' => s' = s ∧ P b) E) :
    Yields s (as.mapM f) (fun bs s' => s' = s ∧ ∀ b ∈ bs, P b) E := by
  induction as with
  | nil => exact pure ⟨rfl, by simp⟩
  | cons a as ih =>
    obtain ⟨ha, has⟩ := List.forall_mem_cons.mp h
    rw [List.mapM_cons]
    refine bind ha ?_
    rintro b s' ⟨rfl, hb⟩
    refine bind (ih has) ?_
    rintro bs s' ⟨rfl, hbs⟩
    exact pure ⟨rfl, List.forall_mem_cons.mpr ⟨hb, hbs⟩⟩

end Yields

/-- All files with annotations that can be loaded have integers for coordinates. -/
def Indexed (s : Store) (a : Arguments) : Prop :=
  ∀ name ∈ a.annotations, ∀ f, s.annotations (Path.ofText name) = .ok f → f.Integral

instance (s : Store) (a : Arguments) : Decidable (Indexed s a) :=
  decidable_of_iff
    (∀ name ∈ a.annotations, ∀ f ∈ (s.annotations (Path.ofText name)).toOption, f.Integral) <| by
    refine forall₂_congr fun name _ => forall_congr' fun f => ?_
    cases s.annotations (Path.ofText name) <;> simp [Except.toOption]

/-- what is built from the text of the source, from the files with annotations, and by the options -/
def Builds (grammars : Grammars) (s : Store) (o : Options) (source : Path)
    (x : Except ProducerError Document) : Prop :=
  ∃ (text : String) (own : List Producer) (loaded : List (String × AnnotationFile)) (prose : ProseChoice),
    s.text source = .ok text ∧ o.producers source = .ok own ∧
    (∀ l ∈ loaded, l.1 ∈ o.annotations ∧ s.annotations (Path.ofText l.1) = .ok l.2) ∧
    o.prose source = .ok prose ∧
    (buildDocument grammars text source.name
      (own ++ loaded.map fun (name, f) => .elsewhere name (.ok f.tokenList))
      ⟨prose.language, loaded.flatMap fun (_, f) => f.commentList⟩).1 = x

/-- the source that arguments name, seen from the working directory -/
def sourceOf (s : Store) (a : Arguments) : Path := Path.resolve ⟨.slash, s.here⟩ (Path.ofText a.source)

/-- where the output goes -/
def outputOf (s : Store) (today : Date) (a : Arguments) (f : Format) : Path :=
  ((outputFor (m := StateM Store) Store.fileSystem today a.toOptions (sourceOf s a) f.suffix).run s).1

/-- the text of a document that is built -/
def Rendered (settings : Settings) (grammars : Grammars) (s : Store) (a : Arguments) (f : Format)
    (text : Wording) : Prop :=
  ∃ d, Builds grammars s a.toOptions (sourceOf s a) (.ok d) ∧
    (Renderer.ofFormat settings a.wrapperStart a.wrapperEnd f).render d = .ok text

/-- the one thing that a session does to a store -/
def Saves (settings : Settings) (grammars : Grammars) (s : Store) (today : Date) (a : Arguments)
    (result : Except OutputError Unit) (s' : Store) : Prop :=
  ∃ f text, Format.ofKey? a.format = some f ∧ s.kind? (sourceOf s a) = some .file ∧
    Rendered settings grammars s a f text ∧ s.Writes (outputOf s today a f) text result s'

/-- what each error of a session comes from that ends it before it writes -/
def Cause (grammars : Grammars) (s : Store) (a : Arguments) : SessionError → Prop
  | .noFile p => p = sourceOf s a ∧ s.kind? p ≠ some .file
  | .unknownFormat f => f = a.format ∧ Format.ofKey? f = none
  | .source e => s.kind? (sourceOf s a) = some .file ∧ s.text (sourceOf s a) = .error e
  | .selection e => a.producers (sourceOf s a) = .error e ∨ a.prose (sourceOf s a) = .error e
  | .annotations e => ∃ name ∈ a.annotations, s.annotations (Path.ofText name) = .error e
  | .analysis e => Builds grammars s a.toOptions (sourceOf s a) (.error e)
  | .document b => ∃ d, Builds grammars s a.toOptions (sourceOf s a) (.ok d) ∧ Blocks.render d = .error b
  | .output _ => False

section

variable (grammars : Grammars) (a : Arguments) (s : Store)

theorem loadFile_yields {name : String} (hname : name ∈ a.annotations) :
    Yields s (loadFile Store.fileSystem name)
      (fun l s' => s' = s ∧ l.1 ∈ a.annotations ∧ s.annotations (Path.ofText l.1) = .ok l.2)
      (fun e s' => s' = s ∧ Cause grammars s a e) := by
  refine Yields.bind (Q := fun f s' => s' = s ∧ s.annotations (Path.ofText name) = .ok f)
    (Yields.act (s.load_run _) (fun _ hf => ⟨rfl, hf⟩) fun _ he => ⟨rfl, name, hname, he⟩) ?_
  rintro f s' ⟨rfl, hf⟩
  exact Yields.bind (Q := fun _ s'' => s'' = s') (Yields.tell rfl) fun _ _ h =>
    Yields.pure ⟨h, hname, hf⟩

theorem document_yields (hfile : s.kind? (sourceOf s a) = some .file) :
    Yields s (document grammars Store.fileSystem a.toOptions (sourceOf s a))
      (fun d s' => s' = s ∧ Builds grammars s a.toOptions (sourceOf s a) (.ok d))
      (fun e s' => s' = s ∧ Cause grammars s a e) := by
  refine Yields.bind (Q := fun text s' => s' = s ∧ s.text (sourceOf s a) = .ok text)
    (Yields.act (s.readText_run _) (fun _ h => ⟨rfl, h⟩) fun _ h => ⟨rfl, hfile, h⟩) ?_
  rintro text s' ⟨rfl, htext⟩
  refine Yields.bind (Q := fun own s'' => s'' = s' ∧ a.producers (sourceOf s' a) = .ok own)
    (Yields.fromExcept (fun _ h => ⟨rfl, h⟩) fun _ h => ⟨rfl, .inl h⟩) ?_
  rintro own s ⟨rfl, hown⟩
  refine Yields.bind (Yields.mapM fun _ hname => loadFile_yields grammars a s hname) ?_
  rintro loaded s' ⟨rfl, hloaded⟩
  refine Yields.bind (Q := fun prose s'' => s'' = s' ∧ a.prose (sourceOf s' a) = .ok prose)
    (Yields.fromExcept (fun _ h => ⟨rfl, h⟩) fun _ h => ⟨rfl, .inr h⟩) ?_
  rintro prose s ⟨rfl, hprose⟩
  have built (x : Except ProducerError Document) (hx : (buildDocument grammars text (sourceOf s a).name
      (own ++ loaded.map fun (name, f) => .elsewhere name (.ok f.tokenList))
      ⟨prose.language, loaded.flatMap fun (_, f) => f.commentList⟩).1 = x) :
      Builds grammars s a.toOptions (sourceOf s a) x :=
    ⟨text, own, loaded, prose, htext, hown, hloaded, hprose, hx⟩
  refine Yields.bind (Q := fun _ s' => s' = s) (Yields.tell rfl) ?_
  rintro - s' rfl
  refine Yields.bind (Q := fun _ s => s = s') (Yields.tell rfl) ?_
  rintro - s rfl
  refine Yields.bind (Q := fun _ s' => s' = s) (Yields.warn rfl) ?_
  rintro - s' rfl
  refine Yields.bind (Q := fun d s => s = s' ∧ Builds grammars s' a.toOptions (sourceOf s' a) (.ok d))
    (Yields.fromExcept (fun d h => ⟨rfl, built _ h⟩) fun e h => ⟨rfl, built _ h⟩) ?_
  rintro d s ⟨rfl, hd⟩
  exact Yields.bind (Q := fun _ s' => s' = s) (Yields.tell rfl) fun _ _ h => Yields.pure ⟨h, hd⟩

variable (today : Date)

theorem outputFor_run (f : Format) :
    (outputFor (m := StateM Store) Store.fileSystem today a.toOptions (sourceOf s a) f.suffix).run s =
      (outputOf s today a f, s) := by
  refine Prod.ext rfl ?_
  have free (date : Option Date) :
      ((Store.fileSystem.freeOutput date (sourceOf s a) f.suffix).run s).2 = s := by
    obtain ⟨n, -, -, hrun, -⟩ := Store.firstFree_run (outputPath date (sourceOf s a) f.suffix) s
      s.entries.length 1
    exact congrArg Prod.snd hrun
  unfold outputFor
  split
  · exact free _
  · exact free _
  · rfl

/-- Only blocks can be refused, whatever the settings are. -/
theorem render_error {settings : Settings} {start stop : Option Wording} {f : Format} {d : Document}
    {b : Breach} (h : (Renderer.ofFormat settings start stop f).render d = .error b) :
    Blocks.render d = .error b := by
  cases f with
  | json => exact h
  | _ => cases h

/-- A session ends with an error and the files as they were, or with the one write that it makes. -/
theorem steps_yields (settings : Settings) :
    Yields s (steps settings grammars Store.fileSystem today a)
      (fun _ => Saves settings grammars s today a (.ok ()))
      (fun e s' => (s' = s ∧ Cause grammars s a e) ∨
        ∃ e', e = .output e' ∧ Saves settings grammars s today a (.error e') s') := by
  refine Yields.bind (Q := fun here s' => s' = s ∧ here = ⟨.slash, s.here⟩)
    (Yields.lift rfl ⟨rfl, rfl⟩) ?_
  rintro here s' ⟨rfl, rfl⟩
  refine Yields.bind (Q := fun kind s => s = s' ∧ kind = s'.kind? (sourceOf s' a))
    (Yields.lift rfl ⟨rfl, rfl⟩) ?_
  rintro kind s ⟨rfl, rfl⟩
  dsimp only
  split_ifs with hfile
  · exact Yields.bind (Q := fun _ _ => False) (Yields.throw (.inl ⟨rfl, rfl, hfile⟩)) fun _ _ h =>
      h.elim
  rw [not_not] at hfile
  -- from here on the store is the same one up to the write, so each cause speaks of the store at the start
  refine Yields.bind (Q := fun f s' => s' = s ∧ Format.ofKey? a.format = some f)
    (Yields.fromOption (fun _ h => ⟨rfl, h⟩) fun h => .inl ⟨rfl, rfl, h⟩) ?_
  rintro f s' ⟨rfl, hf⟩
  refine Yields.bind (Q := fun _ s => s = s') (Yields.tell rfl) ?_
  rintro - s rfl
  refine Yields.bind ((document_yields grammars a s hfile).mono fun _ _ => .inl) ?_
  rintro d s' ⟨rfl, hd⟩
  refine Yields.bind (Q := fun _ s => s = s') (Yields.tell rfl) ?_
  rintro - s rfl
  refine Yields.bind (Q := fun text s' => s' = s ∧ Rendered settings grammars s a f text)
    (Yields.fromExcept (fun _ h => ⟨rfl, d, hd, h⟩) fun b hb => .inl ⟨rfl, d, hd, render_error hb⟩) ?_
  rintro text s' ⟨rfl, rendered⟩
  refine Yields.bind (Q := fun path s => s = s' ∧ path = outputOf s' today a f)
    (Yields.lift (outputFor_run a s' today f) ⟨rfl, rfl⟩) ?_
  rintro path s ⟨rfl, rfl⟩
  obtain ⟨result, s', hrun, writes⟩ := s.writeText_run (outputOf s today a f) text
  have saves : Saves settings grammars s today a result s' := ⟨f, text, hf, hfile, rendered, writes⟩
  refine Yields.bind (Q := fun _ => Saves settings grammars s today a (.ok ()))
    (Yields.act hrun (fun _ h => h ▸ saves) fun e h => .inr ⟨e, rfl, h ▸ saves⟩)
    fun _ _ h => Yields.tell h

end
end Session

theorem runSession_cases (settings : Settings) (grammars : Grammars) (today : Date) (a : Arguments)
    (s : Store) : ∃ report s',
      (runSession settings grammars Store.fileSystem today a).run s = (report, s') ∧
      ((report.error = none ∧ Session.Saves settings grammars s today a (.ok ()) s') ∨
        ∃ e lines, report.error = some e ∧ (report.lines = lines ++ if e.told then [e.line] else []) ∧
          ((s' = s ∧ Session.Cause grammars s a e) ∨
            ∃ e', e = .output e' ∧ Session.Saves settings grammars s today a (.error e') s')) := by
  obtain ⟨result, r, s', hexec, hreport, hresult⟩ := Session.steps_yields grammars a s today settings {}
  have whole : StateT.run (ExceptT.run (Session.steps settings grammars Store.fileSystem today a) {}) s =
      ((result, r), s') := hexec
  rw [runSession, Store.bind_run whole]
  cases result with
  | ok _ => exact ⟨r, s', rfl, .inl ⟨hreport, hresult⟩⟩
  | error e => exact ⟨_, s', rfl, .inr ⟨e, r.lines, rfl, rfl, hresult⟩⟩

end Literate
