import Literate.AnnotationFile.Load
import Literate.Proofs.AnnotationFile.Written
import Literate.Proofs.Command.Session
import Literate.Proofs.Text.Utf8

/-! How the loading of annotations ends, whatever holds the files. There are annotations just where the
bytes are those of a text, the text is a JSON document, and the document has annotations. A file that is
not read, and a text without annotations, are told as such; bytes that are no text are not. -/

namespace Literate

/-- what is said of a load that fails: that the file cannot be read, or, behind the path of the file, what
is wrong with its text -/
inductive LoadError.Announced (p : Path) : LoadError → Prop where
  | file (e : FileError) : Announced p (.text (.file e))
  | annotations {e : AnnotationFileError} (rest : String) :
      e.message = p.text ++ ": " ++ rest → Announced p (.annotations e)

namespace AnnotationFile

variable {p : Path} {path text : String} {f : AnnotationFile} {bytes : List UInt8}

/-- what becomes of the bytes of a file, or of the reason why there are none -/
def loaded (p : Path) : Except FileError (List UInt8) → Except LoadError AnnotationFile
  | .error e => .error (.text (.file e))
  | .ok bytes =>
    match Utf8.decode bytes with
    | .error e => .error (.text (.notText e))
    | .ok s =>
      match ofText p.text (String.ofList (Text.unifyBreaks s)) with
      | .error e => .error (.annotations e)
      | .ok f => .ok f

/-- Loading is one reading of a file. -/
theorem load_eq_map {m : Type → Type} [Monad m] [LawfulMonad m] (files : FileSystem m) (p : Path) :
    load files p = loaded p <$> files.read p := by
  rw [load, FileSystem.readText, map_eq_pure_bind, bind_assoc]
  refine bind_congr fun r => ?_
  cases r with
  | error e => rw [pure_bind]; rfl
  | ok bytes =>
    dsimp only [loaded]
    cases Utf8.decode bytes with
    | error e => rw [pure_bind]
    | ok s =>
      rw [pure_bind]
      dsimp only
      cases ofText p.text (String.ofList (Text.unifyBreaks s)) <;> rfl

/-- In a store, the annotations at a path are what becomes of the bytes there. -/
theorem annotations_eq_loaded (s : Store) (p : Path) : s.annotations p = loaded p (s.read p) := by
  rw [Store.annotations, Store.text]
  cases s.read p with
  | error e => rfl
  | ok bytes =>
    dsimp only [loaded]
    cases Utf8.decode bytes <;> rfl

/-- Whatever is wrong with a text, the path is said first. -/
theorem exists_message_of_ofText {e : AnnotationFileError} (h : ofText path text = .error e) :
    ∃ rest, e.message = path ++ ": " ++ rest := by
  unfold ofText at h
  split at h
  · next e' _ =>
    obtain rfl := Except.error.inj h
    have parted : ": invalid JSON: " = ": " ++ "invalid JSON: " := rfl
    exact ⟨"invalid JSON: " ++ e'.message, by
      rw [AnnotationFileError.message, parted, ← String.append_assoc, String.append_assoc]⟩
  · split at h
    · next b _ =>
      obtain rfl := Except.error.inj h
      exact ⟨b.message, rfl⟩
    · cases h

theorem ofText_eq_ok_iff : ofText path text = .ok f ↔
    ∃ v, Json.read text = .ok v ∧ v.IsAnnotations ∧ f = ofValid v := by
  unfold ofText
  cases Json.read text with
  | error e => simp
  | ok v =>
    simp only [Except.ok.injEq, exists_eq_left']
    by_cases h : v.IsAnnotations
    · rw [ofJson_of_isAnnotations h]
      simp [h, eq_comm]
    · obtain ⟨b, hb⟩ := ofJson_of_not_isAnnotations h
      rw [hb]
      simp [h]

section

variable {r : Except FileError (List UInt8)}

theorem loaded_encode (s : List Char) : loaded p (.ok (Utf8.encode s)) =
    (ofText p.text (String.ofList (Text.unifyBreaks s))).mapError .annotations := by
  rw [loaded, Utf8.decode_eq_ok_iff.mpr rfl]
  dsimp only
  cases ofText p.text (String.ofList (Text.unifyBreaks s)) <;> rfl

theorem loaded_of_not_encode (h : ∀ s, bytes ≠ Utf8.encode s) :
    ∃ e, loaded p (.ok bytes) = .error (.text (.notText e)) := by
  cases hdecode : Utf8.decode bytes with
  | error e => exact ⟨e, by rw [loaded, hdecode]⟩
  | ok s => exact absurd (Utf8.decode_eq_ok_iff.mp hdecode) (h s)

/-- Annotations come from the bytes of a text that is a document with annotations, and from no others. -/
theorem loaded_eq_ok_iff : loaded p r = .ok f ↔
    ∃ s v, r = .ok (Utf8.encode s) ∧ Json.read (String.ofList (Text.unifyBreaks s)) = .ok v ∧
      v.IsAnnotations ∧ f = ofValid v := by
  constructor
  · intro h
    cases r with
    | error e => cases h
    | ok bytes =>
      by_cases htext : ∃ s, bytes = Utf8.encode s
      · obtain ⟨s, rfl⟩ := htext
        rw [loaded_encode] at h
        cases hread : ofText p.text (String.ofList (Text.unifyBreaks s)) with
        | error e =>
          rw [hread] at h
          cases h
        | ok g =>
          rw [hread] at h
          obtain rfl := Except.ok.inj h
          obtain ⟨v, hv, annotations⟩ := ofText_eq_ok_iff.mp hread
          exact ⟨s, v, rfl, hv, annotations⟩
      · obtain ⟨e, he⟩ := loaded_of_not_encode (p := p) (not_exists.mp htext)
        rw [he] at h
        cases h
  · rintro ⟨s, v, rfl, annotations⟩
    rw [loaded_encode, ofText_eq_ok_iff.mpr ⟨v, annotations⟩]
    rfl

theorem loaded_encode_announced (s : List Char) :
    (∃ f, loaded p (.ok (Utf8.encode s)) = .ok f) ∨
      ∃ e, loaded p (.ok (Utf8.encode s)) = .error e ∧ e.Announced p := by
  rw [loaded_encode]
  cases hread : ofText p.text (String.ofList (Text.unifyBreaks s)) with
  | ok f => exact .inl ⟨f, rfl⟩
  | error e =>
    obtain ⟨rest, hrest⟩ := exists_message_of_ofText hread
    exact .inr ⟨.annotations e, rfl, .annotations rest hrest⟩

end

/-- A load reads its file once. It ends with annotations or with an announced error just where the bytes
that it reads, if any, are those of a text, and with annotations just where this text is a document with
annotations. -/
theorem load_announced_iff {m : Type → Type} [Monad m] [LawfulMonad m] (files : FileSystem m) (p : Path) :
    load files p = loaded p <$> files.read p ∧
      ∀ r, (((∃ f, loaded p r = .ok f) ∨ ∃ e, loaded p r = .error e ∧ e.Announced p) ↔
          ∀ bytes, r = .ok bytes → ∃ s, bytes = Utf8.encode s) ∧
        ∀ f, loaded p r = .ok f ↔
          ∃ s v, r = .ok (Utf8.encode s) ∧ Json.read (String.ofList (Text.unifyBreaks s)) = .ok v ∧
            v.IsAnnotations ∧ f = ofValid v := by
  refine ⟨load_eq_map files p, fun r => ⟨⟨?_, fun h => ?_⟩, fun f => loaded_eq_ok_iff⟩⟩
  · rintro announced bytes rfl
    by_contra htext
    obtain ⟨e, he⟩ := loaded_of_not_encode (p := p) (not_exists.mp htext)
    rw [he] at announced
    rcases announced with ⟨f, hf⟩ | ⟨_, hnot, hannounced⟩
    · cases hf
    · cases hnot
      cases hannounced
  · cases r with
    | error e => exact .inr ⟨_, rfl, .file e⟩
    | ok bytes =>
      obtain ⟨s, rfl⟩ := h bytes rfl
      exact loaded_encode_announced s

/-- A document without keys is loaded. -/
theorem load_announced_empty_object :
    let s : Store := ⟨[], [(["b.json"], .file [123, 125])]⟩
    let p := Path.ofText "b.json"
    load Store.fileSystem p = loaded p <$> Store.fileSystem.read p ∧
      s.read p = .ok (Utf8.encode ['\x7b', '\x7d']) ∧
      ((∃ f, loaded p (s.read p) = .ok f) ∨ ∃ e, loaded p (s.read p) = .error e ∧ e.Announced p) ∧
      loaded p (s.read p) = .ok {} := by
  intro s p
  have bytes : s.read p = .ok (Utf8.encode ['\x7b', '\x7d']) := by decide +kernel
  have document : Json.read (String.ofList (Text.unifyBreaks ['\x7b', '\x7d'])) = .ok (.object []) := rfl
  obtain ⟨once, outcome⟩ := load_announced_iff Store.fileSystem p
  refine ⟨once, bytes, (outcome (s.read p)).1.mpr fun bs hbs => ?_, (outcome (s.read p)).2 {} |>.mpr ?_⟩
  · rw [bytes] at hbs
    exact ⟨_, (Except.ok.inj hbs).symm⟩
  · exact ⟨_, _, bytes, document, ⟨⟨_, rfl⟩, nofun, nofun⟩, rfl⟩

/-- A file of one byte that starts no character is neither loaded nor announced. -/
theorem load_no_text :
    let s : Store := ⟨[], [(["b.json"], .file [255])]⟩
    let p := Path.ofText "b.json"
    let r := ((load Store.fileSystem p).run s).1
    r = .error (.text (.notText ⟨.start, 0, 255, 1⟩)) ∧
      ¬ ((∃ f, r = .ok f) ∨ ∃ e, r = .error e ∧ e.Announced p) := by
  intro s p r
  have bytes : s.read p = .ok [255] := by decide +kernel
  have decoded : Utf8.decode [255] = .error ⟨.start, 0, 255, 1⟩ := by decide +kernel
  have hr : r = .error (.text (.notText ⟨.start, 0, 255, 1⟩)) := by
    rw [show r = s.annotations p from congrArg Prod.fst (Store.load_run s p), annotations_eq_loaded, bytes,
      loaded, decoded]
  refine ⟨hr, ?_⟩
  rw [hr]
  rintro (⟨f, hf⟩ | ⟨_, he, hannounced⟩)
  · cases hf
  · cases he
    cases hannounced

end AnnotationFile
end Literate
