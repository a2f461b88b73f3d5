import Literate.AnnotationFile.Load
import Literate.Command.Output
import Literate.Command.Selection
import Literate.Render.Format

/-! One session: a source and files of annotations are read, and one file is written. All lines that a user
is told are kept in a report. -/

namespace Literate

/-- why a session ends without output -/
inductive SessionError where
  | noFile (path : Path)
  | unknownFormat (name : String)
  | source (e : TextError)
  | selection (e : SelectionError)
  | annotations (e : LoadError)
  | analysis (e : ProducerError)
  | document (b : Breach)
  | output (e : OutputError)
  deriving Repr, Inhabited

namespace SessionError

def message : SessionError → String
  | noFile p => "File not found: " ++ p.text
  | unknownFormat s =>
    "Unknown format '" ++ s ++ "'. Available formats: " ++ Text.join ", " (Format.all.map Format.key)
  | source e => e.message
  | selection e => e.message
  | annotations e => e.message
  | analysis e => e.message
  | document b => b.message
  | output e => e.message

/-- The user is told of these errors; every other one breaks the session off. -/
def told : SessionError → Bool
  | noFile _ | unknownFormat _ | selection _ => true
  | annotations (.text (.notText _)) => false
  | annotations _ => true
  | analysis (.symbols (.unreadable _)) => true
  | analysis (.symbols _) => false
  | analysis _ => true
  | source _ | document _ | output _ => false

/-- what a user is told of an error -/
def line (e : SessionError) : String :=
  match e with
  | analysis e => "Error: analysis failed: " ++ e.message
  | e => "Error: " ++ e.message

end SessionError

structure Report where
  lines : List String := []
  notices : List Notice := []
  error : Option SessionError := none
  deriving Repr, Inhabited

/-- steps of a session, which may end it -/
abbrev Session (m : Type → Type) := ExceptT SessionError (StateT Report m)

namespace Session

variable {m : Type → Type} [Monad m]

def tell (lines : List String) : Session m Unit :=
  modify fun r => { r with lines := r.lines ++ lines }

def warn (notices : List Notice) : Session m Unit :=
  modify fun r => { r with notices := r.notices ++ notices }

def fromExcept {ε α : Type} (cause : ε → SessionError) (x : Except ε α) : Session m α :=
  match x with
  | .ok a => return a
  | .error e => throw (cause e)

def fromOption {α : Type} (e : SessionError) (x : Option α) : Session m α :=
  match x with
  | some a => return a
  | none => throw e

/-- an action on files, whose error ends the session -/
def act {ε α : Type} (cause : ε → SessionError) (x : m (Except ε α)) : Session m α := do
  fromExcept cause (← x)

/-- the annotations of a file by its name as it is written -/
def loadFile (files : FileSystem m) (name : String) : Session m (String × AnnotationFile) := do
  let f ← act .annotations (AnnotationFile.load files (Path.ofText name))
  tell ["  Annotations: " ++ name ++ " (" ++ toString f.tokens.length ++ " tokens, " ++
    toString f.comments.length ++ " comments)"]
  return (name, f)

/-- the document of a source, from all that the options ask for -/
def document (grammars : Grammars) (files : FileSystem m) (o : Options) (source : Path) :
    Session m Document := do
  let text ← act .source (files.readText source)
  let own ← fromExcept .selection (o.producers source)
  let loaded ← o.annotations.mapM (loadFile files)
  let prose ← fromExcept .selection (o.prose source)
  tell prose.status
  let producers := own ++ loaded.map fun (name, f) => .elsewhere name (.ok f.tokenList)
  tell ["Analyzing with " ++ toString producers.length ++ " analyzer(s)..."]
  let (document, notices) := buildDocument grammars text source.name producers
    ⟨prose.language, loaded.flatMap fun (_, f) => f.commentList⟩
  warn notices
  let d ← fromExcept .analysis document
  tell ["  " ++ toString d.listings.length ++ " code block(s), " ++ toString d.prose.length ++
    " prose block(s)"]
  return d

/-- the path that is asked for, or else a free one next to the source -/
def outputFor (files : FileSystem m) (today : Date) (o : Options) (source : Path)
    (suffix : String) : m Path :=
  match o.output with
  | none | some "" => files.freeOutput (if o.date then some today else none) source suffix
  | some s => return Path.ofText s

def steps (settings : Settings) (grammars : Grammars) (files : FileSystem m) (today : Date)
    (a : Arguments) : Session m Unit := do
  let source := Path.resolve (← files.here) (Path.ofText a.source)
  if (← files.kind? source) ≠ some .file then
    throw (.noFile source)
  let format ← fromOption (.unknownFormat a.format) (Format.ofKey? a.format)
  tell ["Source: " ++ source.text]
  let d ← document grammars files a.toOptions source
  tell ["Rendering " ++ format.title ++ "..."]
  let renderer := Renderer.ofFormat settings a.wrapperStart a.wrapperEnd format
  let text ← fromExcept .document (renderer.render d)
  let path ← outputFor (m := m) files today a.toOptions source format.suffix
  act .output (files.writeText path text)
  tell [format.title ++ " generated at: " ++ path.text]

end Session

/-- a whole session, with the report of it -/
def runSession {m : Type → Type} [Monad m] (settings : Settings) (grammars : Grammars)
    (files : FileSystem m) (today : Date) (a : Arguments) : m Report := do
  match ← (Session.steps settings grammars files today a).run {} with
  | (.ok (), r) => return r
  | (.error e, r) =>
    return { r with lines := r.lines ++ (if e.told then [e.line] else []), error := some e }

end Literate
