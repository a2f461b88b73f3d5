import Literate.AnnotationFile
import Literate.File.Text

/-! Annotations loaded from files. -/

namespace Literate

/-- why a file gives no annotations -/
inductive LoadError where
  | text (e : TextError)
  | annotations (e : AnnotationFileError)
  deriving Repr, Inhabited

def LoadError.message : LoadError → String
  | text e => e.message
  | annotations e => e.message

def AnnotationFile.load {m : Type → Type} [Monad m] (files : FileSystem m) (p : Path) :
    m (Except LoadError AnnotationFile) := do
  match ← files.readText p with
  | .error e => return .error (.text e)
  | .ok text =>
    match AnnotationFile.ofText p.text text with
    | .error e => return .error (.annotations e)
    | .ok f => return .ok f

end Literate
