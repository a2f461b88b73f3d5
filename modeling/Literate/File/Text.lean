import Literate.File.System
import Literate.Text.LineBreak
import Literate.Text.Utf8

/-! Files of text. A file that is to hold a text without an encoding is left empty. -/

namespace Literate

/-- why a file has no text -/
inductive TextError where
  | file (e : FileError)
  | notText (e : Utf8.Invalid)
  deriving DecidableEq, Repr, Inhabited

def TextError.message : TextError → String
  | file e => e.message
  | notText e => e.message

/-- why a text is not written -/
inductive OutputError where
  | file (e : FileError)
  | notEncoded (e : Utf8.Unencodable)
  deriving DecidableEq, Repr, Inhabited

def OutputError.message : OutputError → String
  | file e => e.message
  | notEncoded e => e.message

namespace FileSystem

variable {m : Type → Type} [Monad m]

/-- the text of a file, with line feeds for line breaks of any kind -/
def readText (files : FileSystem m) (p : Path) : m (Except TextError String) := do
  match ← files.read p with
  | .error e => return .error (.file e)
  | .ok bytes =>
    match Utf8.decode bytes with
    | .error e => return .error (.notText e)
    | .ok s => return .ok (String.ofList (Text.unifyBreaks s))

/-- Files are opened, and so emptied, before there is anything to write. -/
def writeText (files : FileSystem m) (p : Path) (text : Wording) : m (Except OutputError Unit) := do
  match Utf8.encodeCodes text with
  | .ok bytes => return (← files.write p bytes).mapError .file
  | .error e =>
    match ← files.write p [] with
    | .error e => return .error (.file e)
    | .ok () => return .error (.notEncoded e)

end FileSystem
end Literate
