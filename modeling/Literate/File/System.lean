import Literate.File.Path
import Literate.Text.Quoted

/-! What a program needs of the files around it, and why they refuse. -/

namespace Literate

inductive FileFault where
  | missing
  | notDirectory
  | isDirectory
  /-- any other cause that a system gives -/
  | other (code : Nat) (reason : String)
  deriving DecidableEq, Repr, Inhabited

namespace FileFault

/-- numbers as systems give them -/
def code : FileFault → Nat
  | missing => 2
  | notDirectory => 20
  | isDirectory => 21
  | other n _ => n

def reason : FileFault → String
  | missing => "No such file or directory"
  | notDirectory => "Not a directory"
  | isDirectory => "Is a directory"
  | other _ s => s

end FileFault

/-- a file that can be neither read nor written -/
structure FileError where
  fault : FileFault
  path : Path
  deriving DecidableEq, Repr, Inhabited

def FileError.message (e : FileError) : String :=
  "[Errno " ++ toString e.fault.code ++ "] " ++ e.fault.reason ++ ": " ++
    Text.quotedString e.path.text

/-- what stands at a path -/
inductive FileKind where
  | file | directory
  deriving DecidableEq, Repr, Inhabited

/-- files, with reading and writing as actions -/
structure FileSystem (m : Type → Type) where
  /-- the working directory -/
  here : m Path
  /-- nothing stands at a path that cannot be reached either -/
  kind? : Path → m (Option FileKind)
  read : Path → m (Except FileError (List UInt8))
  /-- makes or replaces a file -/
  write : Path → List UInt8 → m (Except FileError Unit)
  /-- no directory has more entries -/
  capacity : m Nat

end Literate
