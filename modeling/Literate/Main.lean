import Literate.Command.Session
import Std.Time.Format

/-! The program: files of the system, the clock and the environment around a session. -/

namespace Literate.Main

def faultOf : IO.Error → FileFault
  | .noFileOrDirectory .. => .missing
  | .inappropriateType _ code _ => if code = 20 then .notDirectory else .isDirectory
  | .permissionDenied _ code reason => .other code.toNat reason
  | e => .other 5 (toString e)

def attempt {α : Type} (p : Path) (x : IO α) : IO (Except FileError α) :=
  try return .ok (← x) catch e => return .error ⟨faultOf e, p⟩

/-- whatever is no file counts as a directory -/
def kindOf (p : Path) : IO (Option FileKind) := do
  let info ← attempt p ((← IO.currentDir) / p.text).metadata
  match info with
  | .error _ => return none
  | .ok info =>
    match info.type with
    | .file => return some .file
    | _ => return some .directory

/-- the files of the system -/
def files : FileSystem IO where
  here := return Path.ofText (← IO.currentDir).toString
  kind? := kindOf
  read p := attempt p (return (← IO.FS.readBinFile p.text).toList)
  write p bytes := attempt p (IO.FS.writeBinFile p.text ⟨bytes.toArray⟩)
  capacity := return 4294967296

def today : IO Date := do
  let d ← Std.Time.PlainDate.now
  return ⟨d.year.toInt.toNat, d.month.val.toNat, d.day.val.toNat⟩

def environment : IO Settings := do
  let names := ["CIRE_DEFAULT_FORMAT", "CIRE_DATE_PREFIX", "CIRE_LOG_LEVEL",
    "CIRE_CODE_WRAPPER_START", "CIRE_CODE_WRAPPER_END"]
  let values ← names.mapM fun n => return (n, ← IO.getEnv n)
  return Settings.ofVariables fun n => (values.lookup n).join

/-- levels at which warnings are not shown -/
def quiet (s : Settings) : Bool := ["ERROR", "CRITICAL", "FATAL"].contains s.logLevel

def start (settings : Settings) (a : Arguments) : IO UInt32 := do
  let report ← runSession settings {} files (← today) a
  unless quiet settings && !a.verbose do
    report.notices.forM fun n => IO.eprintln n.line
  report.lines.forM fun l => IO.eprintln l
  match report.error with
  | none => return 0
  | some e =>
    unless e.told do IO.eprintln e.message
    return 1

end Literate.Main

open Literate in
def main (words : List String) : IO UInt32 := do
  let settings ← Main.environment
  match Request.ofWords settings words with
  | .ok .help =>
    IO.println Request.usage
    return 0
  | .error e =>
    IO.eprintln Request.usage
    IO.eprintln e.line
    return 2
  | .ok (.run a) => Main.start settings a
