import Literate.File.System

/-! Where a run puts its output: next to the source, under a name that is free. -/

namespace Literate

/-- a day of the calendar -/
structure Date where
  year : Nat
  month : Nat
  day : Nat
  deriving DecidableEq, Repr, Inhabited

/-- a number in at least `width` digits -/
def padded (width n : Nat) : String :=
  let digits := toString n
  String.ofList (List.replicate (width - digits.length) '0') ++ digits

/-- year, month and day, with dashes between them -/
def Date.text (d : Date) : String :=
  padded 4 d.year ++ "-" ++ padded 2 d.month ++ "-" ++ padded 2 d.day

/-- the name of the `n`th output for a source; the first has no number -/
def outputName (date : Option Date) (name suffix : String) (n : Nat) : String :=
  let day := match date with
    | none => ""
    | some d => d.text ++ "-"
  day ++ name ++ (if n = 1 then "" else "-" ++ toString n) ++ suffix

/-- the path of the `n`th output, next to the source -/
def outputPath (date : Option Date) (source : Path) (suffix : String) (n : Nat) : Path :=
  source.parent.join (Path.ofText (outputName date source.name suffix n))

namespace FileSystem

variable {m : Type → Type} [Monad m]

/-- the first free path from the `n`th on; after so many that are not, the next one -/
def firstFree (files : FileSystem m) (candidate : Nat → Path) (n : Nat) : Nat → m Path
  | 0 => return candidate n
  | k + 1 => do
    match ← files.kind? (candidate n) with
    | none => return candidate n
    | some _ => firstFree files candidate (n + 1) k

/-- As there is one number more than entries in the directory, one is free. -/
def freeOutput (files : FileSystem m) (date : Option Date) (source : Path) (suffix : String) :
    m Path := do
  files.firstFree (outputPath date source suffix) 1 (← files.capacity)

end FileSystem
end Literate
