import Literate.Command.Arguments
import Literate.File.Path
import Literate.Producer

/-! What is looked for in a source, by its name and by the options: which producers of tokens run, and
which language its comments are found by. -/

namespace Literate

inductive Analysis where
  | highlight | symbols
  deriving DecidableEq, Repr, Inhabited

namespace Analysis

/-- in the order of their names -/
def all : List Analysis := [highlight, symbols]

/-- the name that an analysis is chosen by -/
def key : Analysis → String
  | highlight => "highlight"
  | symbols => "symbols"

def ofKey? (s : String) : Option Analysis := all.find? (·.key = s)

/-- works by grammar, for all languages that have one -/
def general : Analysis → Bool
  | highlight => true
  | symbols => false

def forPython : Analysis → Producer
  | highlight => .lexemes
  | symbols => .symbols

end Analysis

/-- why nothing can be looked for -/
inductive SelectionError where
  | unknownAnalysis (key : String)
  | onlyPython (a : Analysis)
  | noGrammar (suffix : String)
  | unknownLanguage (language : String)
  deriving DecidableEq, Repr, Inhabited

def SelectionError.message : SelectionError → String
  | unknownAnalysis key =>
    "Unknown analyzer '" ++ key ++ "'. Available analyzers: " ++
      Text.join ", " (Analysis.all.map Analysis.key)
  | onlyPython a => "Analyzer '" ++ a.key ++ "' only supports Python sources"
  | noGrammar suffix => "No grammar for '" ++ suffix ++ "'; use --lang"
  | unknownLanguage l =>
    "Unsupported language '" ++ l ++ "'. Supported: " ++
      Text.join ", " (Language.names.mergeSort fun a b => a ≤ b)

/-- where prose comes from, apart from files with annotations -/
inductive ProseChoice where
  | off
  /-- no language goes with the suffix -/
  | noLanguage (suffix : String)
  | comments (language : Language.Known)

namespace ProseChoice

def language : ProseChoice → Option Language.Known
  | comments l => some l
  | _ => none

/-- what a user is told -/
def status : ProseChoice → List String
  | noLanguage suffix => ["  No comment language for '" ++ suffix ++ "'; prose extraction skipped"]
  | _ => []

end ProseChoice

/-- the pieces between commas, without blanks around them and without empty ones -/
def keysOf (s : String) : List String :=
  (((Text.splitAt ',' s.toList).map Text.trim).filter (· ≠ [])).map String.ofList

namespace Options

/-- the language that is asked for, or else that of the suffix -/
def language? (o : Options) (source : Path) : Option String :=
  match o.lang with
  | none | some "" => Language.ofSuffix? source.suffix
  | some l => some l

/-- The suffix makes a source Python whatever language is asked for. -/
def isPython (o : Options) (source : Path) : Bool :=
  Language.pythonSuffix source.suffix || (o.language? source).any Language.isPython

/-- the analysis with a key, if it goes with the source -/
def analysis (o : Options) (source : Path) (key : String) : Except SelectionError Analysis :=
  match Analysis.ofKey? key with
  | none => .error (.unknownAnalysis key)
  | some a => if o.isPython source || a.general then .ok a else .error (.onlyPython a)

/-- what is asked for, or else all that goes with the source -/
def analyses (o : Options) (source : Path) : Except SelectionError (List Analysis) :=
  match o.analyzers with
  | some s => (keysOf s).mapM (o.analysis source)
  | none =>
    if o.isPython source then .ok Analysis.all
    else if (o.language? source).any Language.known then .ok (Analysis.all.filter Analysis.general)
    else .ok []

def producers (o : Options) (source : Path) : Except SelectionError (List Producer) := do
  let as ← o.analyses source
  if o.isPython source then return as.map Analysis.forPython
  match as, (o.language? source).bind Language.known? with
  | [], _ => return []
  | as, some l => return as.map fun _ => .tree l
  | _, none => throw (.noGrammar source.suffix)

def prose (o : Options) (source : Path) : Except SelectionError ProseChoice :=
  if o.noComments then .ok .off
  else
    match o.language? source with
    | none => .ok (.noLanguage source.suffix)
    | some l =>
      match Language.known? l with
      | some l => .ok (.comments l)
      | none => .error (.unknownLanguage l)

end Options
end Literate
