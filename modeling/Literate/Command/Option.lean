import Literate.Settings
import Literate.Text.Digit

/-! The options of the command line, and its words. Long options may be shortened as long as only one
is meant; a value follows as the next word or behind an equals sign. -/

namespace Literate

/-- an option with a value -/
inductive Parameter where
  | format | annotations | analyzers | lang | output | wrapperStart | wrapperEnd
  deriving DecidableEq, Repr, Inhabited

/-- an option without a value -/
inductive Flag where
  | help | noComments | date (wanted : Bool) | verbose
  deriving DecidableEq, Repr, Inhabited

inductive CommandOption where
  | parameter (p : Parameter)
  | flag (f : Flag)
  deriving DecidableEq, Repr, Inhabited

namespace CommandOption

/-- how options are written, in the order in which a user is told of them -/
def spellings : List (String × CommandOption) :=
  [("-h", flag .help), ("--help", flag .help), ("--format", parameter .format),
    ("--annotations", parameter .annotations), ("--analyzers", parameter .analyzers),
    ("--lang", parameter .lang), ("--no-comments", flag .noComments),
    ("--output", parameter .output), ("--date", flag (.date true)),
    ("--no-date", flag (.date false)), ("--code-wrapper-start", parameter .wrapperStart),
    ("--code-wrapper-end", parameter .wrapperEnd), ("--verbose", flag .verbose)]

def ofSpelling? (s : String) : Option CommandOption := spellings.lookup s

/-- all spellings of an option, which messages name it by -/
def title : CommandOption → String
  | flag .help => "-h/--help"
  | parameter .format => "--format"
  | parameter .annotations => "--annotations"
  | parameter .analyzers => "--analyzers"
  | parameter .lang => "--lang"
  | flag .noComments => "--no-comments"
  | parameter .output => "--output"
  | flag (.date _) => "--date/--no-date"
  | parameter .wrapperStart => "--code-wrapper-start"
  | parameter .wrapperEnd => "--code-wrapper-end"
  | flag .verbose => "--verbose"

/-- how options are used -/
def usages : List String :=
  ["-h", "--format FORMAT", "--annotations ANNOTATIONS", "--analyzers ANALYZERS", "--lang LANG",
    "--no-comments", "--output OUTPUT", "--date | --no-date",
    "--code-wrapper-start CODE_WRAPPER_START", "--code-wrapper-end CODE_WRAPPER_END", "--verbose"]

/-- the options that a long one may be short for -/
def candidates (start : List Char) : List (String × CommandOption) :=
  spellings.filter fun (s, _) => start.isPrefixOf s.toList

end CommandOption

/-- a word of the command line -/
inductive Word where
  | plain (text : String)
  /-- an option, with what stands behind an equals sign -/
  | option (o : CommandOption) (value : Option String)
  /-- the short option for help with more behind it -/
  | cluster (letters : List Char)
  | unknown (text : String)
  /-- two dashes, for the first time -/
  | separator
  deriving DecidableEq, Repr, Inhabited

/-- a word that is short for several options -/
structure Ambiguity where
  word : String
  candidates : List String
  deriving DecidableEq, Repr, Inhabited

namespace Word

/-- a line feed at the very end is of no account -/
def bare (s : List Char) : List Char := if s.getLast? = some '\n' then s.dropLast else s

def isNumber (s : List Char) : Bool :=
  let whole := s.takeWhile Text.isDecimal
  match s.dropWhile Text.isDecimal with
  | [] => whole ≠ []
  | '.' :: places => places ≠ [] && places.all Text.isDecimal
  | _ => false

def isNegative (s : List Char) : Bool :=
  match s with
  | '-' :: rest => isNumber (bare rest)
  | _ => false

/-- a word with a dash in front that is no option -/
def rest (s : List Char) : Word :=
  if isNegative s || s.contains ' ' then plain (String.ofList s) else unknown (String.ofList s)

/-- what stands in front of the first equals sign, and what behind it -/
def cutValue (s : List Char) : List Char × Option String :=
  match s.dropWhile (· != '=') with
  | [] => (s, none)
  | _ :: value => (s.takeWhile (· != '='), some (String.ofList value))

def ofDashed (s : List Char) : Except Ambiguity Word :=
  let (name, value) := cutValue s
  match CommandOption.ofSpelling? (String.ofList name) with
  | some o => .ok (option o value)
  | none =>
    match s with
    | '-' :: '-' :: _ =>
      match CommandOption.candidates name with
      | [] => .ok (rest s)
      | [(_, o)] => .ok (option o value)
      | os => .error ⟨String.ofList s, os.map (·.1)⟩
    | '-' :: 'h' :: letters => .ok (cluster letters)
    | _ => .ok (rest s)

def ofText (s : String) : Except Ambiguity Word :=
  match s.toList with
  | '-' :: c :: cs => ofDashed ('-' :: c :: cs)
  | _ => .ok (plain s)

/-- the words in order; behind two dashes all are plain -/
def ofTexts : List String → Except Ambiguity (List Word)
  | [] => .ok []
  | s :: rest =>
    if s = "--" then .ok (separator :: rest.map plain)
    else do
      let w ← ofText s
      return w :: (← ofTexts rest)

end Word
end Literate
