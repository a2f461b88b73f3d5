import Literate.Command.Option
import Literate.Text.Blank
import Literate.Text.Code
import Literate.Text.Quoted

/-! What a command line asks for. -/

namespace Literate

structure Options where
  format : String
  /-- files with annotations, in the order in which they are named -/
  annotations : List String := []
  analyzers : Option String := none
  lang : Option String := none
  noComments : Bool := false
  output : Option String := none
  date : Bool
  wrapperStart : Option Wording := none
  wrapperEnd : Option Wording := none
  verbose : Bool := false
  deriving DecidableEq, Repr, Inhabited

namespace Options

def ofSettings (s : Settings) : Options := { format := s.format, date := s.datePrefix }

/-- the last value of an option counts, but for annotations all do -/
def give (o : Options) (value : String) : Parameter → Options
  | .format => { o with format := value }
  | .annotations => { o with annotations := o.annotations ++ [value] }
  | .analyzers => { o with analyzers := some value }
  | .lang => { o with lang := some value }
  | .output => { o with output := some value }
  | .wrapperStart => { o with wrapperStart := some (codes value) }
  | .wrapperEnd => { o with wrapperEnd := some (codes value) }

/-- `none` where help is asked for -/
def raise (o : Options) : Flag → Option Options
  | .help => none
  | .noComments => some { o with noComments := true }
  | .date wanted => some { o with date := wanted }
  | .verbose => some { o with verbose := true }

end Options

structure Arguments extends Options where
  source : String
  deriving DecidableEq, Repr, Inhabited

/-- why a command line asks for nothing -/
inductive UsageError where
  | ambiguous (a : Ambiguity)
  | noValue (p : Parameter)
  | unusedValue (f : Flag) (value : String)
  | noSource
  | unrecognized (words : List String)
  deriving DecidableEq, Repr, Inhabited

def UsageError.message : UsageError → String
  | ambiguous a =>
    "ambiguous option: " ++ a.word ++ " could match " ++ Text.join ", " a.candidates
  | noValue p => "argument " ++ (CommandOption.parameter p).title ++ ": expected one argument"
  | unusedValue f v =>
    "argument " ++ (CommandOption.flag f).title ++ ": ignored explicit argument " ++
      Text.quotedString v
  | noSource => "the following arguments are required: source"
  | unrecognized words => "unrecognized arguments: " ++ Text.join " " words

/-- the line that ends what a user is told of it -/
def UsageError.line (e : UsageError) : String := "cire: error: " ++ e.message

inductive Request where
  | help
  | run (a : Arguments)
  deriving DecidableEq, Repr, Inhabited

namespace Request

/-- what the words so far ask for -/
structure Progress where
  options : Options
  source : Option String := none
  unrecognized : List String := []
  deriving DecidableEq, Repr, Inhabited

namespace Progress

def skip (p : Progress) (s : String) : Progress :=
  { p with unrecognized := p.unrecognized ++ [s] }

/-- The first plain word is the source. -/
def takePlain (p : Progress) (s : String) : Progress :=
  match p.source with
  | none => { p with source := some s }
  | some _ => p.skip s

/-- A missing source counts for more than words too many. -/
def finish (p : Progress) : Except UsageError Request :=
  match p.source, p.unrecognized with
  | none, _ => .error .noSource
  | some source, [] => .ok (.run { p.options with source })
  | some _, words => .error (.unrecognized words)

end Progress

/-- the value that help is given by letters behind its short option: those that ask for help again
are none, and others end the search -/
def helpValue? : List Char → Option (List Char)
  | '-' :: rest => some ('-' :: rest)
  | 'h' :: '=' :: value => some value
  | 'h' :: rest => helpValue? rest
  | _ => none

/-- Takes the words one by one. Two dashes are dropped next to the source. -/
def consume (p : Progress) : List Word → Except UsageError Request
  | [] => p.finish
  | .plain s :: .separator :: rest =>
    match p.source with
    | none => consume (p.takePlain s) rest
    | some _ => consume ((p.skip s).skip "--") rest
  | .plain s :: rest => consume (p.takePlain s) rest
  | .separator :: .plain s :: rest =>
    match p.source with
    | none => consume (p.takePlain s) rest
    | some _ => consume ((p.skip "--").skip s) rest
  | .separator :: rest => consume (p.skip "--") rest
  | .unknown s :: rest => consume (p.skip s) rest
  | .cluster letters :: _ =>
    match helpValue? letters with
    | none => .ok .help
    | some v => .error (.unusedValue .help (String.ofList v))
  | .option (.flag f) (some v) :: _ => .error (.unusedValue f v)
  | .option (.flag f) none :: rest =>
    match p.options.raise f with
    | none => .ok .help
    | some options => consume { p with options } rest
  | .option (.parameter q) (some v) :: rest =>
    consume { p with options := p.options.give v q } rest
  | .option (.parameter q) none :: .plain v :: rest =>
    consume { p with options := p.options.give v q } rest
  | .option (.parameter q) none :: _ => .error (.noValue q)

def usage : String :=
  "usage: cire " ++ Text.join " " (CommandOption.usages.map fun s => "[" ++ s ++ "]") ++ " source"

def ofWords (settings : Settings) (words : List String) : Except UsageError Request :=
  match Word.ofTexts words with
  | .error a => .error (.ambiguous a)
  | .ok ws => consume { options := Options.ofSettings settings } ws

end Request
end Literate
