import Literate.Assembly
import Literate.Comment.Group
import Literate.Partition
import Literate.Script.Highlight
import Literate.Script.Symbols
import Literate.Tree.Highlight

/-! Producers of tokens, which all look at the same source, and documents built from what they and
the search for comments find. -/

namespace Literate

inductive Producer where
  /-- highlights Python by its lexemes -/
  | lexemes
  /-- definitions in Python and the uses of their names -/
  | symbols
  /-- highlights by the tree -/
  | tree (language : Language.Known)
  /-- tokens made elsewhere for a source that is not looked at, or the reason why there are none -/
  | elsewhere (label : String) (tokens : Except String (List Token))

/-- why a producer has no tokens -/
inductive ProducerError where
  | tree (e : TreeError)
  | symbols (e : Script.SymbolError)
  | elsewhere (reason : String)
  deriving DecidableEq, Repr, Inhabited

def ProducerError.message : ProducerError → String
  | tree e => e.message
  | symbols e => e.message
  | elsewhere reason => reason

namespace Producer

def name : Producer → String
  | lexemes => "Python highlighting"
  | symbols => "Python symbols"
  | tree l => l.val ++ " highlighting"
  | elsewhere label _ => label

def tokens (grammars : Grammars) (source : String) :
    Producer → Except ProducerError (List Token × List Notice)
  | lexemes => .ok (Script.highlight source)
  | symbols =>
    match Script.symbols source with
    | .ok ts => .ok (ts, [])
    | .error e => .error (.symbols e)
  | tree l =>
    match Parsed.ofSource grammars l.val source with
    | .ok p => .ok (Tree.highlight p, [])
    | .error e => .error (.tree e)
  | elsewhere _ (.ok ts) => .ok (ts, [])
  | elsewhere _ (.error reason) => .error (.elsewhere reason)

/-- the tokens of all producers in their order, or the first error; the warnings either way -/
def gather (grammars : Grammars) (source : String) :
    List Producer → Except ProducerError (List Token) × List Notice
  | [] => (.ok [], [])
  | p :: ps =>
    let (rest, ns) := gather grammars source ps
    match p.tokens grammars source, rest with
    | .error e, _ => (.error e, ns)
    | .ok (_, ms), .error e => (.error e, ms ++ ns)
    | .ok (ts, ms), .ok us => (.ok (ts ++ us), ms ++ ns)

end Producer

/-- where the prose of a document comes from: comments found in the source, if there is a language to
find them by, and comments made elsewhere -/
structure Prose where
  language : Option Language.Known := none
  extra : List Comment := []

def Prose.comments (prose : Prose) (grammars : Grammars) (source : String) :
    Except ProducerError (List Comment × List Notice) :=
  match prose.language with
  | none => .ok (prose.extra, [])
  | some l =>
    match extractComments grammars l.val source with
    | .ok (cs, ns) => .ok (cs ++ prose.extra, ns)
    | .error e => .error (.tree e)

/-- A document from all that is found in a source, and the warnings. An error of one producer stops the
document, but not the warnings of the others. -/
def buildDocument (grammars : Grammars) (source name : String) (producers : List Producer)
    (prose : Prose) : Except ProducerError Document × List Notice :=
  let (tokens, ns) := Producer.gather grammars source producers
  match prose.comments grammars source, tokens with
  | .error e, _ => (.error e, ns)
  | .ok (_, ms), .error e => (.error e, ms ++ ns)
  | .ok (cs, ms), .ok ts =>
    let (kept, ds) := keepComments cs
    let (document, os) :=
      assembleDocument (Buffer.ofText source) (partition (sortTokens ts)) kept name
    (.ok document, ms ++ ns ++ ds ++ os)

end Literate
