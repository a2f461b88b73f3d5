import Literate.Mark
import Literate.Comment.Clean
import Literate.Notice
import Literate.Script.Lexer
import Literate.Tree

/-! Comments that stand alone on their lines, and the prose made of them: those on consecutive lines
form one. -/

namespace Literate

/-- a comment as it is written, alone on its line -/
structure RawComment where
  span : Span
  text : List Char
  deriving DecidableEq, Repr, Inhabited

namespace RawComment

def ofLexemes (ls : List Script.Lexeme) : List RawComment :=
  (ls.filter fun l => l.kind = .comment && l.alone).map fun l => ⟨l.span, l.text⟩

/-- Line breaks at the end are left out, from the text and from the span. -/
def ofNode (p : Parsed) (t : Tree) : RawComment :=
  let text := p.text t
  let bare := Text.dropTail (fun c => c == '\r' || c == '\n') text
  if bare = text then ⟨p.span t, text⟩
  else
    let start := p.position t.info.start
    let lines := Text.splitAt '\n' bare
    let last := (lines.getLast?.getD []).length
    let stop : Position :=
      if lines.length = 1 then ⟨start.line, start.column + last⟩
      else ⟨start.line + lines.length - 1, last⟩
    ⟨⟨start, stop⟩, bare⟩

def ofTree (p : Parsed) : List RawComment :=
  ((p.root.nodes Tree.commentKinds).filter fun t =>
    t.isComment && startsLine p.bytes t.info.bytes.first).map (ofNode p)

/-- one comment of consecutive ones, joined line by line -/
structure Group where
  span : Span
  parts : List String

/-- puts a comment in front of the groups behind it, into the first one if that starts on the line
after it -/
def cons (language : String) (c : RawComment) : List Group → List Group
  | [] => [⟨c.span, [cleanComment language (String.ofList c.text)]⟩]
  | g :: gs =>
    let part := cleanComment language (String.ofList c.text)
    if g.span.start.line = c.span.stop.line + 1 then
      ⟨⟨c.span.start, g.span.stop⟩, part :: g.parts⟩ :: gs
    else ⟨c.span, [part]⟩ :: g :: gs

def group (language : String) (cs : List RawComment) : List Comment :=
  (cs.foldr (cons language) []).map fun g => ⟨g.span, Text.join "\n" g.parts⟩

end RawComment

/-- The prose of a source. Python comments are found by their lexemes, with a warning where these stop
early; those of other languages in the tree. -/
def extractComments (grammars : Grammars) (language source : String) :
    Except TreeError (List Comment × List Notice) :=
  if Language.isPython language then
    let lexed := Script.lex source
    let raw := RawComment.ofLexemes lexed.items
    .ok (RawComment.group language raw,
      lexed.interruption.toList.map (.commentsStopped raw.length))
  else
    match Parsed.ofSource grammars language source with
    | .error e => .error e
    | .ok p => .ok (RawComment.group language (RawComment.ofTree p), [])

end Literate
