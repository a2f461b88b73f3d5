import Literate.Buffer
import Literate.Document
import Literate.Notice

/-! Assembly of a document: segments become decorated runs, comments become prose, and the text
between them plain runs. A cursor walks the buffer; a comment wins over a segment that starts at the
same place, and hides the segments that end inside it. -/

namespace Literate

/-- The blocks so far, and the runs of the listing that is open, if one is. -/
structure Builder where
  blocks : List Block := []
  runs : Option (List Run) := none
  deriving DecidableEq, Repr, Inhabited

namespace Builder

def isOpen (b : Builder) : Bool := b.runs.isSome

def addRun (b : Builder) (r : Run) : Builder :=
  { b with runs := some (b.runs.getD [] ++ [r]) }

/-- a listing without runs leaves no block -/
def close (b : Builder) : Builder :=
  match b.runs with
  | none | some [] => { b with runs := none }
  | some rs => { blocks := b.blocks ++ [.code rs], runs := none }

def addProse (b : Builder) (content : Wording) : Builder :=
  { b.close with blocks := b.close.blocks ++ [.prose content] }

@[simp] theorem runs_close (b : Builder) : b.close.runs = none := by
  unfold close; split <;> rfl

@[simp] theorem runs_addProse (b : Builder) (s : Wording) : (b.addProse s).runs = none := by
  simp [addProse]

end Builder

/-- Where the assembly stands: what is built, and the segments and comments still to come. -/
structure Assembly where
  cursor : Position := ⟨0, 0⟩
  segments : List Segment
  comments : List Comment
  built : Builder := {}
  notices : List Notice := []
  deriving DecidableEq, Repr, Inhabited

namespace Assembly

def nextSegment (s : Assembly) : Option Position := s.segments.head?.map fun x => x.span.start

def nextComment (s : Assembly) : Option Position := s.comments.head?.map fun x => x.span.start

/-- where the text in front of the cursor ends: at the next segment, the next comment or `stop` -/
def gapEnd (stop : Position) (s : Assembly) : Position :=
  let upTo (e : Position) : Option Position → Position
    | some p => if p < e then p else e
    | none => e
  upTo (upTo stop s.nextSegment) s.nextComment

/-- a listing does not open with blanks, nor end with blanks in front of a comment -/
def gapText (opened beforeComment : Bool) (text : List Char) : List Char :=
  let text := if opened then text else Text.trimLeft text
  if beforeComment then Text.trimRight text else text

/-- takes up the text between the cursor and the next event -/
def fillGap (lines : Buffer) (stop : Position) (s : Assembly) : Assembly :=
  let e := s.gapEnd stop
  if s.cursor < e then
    let text := gapText s.built.isOpen (s.nextComment = some e) (lines.slice ⟨s.cursor, e⟩)
    { s with
      cursor := e
      built := if text = [] then s.built else s.built.addRun (.text (String.ofList text)) }
  else s

def takeComment (s : Assembly) (c : Comment) (rest : List Comment) : Assembly :=
  { s with
    cursor := c.span.stop
    comments := rest
    built := s.built.addProse c.content
    segments := s.segments.dropWhile fun x => x.span.stop ≤ c.span.stop }

def takeSegment (lines : Buffer) (s : Assembly) (x : Segment) (rest : List Segment) : Assembly :=
  { s with
    cursor := x.span.stop
    segments := rest
    built := s.built.addRun
      (.annotated (lines.extract x.span) x (Decoration.ofMark x.mark)) }

/-- moves on by one character, with a warning -/
def forceAdvance (lines : Buffer) (stop : Position) (s : Assembly) : Assembly :=
  { s with
    cursor := lines.advance stop s.cursor
    notices := s.notices ++ [.stalled s.cursor s.nextSegment s.nextComment] }

inductive Progress where
  | done (s : Assembly)
  | more (s : Assembly)

/-- the comment at the cursor, else the segment there; past the end nothing more is taken -/
def takeEvent (lines : Buffer) (stop : Position) (s : Assembly) : Progress :=
  match s.comments, s.segments with
  | c :: cs, xs =>
    if c.span.start = s.cursor then .more (s.takeComment c cs) else ofSegments xs
  | [], xs => ofSegments xs
where
  ofSegments : List Segment → Progress
    | x :: xs => if x.span.start = s.cursor then .more (s.takeSegment lines x xs) else otherwise
    | [] => otherwise
  otherwise : Progress := if stop ≤ s.cursor then .done s else .more (s.forceAdvance lines stop)

def finished (stop : Position) (s : Assembly) : Bool :=
  stop ≤ s.cursor && s.segments.isEmpty && s.comments.isEmpty

def step (lines : Buffer) (stop : Position) (s : Assembly) : Progress :=
  if s.finished stop then .done s else (s.fillGap lines stop).takeEvent lines stop

/-- at most `n` steps -/
def run (lines : Buffer) (stop : Position) : Nat → Assembly → Assembly
  | 0, s => s
  | n + 1, s =>
    match s.step lines stop with
    | .done t => t
    | .more t => run lines stop n t

/-- how far columns reach below zero -/
def dip (s : Assembly) : Nat :=
  let below (x : Span) : Nat := (-x.stop.column).toNat
  (s.segments.map fun x => below x.span).foldl max
    ((s.comments.map fun x => below x.span).foldl max 0)

/-- Enough steps: between two events the cursor passes each place of the buffer at most once. -/
def enough (lines : Buffer) (s : Assembly) : Nat :=
  let places := lines.foldr (fun line n => line.length + 1 + n) 0
  (s.segments.length + s.comments.length + 1) * (places + s.dip + 3)

end Assembly

/-- the blocks of a document, with the warnings given on the way -/
def assembleUpTo (lines : Buffer) (stop : Position) (segments : List Segment)
    (comments : List Comment) : List Block × List Notice :=
  let start : Assembly := { segments, comments }
  let final := start.run lines stop (start.enough lines)
  (final.built.close.blocks, final.notices)

def assemble (lines : Buffer) (segments : List Segment) (comments : List Comment) :
    List Block × List Notice :=
  assembleUpTo lines lines.last segments comments

def assembleDocument (lines : Buffer) (segments : List Segment) (comments : List Comment)
    (source : String) : Document × List Notice :=
  let (blocks, notices) := assemble lines segments comments
  ({ blocks, source, lineCount := lines.length }, notices)

/-- Comments in order, each starting no earlier than the one kept before it stops; every comment
left out gives a warning. -/
def keepComments (cs : List Comment) : List Comment × List Notice :=
  go none (sortComments cs)
where
  go : Option Position → List Comment → List Comment × List Notice
    | _, [] => ([], [])
    | stop, c :: cs =>
      match stop with
      | some p =>
        if c.span.start < p then
          let (kept, notices) := go stop cs
          (kept, .droppedComment c.span p :: notices)
        else keep c (go (some c.span.stop) cs)
      | none => keep c (go (some c.span.stop) cs)
  keep (c : Comment) (r : List Comment × List Notice) : List Comment × List Notice :=
    (c :: r.1, r.2)

end Literate
