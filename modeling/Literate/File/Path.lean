import Literate.Text.Blank

/-! Paths of files as components: empty ones and single dots mean nothing and are left out, double
dots are kept until a path is resolved. -/

namespace Literate

/-- where a path starts -/
inductive PathRoot where
  | here
  | slash
  /-- two slashes, which a system may read in a way of its own -/
  | slashes
  deriving DecidableEq, Repr, Inhabited

def PathRoot.text : PathRoot → String
  | here => ""
  | slash => "/"
  | slashes => "//"

structure Path where
  root : PathRoot := .here
  parts : List String := []
  deriving DecidableEq, Repr, Inhabited

namespace Path

def isPart (s : List Char) : Bool := s ≠ [] && s ≠ ['.']

def partsOf (s : List Char) : List String :=
  ((Text.splitAt '/' s).filter isPart).map String.ofList

/-- Three slashes and more are one. -/
def rootOf (s : List Char) : PathRoot :=
  match (s.takeWhile (· == '/')).length with
  | 0 => .here
  | 2 => .slashes
  | _ => .slash

def ofText (s : String) : Path := ⟨rootOf s.toList, partsOf s.toList⟩

/-- The path without components is a dot. -/
def text (p : Path) : String :=
  let s := p.root.text ++ Text.join "/" p.parts
  if s = "" then "." else s

/-- the last component -/
def name (p : Path) : String := p.parts.getLastD ""

/-- the end of a name from its last dot on, unless the dot is its first or its last character -/
def suffixOf (name : List Char) : List Char :=
  let tail := (name.reverse.takeWhile (· != '.')).reverse
  if tail = [] || name.length ≤ tail.length + 1 then [] else '.' :: tail

def suffix (p : Path) : String := String.ofList (suffixOf p.name.toList)

/-- the path without its last component -/
def parent (p : Path) : Path := { p with parts := p.parts.dropLast }

/-- `q` from `p` on; a path that starts at a root starts there -/
def join (p q : Path) : Path :=
  match q.root with
  | .here => { p with parts := p.parts ++ q.parts }
  | _ => q

/-- Double dots take the component before them away. -/
def collapse (parts : List String) : List String :=
  parts.foldl (fun ps s => if s = ".." then ps.dropLast else ps ++ [s]) []

/-- the path from the root on, without double dots; `here` is the working directory -/
def resolve (here p : Path) : Path := ⟨.slash, collapse (here.join p).parts⟩

end Path
end Literate
