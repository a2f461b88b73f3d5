import Literate.File.System

/-! Files held in memory. -/

namespace Literate

inductive FileEntry where
  | file (bytes : List UInt8)
  | directory
  deriving DecidableEq, Repr, Inhabited

def FileEntry.kind : FileEntry → FileKind
  | file _ => .file
  | directory => .directory

/-- Files and directories by their components from the root on. -/
structure Store where
  here : List String := []
  entries : List (List String × FileEntry) := []
  deriving DecidableEq, Repr, Inhabited

namespace Store

/-- The root is always there. -/
def entry? (s : Store) (place : List String) : Option FileEntry :=
  if place = [] then some .directory else s.entries.lookup place

/-- sets the entry at a place, which keeps its rank if there is one -/
def put (place : List String) (e : FileEntry) : List (List String × FileEntry) → List (List String × FileEntry)
  | [] => [(place, e)]
  | (p, d) :: rest => if p = place then (p, e) :: rest else (p, d) :: put place e rest

theorem lookup_put (place p : List String) (e : FileEntry) (es : List (List String × FileEntry)) :
    (put place e es).lookup p = if p = place then some e else es.lookup p := by
  induction es with
  | nil => by_cases h : p = place <;> simp [put, List.lookup_cons, beq_eq_false_iff_ne.mpr, h]
  | cons x es ih =>
    obtain ⟨q, d⟩ := x
    by_cases hq : q = place
    · subst hq
      by_cases h : p = q <;> simp [put, List.lookup_cons, beq_eq_false_iff_ne.mpr, h]
    · by_cases h : p = q
      · subst h; simp [put, hq]
      · simp [put, hq, List.lookup_cons, beq_eq_false_iff_ne.mpr, h, ih]

/-- Adds what is not there yet: the directory at a place and those above it. -/
def addDirectories (s : Store) (parts : List String) : Store :=
  ((List.range parts.length).map fun n => parts.take (n + 1)).foldl (fun s p =>
    match s.entry? p with
    | some _ => s
    | none => { s with entries := put p .directory s.entries }) s

def addFile (s : Store) (parts : List String) (bytes : List UInt8) : Store :=
  let s := s.addDirectories parts.dropLast
  { s with entries := put parts (.file bytes) s.entries }

/-- Follows components from a place on: each is looked up in a directory. -/
def walk (s : Store) (start : List String) : List String → Except FileFault (List String)
  | [] => .ok start
  | name :: rest =>
    match s.entry? start with
    | none => .error .missing
    | some (.file _) => .error .notDirectory
    | some .directory => walk s (if name = ".." then start.dropLast else start ++ [name]) rest

def locate (s : Store) (p : Path) : Except FileFault (List String) :=
  s.walk (if p.root = .here then s.here else []) p.parts

def kind? (s : Store) (p : Path) : Option FileKind :=
  match s.locate p with
  | .ok place => (s.entry? place).map FileEntry.kind
  | .error _ => none

def read (s : Store) (p : Path) : Except FileError (List UInt8) :=
  match s.locate p with
  | .error fault => .error ⟨fault, p⟩
  | .ok place =>
    match s.entry? place with
    | some (.file bytes) => .ok bytes
    | some .directory => .error ⟨.isDirectory, p⟩
    | none => .error ⟨.missing, p⟩

def write (s : Store) (p : Path) (bytes : List UInt8) : Except FileError Store :=
  match s.locate p with
  | .error fault => .error ⟨fault, p⟩
  | .ok place =>
    match s.entry? place with
    | some .directory => .error ⟨.isDirectory, p⟩
    | _ => .ok { s with entries := put place (.file bytes) s.entries }

/-- A write that is refused changes nothing. -/
def fileSystem : FileSystem (StateM Store) where
  here := return ⟨.slash, (← get).here⟩
  kind? p := return (← get).kind? p
  read p := return (← get).read p
  write p bytes := fun s =>
    match s.write p bytes with
    | .ok s => (.ok (), s)
    | .error e => (.error e, s)
  capacity := return (← get).entries.length

end Store
end Literate
