import Literate.Schema.Basic

/-! The one fault that is reported of all faults of a document: as far out as possible, a later place
before an earlier one, and not a failed choice if there is another. Of a failed choice, the reason
that goes deepest is reported instead, unless two reasons are equally good. -/

namespace Literate

namespace PathStep

/-- indices by size, keys by code points -/
def compare : PathStep → PathStep → Ordering
  | index a, index b => Ord.compare a b
  | key a, key b => Ord.compare a b
  | index _, key _ => .lt
  | key _, index _ => .gt

end PathStep

namespace Fault

def comparePaths : List PathStep → List PathStep → Ordering
  | [], [] => .eq
  | [], _ :: _ => .lt
  | _ :: _, [] => .gt
  | a :: as, b :: bs => (a.compare b).then (comparePaths as bs)

/-- how much a fault is worth reporting -/
def compare (a b : Fault) : Ordering :=
  (Ord.compare b.path.length a.path.length).then <|
  (comparePaths a.path b.path).then <|
  (Ord.compare (!a.breach.isChoice) (!b.breach.isChoice)).then <|
  Ord.compare (!a.typeFits) (!b.typeFits)

/-- the first of the greatest -/
def greatest : List Fault → Option Fault
  | [] => none
  | f :: fs => some (fs.foldl (fun m g => if m.compare g = .lt then g else m) f)

/-- the first of the least -/
def least : List Fault → Option Fault
  | [] => none
  | f :: fs => some (fs.foldl (fun m g => if g.compare m = .lt then g else m) f)

/-- Two faults are the least, and equal. -/
def tied (f : Fault) (fs : List Fault) : Bool := 1 < fs.countP fun g => g.compare f = .eq

mutual

/-- the reason behind a failed choice -/
def reason : Fault → Fault
  | mk p b t context =>
    match least context with
    | none => mk p b t context
    | some f => if tied f context then mk p b t context else (reasons context f).getD f

/-- the reason behind the first fault that compares equal to `f` -/
def reasons : List Fault → Fault → Option Fault
  | [], _ => none
  | g :: gs, f => if g.compare f = .eq then some (reason g) else reasons gs f

end
end Fault

namespace Schema

/-- the fault of a document that is reported -/
def report? (s : Schema) (v : Json) : Option Fault := (Fault.greatest (s.faults v)).map Fault.reason

end Schema
end Literate
