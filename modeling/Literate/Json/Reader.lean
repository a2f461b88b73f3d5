import Literate.Json.Value

/-! JSON documents read from text. Beyond the standard, infinities and `NaN` are values; of fields with
one key the last counts. A text that is no document is refused with the place where that shows. -/

namespace Literate.Json

open Code (char)

inductive Fault where
  | value | key | colon | comma
  | openString | control | escape | unicode
  | extra | byteOrderMark
  deriving DecidableEq, Repr, Inhabited

def Fault.message : Fault → String
  | value => "Expecting value"
  | key => "Expecting property name enclosed in double quotes"
  | colon => "Expecting ':' delimiter"
  | comma => "Expecting ',' delimiter"
  | openString => "Unterminated string starting at"
  | control => "Invalid control character at"
  | escape => "Invalid \\escape"
  | unicode => "Invalid \\uXXXX escape"
  | extra => "Extra data"
  | byteOrderMark => "Unexpected UTF-8 BOM (decode using utf-8-sig)"

/-- a fault, and how much of the text is left where it shows -/
structure Failure where
  fault : Fault
  left : Nat
  deriving DecidableEq, Repr, Inhabited

abbrev Reading (α : Type) := Except Failure (α × Wording)

def refuse {α : Type} (fault : Fault) (s : Wording) : Reading α := .error ⟨fault, s.length⟩

def isSpace (c : Code) : Bool := c == char ' ' || c == char '\t' || c == char '\n' || c == char '\r'

def skip (s : Wording) : Wording := s.dropWhile isSpace

def hexValue : Code → Option Nat
  | char c =>
    if c.isDigit then some (c.toNat - 48)
    else if 'a' ≤ c ∧ c ≤ 'f' then some (c.toNat - 87)
    else if 'A' ≤ c ∧ c ≤ 'F' then some (c.toNat - 55)
    else none
  | .half _ => none

/-- four hexadecimal digits, with something behind them -/
def hex4 : Wording → Option (Nat × Wording)
  | a :: b :: c :: d :: rest =>
    match hexValue a, hexValue b, hexValue c, hexValue d, rest with
    | some a, some b, some c, some d, _ :: _ => some (((a * 16 + b) * 16 + c) * 16 + d, rest)
    | _, _, _, _, _ => none
  | _ => none

def isHigh (n : Nat) : Bool := 0xD800 ≤ n && n < 0xDC00

def isLow (n : Nat) : Bool := 0xDC00 ≤ n && n < 0xE000

def simpleEscape : Code → Option Code
  | char '"' => some '"'
  | char '\\' => some '\\'
  | char '/' => some '/'
  | char 'b' => some '\x08'
  | char 'f' => some '\x0c'
  | char 'n' => some '\n'
  | char 'r' => some '\r'
  | char 't' => some '\t'
  | _ => none

/-- The rest of a string behind its opening quote; `opening` is the text from that quote on. At most
`fuel` characters. Escapes for two halves of a surrogate pair give one character, any other half stands
for itself. -/
def stringTail (opening : Wording) : Nat → Wording → Reading Wording
  | 0, _ => refuse .openString opening
  | fuel + 1, s =>
    match s with
    | [] => refuse .openString opening
    | char '"' :: rest => .ok ([], rest)
    | char '\\' :: [] => refuse .openString opening
    | char '\\' :: char 'u' :: rest =>
      match hex4 rest with
      | none => refuse .unicode (char 'u' :: rest)
      | some (n, rest) =>
        match if isHigh n then rest else [] with
        | char '\\' :: char 'u' :: low =>
          match hex4 low with
          | some (m, rest') =>
            if isLow m then
              push (Code.ofNat (0x10000 + (n - 0xD800) * 1024 + (m - 0xDC00)))
                (stringTail opening fuel rest')
            else push (.ofNat n) (stringTail opening fuel rest)
          | none =>
            if low.length ≤ 4 then push (.ofNat n) (stringTail opening fuel rest)
            else refuse .unicode (char 'u' :: low)
        | _ => push (.ofNat n) (stringTail opening fuel rest)
    | char '\\' :: c :: rest =>
      match simpleEscape c with
      | some d => push d (stringTail opening fuel rest)
      | none => refuse .escape s
    | c :: rest =>
      if c.toNat < 32 then refuse .control s else push c (stringTail opening fuel rest)
where
  push (c : Code) : Reading Wording → Reading Wording
    | .ok (cs, rest) => .ok (c :: cs, rest)
    | .error e => .error e

/-- a string whose opening quote is already read -/
def readString (s : Wording) : Reading Wording :=
  stringTail (char '"' :: s) (s.length + 1) s

def digits (s : Wording) : Wording := s.takeWhile (·.is Char.isDigit)

def natOf (ds : Wording) : Nat := ds.foldl (fun n c => n * 10 + (c.toNat - 48)) 0

/-- the digits behind a point; none unless there are some -/
def fraction : Wording → Wording × Wording
  | char '.' :: rest => if (digits rest).isEmpty then ([], char '.' :: rest)
    else (digits rest, rest.drop (digits rest).length)
  | s => ([], s)

/-- an exponent, if there is a whole one -/
def exponent (s : Wording) : Option (Int × Wording) :=
  match s with
  | e :: rest =>
    if e == char 'e' || e == char 'E' then
      let (negative, rest) := match rest with
        | char '-' :: r => (true, r)
        | char '+' :: r => (false, r)
        | r => (false, r)
      if (digits rest).isEmpty then none
      else
        let n := natOf (digits rest)
        some (if negative then -n else n, rest.drop (digits rest).length)
    else none
  | [] => none

/-- a number without its sign -/
def magnitude (negative : Bool) (s : Wording) : Option (Json × Wording) :=
  let whole := match s with
    | char '0' :: _ => [char '0']
    | _ => digits s
  if whole.isEmpty then none
  else
    let rest := s.drop whole.length
    let (part, rest) := fraction rest
    match exponent rest with
    | some (e, rest) =>
      some (.real (Binary64.ofDecimal negative (natOf (whole ++ part)) (e - part.length)), rest)
    | none =>
      if part.isEmpty then
        some (.int (if negative then -(natOf whole : Int) else natOf whole), rest)
      else some (.real (Binary64.ofDecimal negative (natOf (whole ++ part)) (-part.length)), rest)

def words : List (String × Json) :=
  [("null", null), ("true", bool true), ("false", bool false), ("NaN", real .nan),
    ("Infinity", real (.infinite false)), ("-Infinity", real (.infinite true))]

/-- a value that is neither a string nor a container -/
def scalar (s : Wording) : Reading Json :=
  match words.find? fun (w, _) => (codes w).isPrefixOf s with
  | some (w, v) => .ok (v, s.drop w.length)
  | none =>
    let found := match s with
      | char '-' :: rest => magnitude true rest
      | _ => magnitude false s
    match found with
    | some r => .ok r
    | none => refuse .value s

/-- of two fields with one key the later value counts, at the place of the earlier -/
def put (key : Wording) (v : Json) : List (Wording × Json) → List (Wording × Json)
  | [] => [(key, v)]
  | (k, w) :: fs => if k = key then (k, v) :: fs else (k, w) :: put key v fs

mutual

/-- a value, at most `fuel` levels of calls deep -/
def value (fuel : Nat) (s : Wording) : Reading Json :=
  match fuel with
  | 0 => refuse .value s
  | fuel + 1 =>
    match s with
    | char '"' :: rest =>
      match readString rest with
      | .ok (t, rest) => .ok (.string t, rest)
      | .error e => .error e
    | char '[' :: rest =>
      match skip rest with
      | char ']' :: rest => .ok (.array [], rest)
      | rest =>
        match items fuel rest with
        | .ok (vs, rest) => .ok (.array vs, rest)
        | .error e => .error e
    | char '\x7b' :: rest =>
      match skip rest with
      | char '\x7d' :: rest => .ok (.object [], rest)
      | rest =>
        match fields fuel rest [] with
        | .ok (fs, rest) => .ok (.object fs, rest)
        | .error e => .error e
    | s => scalar s

/-- the items of an array, up to its end -/
def items (fuel : Nat) (s : Wording) : Reading (List Json) :=
  match fuel with
  | 0 => refuse .value s
  | fuel + 1 =>
    match value fuel s with
    | .error e => .error e
    | .ok (v, rest) =>
      match skip rest with
      | char ']' :: rest => .ok ([v], rest)
      | char ',' :: rest =>
        match items fuel (skip rest) with
        | .ok (vs, rest) => .ok (v :: vs, rest)
        | .error e => .error e
      | rest => refuse .comma rest

/-- the fields of an object, up to its end, after the fields `before` -/
def fields (fuel : Nat) (s : Wording) (before : List (Wording × Json)) :
    Reading (List (Wording × Json)) :=
  match fuel with
  | 0 => refuse .key s
  | fuel + 1 =>
    match s with
    | char '"' :: rest =>
      match readString rest with
      | .error e => .error e
      | .ok (k, rest) =>
        match skip rest with
        | char ':' :: rest =>
          match value fuel (skip rest) with
          | .error e => .error e
          | .ok (v, rest) =>
            match skip rest with
            | char '\x7d' :: rest => .ok (put k v before, rest)
            | char ',' :: rest => fields fuel (skip rest) (put k v before)
            | rest => refuse .comma rest
        | rest => refuse .colon rest
    | s => refuse .key s

end

/-- enough calls for a text: two for each character -/
def enough (s : Wording) : Nat := 2 * s.length + 2

/-- a refused text, with the index of the character where that shows -/
structure ReadError where
  fault : Fault
  index : Nat
  line : Nat
  column : Nat
  deriving DecidableEq, Repr, Inhabited

namespace ReadError

/-- Lines and columns count from 1. -/
def ofFailure (s : Wording) (e : Failure) : ReadError :=
  let before := s.take (s.length - e.left)
  ⟨e.fault, before.length, before.count (char '\n') + 1,
    (before.reverse.takeWhile (· != char '\n')).length + 1⟩

def message (e : ReadError) : String :=
  e.fault.message ++ ": line " ++ toString e.line ++ " column " ++ toString e.column ++
    " (char " ++ toString e.index ++ ")"

end ReadError

def document (s : Wording) : Except Failure Json :=
  match s with
  | char '\ufeff' :: _ => .error ⟨.byteOrderMark, s.length⟩
  | _ =>
    match value (enough s) (skip s) with
    | .error e => .error e
    | .ok (v, rest) =>
      match skip rest with
      | [] => .ok v
      | rest => .error ⟨.extra, rest.length⟩

def read (text : Wording) : Except ReadError Json :=
  match document text with
  | .ok v => .ok v
  | .error e => .error (.ofFailure text e)

end Literate.Json
