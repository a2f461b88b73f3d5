import Literate.Number.Binary64
import Literate.Script.Terminal
import Literate.Text.Name

/-! The values of literals: numbers, texts and bytes. Texts are given by their code points, as escapes
can name halves of surrogate pairs. -/

namespace Literate.Script

inductive Constant where
  /-- `marked` tells that the mark `u` is in front of the literal -/
  | text (codes : List Nat) (marked : Bool)
  | bytes (values : List Nat)
  | integer (n : Nat)
  | real (x : Binary64)
  | imaginary (x : Binary64)
  | bool (b : Bool)
  | none
  | ellipsis
  deriving DecidableEq, Repr, Inhabited

namespace Literal

/-- the number that digits to a base stand for -/
def natOf (base : Nat) (ds : List Char) : Nat :=
  ds.foldl (fun n c => n * base + (Text.hexDigit c).getD 0) 0

/-- most digits of an integer to the base ten -/
def maxDigits : Nat := 4300

/-- a number to the base ten with a point or an exponent -/
def real (s : List Char) : Binary64 :=
  let whole := s.takeWhile Char.isDigit
  let rest := s.drop whole.length
  let part := match rest with
    | '.' :: rest => rest.takeWhile Char.isDigit
    | _ => []
  let exponent : Int := match rest.dropWhile (fun c => c == '.' || c.isDigit) with
    | _ :: '-' :: ds => -(natOf 10 (ds.takeWhile Char.isDigit) : Int)
    | _ :: '+' :: ds => natOf 10 (ds.takeWhile Char.isDigit)
    | _ :: ds => natOf 10 (ds.takeWhile Char.isDigit)
    | [] => 0
  Binary64.ofDecimal false (natOf 10 (whole ++ part)) (exponent - part.length)

/-- the value of a number; `none` for too many digits -/
def number (text : List Char) : Option Constant :=
  let s := (text.filter (· ≠ '_')).map Char.toLower
  match s with
  | '0' :: 'x' :: ds => some (.integer (natOf 16 ds))
  | '0' :: 'o' :: ds => some (.integer (natOf 8 ds))
  | '0' :: 'b' :: ds => some (.integer (natOf 2 ds))
  | _ =>
    if s.getLast? = some 'j' then some (.imaginary (real s.dropLast))
    else if s.any (fun c => c == '.' || c == 'e') then some (.real (real s))
    else if maxDigits < s.length then none
    else some (.integer (natOf 10 s))

def isOctal (c : Char) : Bool := '0' ≤ c && c ≤ '7'

/-- exactly `count` hexadecimal digits behind the letter of an escape, with a value up to `max` -/
def hexEscape (count max : Nat) (s : List Char) : Option (List Nat × Nat) :=
  let ds := s.take count
  let n := natOf 16 ds
  if ds.length = count && ds.all Pattern.isHex && n ≤ max then some ([n], count + 1) else none

/-- a character by its name in curly braces -/
def namedEscape : List Char → Option (List Nat × Nat)
  | '\x7b' :: s =>
    let name := s.takeWhile (· ≠ '\x7d')
    if name.length < s.length then
      (Text.codeOfName? name).map fun n => ([n], name.length + 3)
    else none
  | _ => none

/-- What a backslash and the text behind it stand for, and how much of that text it takes. Where it has
no meaning the backslash stands for itself. -/
def escape (isBytes : Bool) (s : List Char) : Option (List Nat × Nat) :=
  match s with
  | [] => some ([92], 0)
  | c :: rest =>
    let one (n : Nat) : Option (List Nat × Nat) := some ([n], 1)
    match c with
    | '\n' => some ([], 1)
    | '\\' | '\'' | '"' => one c.toNat
    | 'a' => one 7
    | 'b' => one 8
    | 't' => one 9
    | 'n' => one 10
    | 'v' => one 11
    | 'f' => one 12
    | 'r' => one 13
    | 'x' => hexEscape 2 0xFF rest
    | _ =>
      if isOctal c then
        let ds := (s.take 3).takeWhile isOctal
        let n := natOf 8 ds
        some ([if isBytes then n % 256 else n], ds.length)
      else if isBytes then some ([92], 0)
      else match c with
        | 'u' => hexEscape 4 0xFFFF rest
        | 'U' => hexEscape 8 0x10FFFF rest
        | 'N' => namedEscape rest
        | _ => some ([92], 0)

/-- the code points of a text with escapes, in at most `fuel` steps -/
def unescape (isBytes : Bool) : Nat → List Char → Option (List Nat)
  | 0, _ => some []
  | _ + 1, [] => some []
  | fuel + 1, '\\' :: s =>
    match escape isBytes s with
    | none => none
    | some (codes, k) => (unescape isBytes fuel (s.drop k)).map (codes ++ ·)
  | fuel + 1, c :: s => (unescape isBytes fuel s).map (c.toNat :: ·)

def decode (isBytes raw : Bool) (s : List Char) : Option (List Nat) :=
  if raw then some (s.map Char.toNat) else unescape isBytes s.length s

end Literal

/-- a string literal in its parts -/
structure Quotation where
  raw : Bool
  isBytes : Bool
  /-- fields in curly braces stand for values -/
  formatted : Bool
  /-- marks and opening quotes -/
  opening : List Char
  body : List Char
  deriving DecidableEq, Repr, Inhabited

namespace Quotation

def ofText (s : List Char) : Quotation :=
  let marks := s.takeWhile (fun c => c != '"' && c != '\'')
  let has (a b : Char) : Bool := marks.contains a || marks.contains b
  let rest := s.drop marks.length
  let size := match rest with
    | a :: b :: c :: _ :: _ => if a = b && b = c then 3 else 1
    | _ => 1
  { raw := has 'r' 'R'
    isBytes := has 'b' 'B'
    formatted := has 'f' 'F'
    opening := marks ++ rest.take size
    body := (rest.drop size).take (rest.length - 2 * size) }

/-- the value of a literal without fields -/
def codes (q : Quotation) : Option (List Nat) :=
  if q.isBytes && q.body.any (128 ≤ ·.toNat) then none
  else Literal.decode q.isBytes q.raw q.body

end Quotation
end Literate.Script
