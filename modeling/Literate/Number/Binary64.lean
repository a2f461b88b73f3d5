/-! Floating-point numbers of 64 bits as exact values, the nearest of them to a decimal number, and the
fewest decimal digits that read back. -/

namespace Literate

/-- A finite number is `mantissa * 2 ^ exponent`, with a mantissa of 53 bits unless the exponent is the
least one, -1074. -/
inductive Binary64 where
  | finite (negative : Bool) (mantissa : Nat) (exponent : Int)
  | infinite (negative : Bool)
  | nan
  deriving DecidableEq, Repr, Inhabited

namespace Binary64

def leastExponent : Int := -1074
def greatestExponent : Int := 971

def powerOfTwo (n : Nat) : Nat := Nat.pow 2 n

def powerOfTen (n : Nat) : Nat := Nat.pow 10 n

/-- the quotient rounded to the nearest number, a half to the even one -/
def roundQuotient (num den : Nat) : Nat :=
  let q := num / den
  let r := num % den
  if 2 * r < den then q else if den < 2 * r then q + 1 else if q % 2 = 0 then q else q + 1

/-- `num / den` as a numerator and a denominator that count `2 ^ exponent` -/
def scaled (num den : Nat) (exponent : Int) : Nat × Nat :=
  if exponent < 0 then (num * powerOfTwo (-exponent).toNat, den)
  else (num, den * powerOfTwo exponent.toNat)

/-- the number nearest to `num / den` -/
def nearest (negative : Bool) (num den : Nat) : Binary64 :=
  if num = 0 then finite negative 0 leastExponent
  else
    let guess := max leastExponent ((Nat.log2 num : Int) - Nat.log2 den - 53)
    let whole (e : Int) : Nat := let (n, d) := scaled num den e; n / d
    let e := if whole guess < powerOfTwo 53 then guess
      else if whole (guess + 1) < powerOfTwo 53 then guess + 1 else guess + 2
    let (n, d) := scaled num den e
    let m := roundQuotient n d
    let (m, e) := if m = powerOfTwo 53 then (powerOfTwo 52, e + 1) else (m, e)
    if greatestExponent < e then infinite negative else finite negative m e

def digitCount (n : Nat) : Nat := (Nat.toDigits 10 n).length

/-- The number nearest to `digits * 10 ^ exponent`. Magnitudes far outside of the range are settled
without a power of ten. -/
def ofDecimal (negative : Bool) (digits : Nat) (exponent : Int) : Binary64 :=
  if digits = 0 then finite negative 0 leastExponent
  else if 320 < digitCount digits + exponent then infinite negative
  else if digitCount digits + exponent < -340 then finite negative 0 leastExponent
  else if exponent < 0 then nearest negative digits (powerOfTen (-exponent).toNat)
  else nearest negative (digits * powerOfTen exponent.toNat) 1

def isNegative : Binary64 → Bool
  | finite n _ _ => n
  | infinite n => n
  | nan => false

/-- less than 0, which minus zero is not -/
def belowZero : Binary64 → Bool
  | finite n m _ => n && m != 0
  | infinite n => n
  | nan => false

/-- the value, if it is an integer -/
def toInt? : Binary64 → Option Int
  | finite n m e =>
    let sign (k : Nat) : Int := if n then -k else k
    if 0 ≤ e then some (sign (m * powerOfTwo e.toNat))
    else if m % powerOfTwo (-e).toNat = 0 then some (sign (m / powerOfTwo (-e).toNat))
    else none
  | _ => none

/-- The decimal exponent `p` of a positive `num / den`: it is below `10 ^ p`, and not below a tenth of
that. Starts from a bound above and comes down. -/
def decimalExponent (num den : Nat) : Int := go 700 320
where
  below (p : Int) : Bool :=
    if p < 0 then num * powerOfTen (-p).toNat < den else num < den * powerOfTen p.toNat
  go : Nat → Int → Int
    | 0, p => p
    | n + 1, p => if below (p - 1) then go n (p - 1) else p

/-- digits and decimal exponent: the number is 0.DIGITS times ten to the exponent -/
structure Digits where
  digits : Nat
  exponent : Int
  deriving DecidableEq, Repr, Inhabited

/-- The fewest digits that read back as the number, and of those the nearest. Only the two neighbours
on each decimal grid can be nearest. -/
def shortest (mantissa : Nat) (exponent : Int) : Digits :=
  if mantissa = 0 then ⟨0, 1⟩
  else
    let (num, den) := if exponent < 0 then (mantissa, powerOfTwo (-exponent).toNat)
      else (mantissa * powerOfTwo exponent.toNat, 1)
    let p := decimalExponent num den
    let target := finite false mantissa exponent
    let tryCount (n : Nat) : Option Digits :=
      let shift := (n : Int) - p
      let (a, b) := if shift < 0 then (num, den * powerOfTen (-shift).toNat)
        else (num * powerOfTen shift.toNat, den)
      let low := a / b
      let back (d : Nat) : Bool := ofDecimal false d (-shift) == target
      let pick := match back low, back (low + 1) with
        | true, true => some (roundQuotient a b)
        | true, false => some low
        | false, true => some (low + 1)
        | false, false => none
      pick.map fun d => if d = powerOfTen n then ⟨1, p + 1⟩ else ⟨d, p⟩
    ((List.range 17).findSome? fun n => tryCount (n + 1)).getD ⟨0, 1⟩

/-- How numbers are written: with a point while the exponent is in a range, else with `e`, a sign and
two digits at least. -/
structure Style where
  /-- a whole number ends in `.0` -/
  pointZero : Bool
  infinity : String
  notANumber : String

/-- greatest and least exponent that are written with a point -/
def pointRange : Int × Int := (16, -3)

def zeros (n : Nat) : String := String.ofList (List.replicate n '0')

/-- the text of a number that is not negative -/
def magnitudeText (style : Style) (d : Digits) : String :=
  let ds := toString d.digits
  let n : Int := ds.length
  if pointRange.2 ≤ d.exponent ∧ d.exponent ≤ pointRange.1 then
    if d.exponent ≤ 0 then "0." ++ zeros (-d.exponent).toNat ++ ds
    else if n ≤ d.exponent then
      ds ++ zeros (d.exponent - n).toNat ++ (if style.pointZero then ".0" else "")
    else
      let k := d.exponent.toNat
      String.ofList (ds.toList.take k) ++ "." ++ String.ofList (ds.toList.drop k)
  else
    let head := String.ofList (ds.toList.take 1)
    let tail := String.ofList (ds.toList.drop 1)
    let e := d.exponent - 1
    let es := toString e.natAbs
    head ++ (if tail = "" then "" else "." ++ tail) ++ "e" ++ (if e < 0 then "-" else "+") ++
      (if es.length < 2 then "0" else "") ++ es

def textWith (style : Style) : Binary64 → String
  | finite n m e => (if n then "-" else "") ++ magnitudeText style (shortest m e)
  | infinite n => (if n then "-" else "") ++ style.infinity
  | nan => style.notANumber

def plainStyle : Style := ⟨true, "inf", "nan"⟩

/-- the text of a number among other values -/
def text (x : Binary64) : String := x.textWith plainStyle

end Binary64
end Literate
