/-! Names of anchors that links can point at. -/

namespace Literate.Anchor

def isSafe (c : Char) : Bool := c.isAlphanum || "-_./~".toList.contains c

/-- upper-case hexadecimal digits, at least two -/
def hexText (n : Nat) : List Char :=
  let ds := (Nat.toDigits 16 n).map Char.toUpper
  if ds.length < 2 then '0' :: ds else ds

/-- A blank becomes a plus sign, and an unsafe character a percent sign with its code point. -/
def encodeChar (c : Char) : List Char :=
  if isSafe c then [c] else if c = ' ' then ['+'] else '%' :: hexText c.toNat

def encode (symbol : List Char) : List Char := symbol.flatMap encodeChar

/-- the anchor of a symbol -/
def ofSymbol (symbol : String) : String := String.ofList (encode symbol.toList)

end Literate.Anchor
