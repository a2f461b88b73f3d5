import Literate.Text.Printable

/-! Texts in quotes, as messages and signatures show them: what does not print is written by its
number. Texts are given by their code points, which may be halves of surrogate pairs. -/

namespace Literate.Text

def hexChar (n : Nat) : Char := if n < 10 then Char.ofNat (48 + n) else Char.ofNat (87 + n)

/-- `width` lower-case hexadecimal digits -/
def hexText : Nat → Nat → List Char
  | 0, _ => []
  | width + 1, n => hexText width (n / 16) ++ [hexChar (n % 16)]

/-- a code point that does not print, by its number -/
def escapeCode (n : Nat) : List Char :=
  if n < 0x100 then '\\' :: 'x' :: hexText 2 n
  else if n < 0x10000 then '\\' :: 'u' :: hexText 4 n
  else '\\' :: 'U' :: hexText 8 n

def isPrintableCode (n : Nat) : Bool := n.isValidChar && isPrintable (Char.ofNat n)

def codePoints (s : String) : List Nat := s.toList.map Char.toNat

/-- one code point between quotes `quote` -/
def quoteCode (quote : Char) (n : Nat) : List Char :=
  if n = quote.toNat || n = 92 then ['\\', Char.ofNat n]
  else if n = 9 then ['\\', 't']
  else if n = 10 then ['\\', 'n']
  else if n = 13 then ['\\', 'r']
  else if isPrintableCode n then [Char.ofNat n]
  else escapeCode n

/-- single quotes, unless the text has those and no double ones -/
def quoteFor (s : List Nat) : Char := if s.contains 39 && !s.contains 34 then '"' else '\''

def quoted (s : List Nat) : List Char :=
  let q := quoteFor s
  q :: s.flatMap (quoteCode q) ++ [q]

def quotedString (s : String) : String := String.ofList (quoted (codePoints s))

end Literate.Text
