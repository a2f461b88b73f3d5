/-! Sets of characters given by ranges of code points, written as rows of hexadecimal numbers. -/

namespace Literate.Text

def hexDigit (c : Char) : Option Nat :=
  if '0' ≤ c ∧ c ≤ '9' then some (c.toNat - 48)
  else if 'A' ≤ c ∧ c ≤ 'F' then some (c.toNat - 55)
  else if 'a' ≤ c ∧ c ≤ 'f' then some (c.toNat - 87)
  else none

/-- the hexadecimal numbers of a text; every other character only separates -/
def hexNumbers (s : List Char) : List Nat := go none s
where
  go : Option Nat → List Char → List Nat
    | acc, [] => acc.toList
    | acc, c :: cs =>
      match hexDigit c with
      | some d => go (some (acc.getD 0 * 16 + d)) cs
      | none => acc.toList ++ go none cs

/-- first and last code point of each range -/
def rangesOf (rows : List String) : List (Nat × Nat) :=
  pairs (rows.flatMap fun r => hexNumbers r.toList)
where
  pairs : List Nat → List (Nat × Nat)
    | a :: b :: rest => (a, b) :: pairs rest
    | _ => []

/-- membership in ranges that are in order -/
def inRanges (n : Nat) : List (Nat × Nat) → Bool
  | [] => false
  | (a, b) :: rest => if n < a then false else if n ≤ b then true else inRanges n rest

end Literate.Text
