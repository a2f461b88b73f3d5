/-! Blank characters and the trimming of text. -/

namespace Literate.Text

/-- white space of every script: the ASCII layout characters, the four separators
U+001C to U+001F, the next-line control and all space, line and paragraph separators -/
def isBlank (c : Char) : Bool :=
  let n := c.toNat
  (9 ≤ n && n ≤ 13) || (28 ≤ n && n ≤ 32) || n == 0x85 || n == 0xA0 || n == 0x1680 ||
    (0x2000 ≤ n && n ≤ 0x200A) || n == 0x2028 || n == 0x2029 || n == 0x202F || n == 0x205F ||
    n == 0x3000

/-- the whole text is blank -/
def blank (s : List Char) : Bool := s.all isBlank

def trimLeft (s : List Char) : List Char := s.dropWhile isBlank

/-- drops the longest tail of characters in the class `p` -/
def dropTail (p : Char → Bool) (s : List Char) : List Char := (s.reverse.dropWhile p).reverse

def trimRight (s : List Char) : List Char := dropTail isBlank s

def trim (s : List Char) : List Char := trimRight (trimLeft s)

/-- cuts at every separator; there is always one piece more than separators -/
def splitAt {α : Type} [BEq α] (sep : α) (s : List α) : List (List α) := s.splitOn sep

/-- the pieces with the separator between them -/
def joinWith {α : Type} (sep : List α) : List (List α) → List α
  | [] => []
  | [s] => s
  | s :: t :: rest => s ++ sep ++ joinWith sep (t :: rest)

/-- the strings with a separator between them -/
def join (sep : String) : List String → String
  | [] => ""
  | [s] => s
  | s :: t :: rest => s ++ sep ++ join sep (t :: rest)

theorem toList_join (sep : String) (xs : List String) :
    (join sep xs).toList = joinWith sep.toList (xs.map String.toList) := by
  induction xs with
  | nil => rfl
  | cons s rest ih => cases rest <;> simp_all [join, joinWith]

end Literate.Text
