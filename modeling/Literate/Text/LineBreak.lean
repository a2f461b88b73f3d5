/-! Line breaks of all systems read as line feeds. -/

namespace Literate.Text

/-- A carriage return is a line break too, alone or with the line feed behind it. -/
def unifyBreaks : List Char → List Char
  | '\r' :: '\n' :: s => '\n' :: unifyBreaks s
  | '\r' :: s => '\n' :: unifyBreaks s
  | c :: s => c :: unifyBreaks s
  | [] => []

theorem not_mem_unifyBreaks (s : List Char) : '\r' ∉ unifyBreaks s := by
  fun_induction unifyBreaks s with
  | case1 s ih => simp [ih]
  | case2 s _ ih => simp [ih]
  | case3 c s _ h ih => simpa [ih] using fun hc => h hc.symm
  | case4 => simp

end Literate.Text
