/-! Positions in a text, half-open spans between them, and their order. -/

namespace Literate

/-- A point before the character at `column` of `line`; both count from 0, in characters. -/
structure Position where
  line : Int
  column : Int
  deriving DecidableEq, Repr, Inhabited

namespace Position

/-- earlier line first, then earlier column -/
instance : LT Position where
  lt p q := p.line < q.line ∨ (p.line = q.line ∧ p.column < q.column)

instance : LE Position where
  le p q := p.line < q.line ∨ (p.line = q.line ∧ p.column ≤ q.column)

theorem lt_def {p q : Position} :
    p < q ↔ p.line < q.line ∨ (p.line = q.line ∧ p.column < q.column) := Iff.rfl

theorem le_def {p q : Position} :
    p ≤ q ↔ p.line < q.line ∨ (p.line = q.line ∧ p.column ≤ q.column) := Iff.rfl

instance (p q : Position) : Decidable (p < q) :=
  inferInstanceAs (Decidable (_ ∨ _))

instance (p q : Position) : Decidable (p ≤ q) :=
  inferInstanceAs (Decidable (_ ∨ _))

instance : Min Position := minOfLe

instance : Ord Position where
  compare p q := if p < q then .lt else if q < p then .gt else .eq

theorem ext_iff' {p q : Position} : p = q ↔ p.line = q.line ∧ p.column = q.column := by
  cases p; cases q; simp

theorem le_refl (p : Position) : p ≤ p := by simp [le_def]

theorem le_total (p q : Position) : p ≤ q ∨ q ≤ p := by simp only [le_def]; omega

theorem le_trans {p q r : Position} (h : p ≤ q) (k : q ≤ r) : p ≤ r := by
  simp only [le_def] at *; omega

theorem le_antisymm {p q : Position} (h : p ≤ q) (k : q ≤ p) : p = q := by
  rw [ext_iff']; simp only [le_def] at *; omega

theorem min_eq_left_or_right (p q : Position) : min p q = p ∨ min p q = q := by
  simp only [min]; split <;> simp

/-- written `line:column` -/
def text (p : Position) : String := toString p.line ++ ":" ++ toString p.column

end Position

/-- The positions from `start` up to, and not including, `stop`. -/
structure Span where
  start : Position
  stop : Position
  deriving DecidableEq, Repr, Inhabited

namespace Span

/-- a span that does not run backward -/
def Valid (s : Span) : Prop := s.start ≤ s.stop

instance (s : Span) : Decidable s.Valid := inferInstanceAs (Decidable (_ ≤ _))

/-- `t` lies inside `s` -/
def Contains (s t : Span) : Prop := s.start ≤ t.start ∧ t.stop ≤ s.stop

instance (s t : Span) : Decidable (s.Contains t) := inferInstanceAs (Decidable (_ ∧ _))

/-- earlier start first, then earlier stop -/
def before (s t : Span) : Bool := s.start < t.start || (s.start == t.start && s.stop ≤ t.stop)

def text (s : Span) : String := s.start.text ++ "-" ++ s.stop.text

end Span

/-- a place in a source: its row, and the bytes in front of it on that row -/
structure Point where
  row : Nat
  byte : Nat
  deriving DecidableEq, Repr, Inhabited

/-- the place behind a text that starts at `p` -/
def Point.after (p : Point) (s : List Char) : Point :=
  s.foldl (fun p c => if c = '\n' then ⟨p.row + 1, 0⟩ else ⟨p.row, p.byte + c.utf8Size⟩) p

end Literate
