import Literate.Proofs.Basic
import Literate.Proofs.Buffer.Place
import Literate.Script.Symbols

/-! Where the name of a definition is found: behind the first `def` or `class` in the rest of its row
that has the name behind it as a word of its own. -/

namespace Literate.Script

/-- `def` or `class`, blanks, and behind them a name as a word of its own -/
structure Heading (name keyword gap behind : List Char) : Prop where
  keyword_eq : keyword = "def".toList ∨ keyword = "class".toList
  apart : gap ≠ []
  blank : ∀ c ∈ gap, Text.isBlank c = true
  whole : ∀ c, (name ++ behind).head? = some c → Text.isBlank c = false
  ends : boundary name.getLast? behind.head? = true

variable {name s front keyword gap behind : List Char} {n : Nat}

/-- what stands behind one of the first words of a definition -/
theorem named_iff (keyword rest : List Char) :
    (let gap := (rest.takeWhile Text.isBlank).length
      let rest := rest.drop gap
      if 0 < gap && name.isPrefixOf rest &&
          boundary name.getLast? (rest.drop name.length).head? then some (keyword.length + gap)
      else none) = some n ↔
      ∃ gap behind, rest = gap ++ (name ++ behind) ∧ gap ≠ [] ∧
        (∀ c ∈ gap, Text.isBlank c = true) ∧
        (∀ c, (name ++ behind).head? = some c → Text.isBlank c = false) ∧
        boundary name.getLast? behind.head? = true ∧ n = keyword.length + gap.length := by
  obtain ⟨gap, back, rfl, hgap, blank, whole⟩ := exists_takeWhile Text.isBlank rest
  simp only [hgap, List.drop_left]
  constructor
  · intro h
    split at h
    · next found =>
      rw [Bool.and_eq_true, Bool.and_eq_true, decide_eq_true_eq, List.length_pos_iff] at found
      obtain ⟨⟨apart, front⟩, ends⟩ := found
      obtain ⟨behind, rfl⟩ := List.isPrefixOf_iff_prefix.mp front
      rw [List.drop_left] at ends
      exact ⟨gap, behind, rfl, apart, blank, whole, ends, (Option.some.inj h).symm⟩
    · cases h
  · rintro ⟨gap', behind, text, apart, blank', whole', ends, rfl⟩
    have same : gap' = gap := by
      rw [← takeWhile_append_of_head blank' whole', ← text, hgap]
    subst same
    rw [List.append_cancel_left text, List.drop_left, if_pos]
    rw [Bool.and_eq_true, Bool.and_eq_true, decide_eq_true_eq, List.length_pos_iff]
    exact ⟨⟨apart, List.isPrefixOf_iff_prefix.mpr (List.prefix_append name behind)⟩, ends⟩

theorem wordsBefore_eq_some : wordsBefore name s = some n ↔
    ∃ keyword gap behind, s = keyword ++ (gap ++ (name ++ behind)) ∧
      Heading name keyword gap behind ∧ n = keyword.length + gap.length := by
  constructor
  · intro h
    obtain ⟨word, hword, h⟩ := List.exists_of_findSome?_eq_some h
    split at h
    · next front =>
      obtain ⟨rest, rfl⟩ := List.isPrefixOf_iff_prefix.mp front
      rw [← String.length_toList, List.drop_left, named_iff] at h
      obtain ⟨gap, behind, rfl, apart, blank, whole, ends, rfl⟩ := h
      have keyword : word.toList = "def".toList ∨ word.toList = "class".toList := by
        rcases List.mem_pair.mp hword with rfl | rfl
        · exact .inl rfl
        · exact .inr rfl
      exact ⟨word.toList, gap, behind, rfl, ⟨keyword, apart, blank, whole, ends⟩, rfl⟩
    · cases h
  · rintro ⟨keyword, gap, behind, rfl, ⟨hkeyword, apart, blank, whole, ends⟩, rfl⟩
    have found := (named_iff keyword
      (gap ++ (name ++ behind))).mpr ⟨gap, behind, rfl, apart, blank, whole, ends, rfl⟩
    have front : keyword.isPrefixOf (keyword ++ (gap ++ (name ++ behind))) = true :=
      List.isPrefixOf_iff_prefix.mpr (List.prefix_append ..)
    rcases hkeyword with rfl | rfl
    · rw [wordsBefore, List.findSome?_cons, if_pos front, ← String.length_toList, List.drop_left,
        found]
    · have other : ¬ "def".toList.isPrefixOf ("class".toList ++ (gap ++ (name ++ behind))) = true :=
        Bool.false_ne_true
      rw [wordsBefore, List.findSome?_cons, if_neg other, List.findSome?_cons, if_pos front,
        ← String.length_toList, List.drop_left, found]

/-- The name is found behind `def` or `class` and blanks, somewhere in the rest of the line. -/
theorem nameColumn_eq_some {pre : List Char} {k : Nat}
    (h : nameColumn name pre.getLast? pre.length s = some k) :
    ∃ front keyword gap behind, pre ++ s = front ++ (keyword ++ (gap ++ (name ++ behind))) ∧
      pre.length ≤ front.length ∧ boundary front.getLast? keyword.head? = true ∧
      Heading name keyword gap behind ∧ k = (front ++ keyword ++ gap).length := by
  induction s generalizing pre with
  | nil => cases h
  | cons c s ih =>
    rw [nameColumn] at h
    split at h
    · next n here =>
      obtain ⟨starts, here⟩ := Option.ite_none_right_eq_some.mp here
      obtain ⟨keyword, gap, behind, text, heading, rfl⟩ := wordsBefore_eq_some.mp here
      have first : keyword.head? = some c := by
        rcases heading.keyword_eq with rfl | rfl <;> exact (List.cons.inj text).1 ▸ rfl
      refine ⟨pre, keyword, gap, behind, by rw [text], le_rfl, by rwa [first], heading, ?_⟩
      rw [← Option.some.inj h, List.length_append, List.length_append, Nat.add_assoc]
    · have grown : nameColumn name (pre ++ [c]).getLast? (pre ++ [c]).length s = some k := by
        rwa [List.getLast?_concat, List.length_append]
      obtain ⟨front, keyword, gap, behind, text, long, found⟩ := ih grown
      rw [List.length_append] at long
      exact ⟨front, keyword, gap, behind, by rw [← text, List.append_assoc]; rfl, by omega, found⟩

/-- It is found if it stands so anywhere there. -/
theorem nameColumn_isSome {pre more : List Char}
    (starts : boundary (pre ++ more).getLast? keyword.head? = true)
    (heading : Heading name keyword gap behind) :
    (nameColumn name pre.getLast? pre.length
      (more ++ (keyword ++ (gap ++ (name ++ behind))))).isSome := by
  induction more generalizing pre with
  | nil =>
    have here := wordsBefore_eq_some.mpr ⟨keyword, gap, behind, rfl, heading, rfl⟩
    obtain ⟨c, rest, first⟩ : ∃ c rest, keyword = c :: rest := by
      rcases heading.keyword_eq with rfl | rfl
      · exact ⟨_, _, rfl⟩
      · exact ⟨_, _, rfl⟩
    rw [List.append_nil] at starts
    rw [first, List.cons_append] at here
    rw [first, List.head?_cons] at starts
    rw [first, List.nil_append, List.cons_append, nameColumn, if_pos starts, here]
    rfl
  | cons c more ih =>
    rw [List.cons_append, nameColumn]
    split
    · rfl
    · have later : boundary ((pre ++ [c]) ++ more).getLast? keyword.head? = true := by
        rwa [List.append_assoc]
      have grown := ih later
      rwa [List.getLast?_concat, List.length_append] at grown

/-- The row where the definition starts holds `def` or `class`, blanks and the name behind `front`, not
in front of where the definition starts. -/
structure Legible (lines : Buffer) (d : Definition) (front keyword gap behind : List Char) : Prop where
  line : lines[d.start.row]? = some (front ++ (keyword ++ (gap ++ (d.name.toList ++ behind))))
  column : Buffer.columnOfByte (front ++ (keyword ++ (gap ++ (d.name.toList ++ behind))))
    d.start.byte ≤ front.length
  starts : boundary front.getLast? keyword.head? = true
  heading : Heading d.name.toList keyword gap behind

variable {lines : Buffer} {d : Definition} {span : Span}

theorem nameSpan_of_line {line pre post : List Char} (hline : lines[d.start.row]? = some line)
    (text : line = pre ++ post) (hpre : Buffer.columnOfByte line d.start.byte = pre.length) :
    d.nameSpan lines = (nameColumn d.name.toList pre.getLast? pre.length post).map fun k =>
      ⟨⟨d.start.row, k⟩, ⟨d.start.row, k + d.name.length⟩⟩ := by
  unfold Definition.nameSpan
  rw [hline]
  dsimp only [bind, Option.bind]
  rw [hpre, text, List.take_left, List.drop_left]
  cases nameColumn d.name.toList pre.getLast? pre.length post <;> rfl

theorem exists_split_line (line : List Char) (byte : Int) : ∃ pre post, line = pre ++ post ∧
    Buffer.columnOfByte line byte = pre.length := by
  have short : Buffer.columnOfByte line byte ≤ line.length := Buffer.fits_le_length ..
  exact ⟨line.take (Buffer.columnOfByte line byte), line.drop (Buffer.columnOfByte line byte),
    (List.take_append_drop ..).symm, (List.length_take_of_le short).symm⟩

/-- The span of a name is that of the characters behind the first words of the definition. -/
theorem nameSpan_eq_some (h : d.nameSpan lines = some span) :
    ∃ front keyword gap behind, Legible lines d front keyword gap behind ∧
      span = ⟨⟨d.start.row, (front ++ keyword ++ gap).length⟩,
        ⟨d.start.row, (front ++ keyword ++ gap).length + d.name.length⟩⟩ := by
  cases hline : lines[d.start.row]? with
  | none =>
    rw [Definition.nameSpan, hline] at h
    cases h
  | some line =>
    obtain ⟨pre, post, text, hpre⟩ := exists_split_line line d.start.byte
    rw [nameSpan_of_line hline text hpre] at h
    obtain ⟨k, hk, rfl⟩ := Option.map_eq_some_iff.mp h
    obtain ⟨front, keyword, gap, behind, text', long, starts, heading, rfl⟩ := nameColumn_eq_some hk
    rw [← text] at text'
    subst text'
    exact ⟨front, keyword, gap, behind, ⟨hline, by rwa [hpre], starts, heading⟩, rfl⟩

/-- A definition is found just where its name can be read. -/
theorem nameSpan_isSome : (d.nameSpan lines).isSome ↔
    ∃ front keyword gap behind, Legible lines d front keyword gap behind := by
  constructor
  · intro h
    obtain ⟨span, hspan⟩ := Option.isSome_iff_exists.mp h
    obtain ⟨front, keyword, gap, behind, legible, -⟩ := nameSpan_eq_some hspan
    exact ⟨front, keyword, gap, behind, legible⟩
  · rintro ⟨front, keyword, gap, behind, line, column, starts, heading⟩
    obtain ⟨pre, more, rfl, hpre⟩ : ∃ pre more, front = pre ++ more ∧ Buffer.columnOfByte
        (front ++ (keyword ++ (gap ++ (d.name.toList ++ behind)))) d.start.byte = pre.length :=
      ⟨_, _, (List.take_append_drop _ front).symm, (List.length_take_of_le column).symm⟩
    rw [nameSpan_of_line line (List.append_assoc ..) hpre, Option.isSome_map]
    exact nameColumn_isSome starts heading

end Literate.Script
