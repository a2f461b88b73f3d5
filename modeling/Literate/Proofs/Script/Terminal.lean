import Literate.Proofs.Basic
import Literate.Proofs.Buffer.Place
import Literate.Script.Terminal

/-! Where the terminals of a script stand: each is a piece of the text, at the place that it tells, and
between two of them stand only blanks, or a line break. -/

namespace Literate.Script

open Pattern

/-- No word ends where the text ends. -/
def Clear (s : List Char) : Prop := ∀ c, s.getLast? = some c → inWord c = false

/-- only blanks, or a line break among other things -/
def Gap (s : List Char) : Prop := '\n' ∈ s ∨ ∀ c ∈ s, isLayout c = true

theorem Clear.nil : Clear [] := nofun

theorem Clear.behind {s t : List Char} (h : Clear t) (ht : t ≠ []) : Clear (s ++ t) := by
  intro c hc
  rw [List.getLast?_append_of_ne_nil s ht] at hc
  exact h c hc

theorem Clear.append {s t : List Char} (hs : Clear s) (ht : Clear t) : Clear (s ++ t) := by
  by_cases empty : t = []
  · rwa [empty, List.append_nil]
  · exact ht.behind empty

theorem clear_singleton {c : Char} (h : inWord c = false) : Clear [c] := by
  intro d hd
  cases hd
  exact h

theorem Gap.nil : Gap [] := .inr (List.forall_mem_nil _)

theorem Gap.append {s t : List Char} (hs : Gap s) (ht : Gap t) : Gap (s ++ t) := by
  rcases hs with broken | blank
  · exact .inl (List.mem_append_left t broken)
  · rcases ht with broken | more
    · exact .inl (List.mem_append_right s broken)
    · exact .inr (List.forall_mem_append.mpr ⟨blank, more⟩)

theorem gap_singleton {c : Char} (h : isLayout c = true) : Gap [c] :=
  .inr (List.forall_mem_singleton.mpr h)

theorem inWord_of_isLayout {c : Char} (h : isLayout c = true) : inWord c = false := by
  rw [isLayout, Bool.or_eq_true, Bool.or_eq_true, beq_iff_eq, beq_iff_eq, beq_iff_eq] at h
  rcases h with (rfl | rfl) | rfl <;> decide

/-! What the first terminal of a text takes. -/

theorem getLast_take_cons {c d : Char} {s : List Char} {k : Nat} (h : (s.take k).getLast? = some d) :
    ((c :: s).take (k + 1)).getLast? = some d := by
  rw [List.take_succ_cons, List.getLast?_cons, h]
  rfl

theorem getLast_quoteEnd {q : Char} {s : List Char} {k : Nat} (h : quoteEnd q s = some k) :
    (s.take k).getLast? = some q := by
  fun_induction quoteEnd q s generalizing k with
  | case1 _ _ ih =>
    obtain ⟨n, hn, rfl⟩ := Option.map_eq_some_iff.mp h
    exact getLast_take_cons (getLast_take_cons (ih hn))
  | case2 =>
    cases h
    rfl
  | case3 => cases h
  | case4 _ _ _ _ _ ih =>
    obtain ⟨n, hn, rfl⟩ := Option.map_eq_some_iff.mp h
    exact getLast_take_cons (ih hn)
  | case5 => cases h

theorem getLast_tripleEnd {q : Char} {s : List Char} {k : Nat} (h : tripleEnd q s = some k) :
    (s.take k).getLast? = some q := by
  fun_induction tripleEnd q s generalizing k with
  | case1 _ _ ih =>
    obtain ⟨n, hn, rfl⟩ := Option.map_eq_some_iff.mp h
    exact getLast_take_cons (getLast_take_cons (ih hn))
  | case2 c cs _ quotes =>
    cases h
    rw [Bool.and_eq_true, decide_eq_true_eq, beq_iff_eq] at quotes
    rw [List.take_succ_cons, quotes.2]
    rfl
  | case3 _ _ _ _ ih =>
    obtain ⟨n, hn, rfl⟩ := Option.map_eq_some_iff.mp h
    exact getLast_take_cons (ih hn)
  | case4 => cases h

theorem quote_of_stringStart {s : List Char} {n : Nat} {q : Char}
    (h : stringStart s = some (n, q)) : q = '"' ∨ q = '\'' := by
  obtain ⟨m, -, h⟩ := List.exists_of_findSome?_eq_some h
  split at h
  · split at h
    · next found =>
      cases h
      rw [Bool.and_eq_true, Bool.or_eq_true, beq_iff_eq, beq_iff_eq] at found
      exact found.1
    · cases h
  · cases h

theorem getLast_take_add {m k : Nat} {s : List Char} {c : Char}
    (h : ((s.drop m).take k).getLast? = some c) : (s.take (m + k)).getLast? = some c := by
  have some_last : (s.drop m).take k ≠ [] := by
    intro empty
    rw [empty] at h
    cases h
  rw [List.take_add, List.getLast?_append_of_ne_nil _ some_last, h]

theorem getLast_literal {s : List Char} {n : Nat} (h : literal s = some n) :
    ∃ c, (s.take n).getLast? = some c ∧ (c = '"' ∨ c = '\'') := by
  unfold literal at h
  split at h
  · cases h
  · next marks q start =>
    refine ⟨q, ?_, quote_of_stringStart start⟩
    dsimp only at h
    split at h
    · obtain ⟨k, hk, rfl⟩ := Option.map_eq_some_iff.mp h
      have last := getLast_tripleEnd hk
      rw [List.drop_drop] at last
      exact getLast_take_add last
    · obtain ⟨k, hk, rfl⟩ := Option.map_eq_some_iff.mp h
      exact getLast_take_add (getLast_quoteEnd hk)

theorem operators_clear : ∀ o ∈ operators, o.toList ≠ [] ∧
    o.toList.getLast?.all fun c => !inWord c := by
  decide

/-- The word is an identifier, and what stands behind it does not go on with it. -/
structure Whole (word behind : List Char) : Prop where
  identifier : Text.isIdentifier word = true
  inside : ∀ c ∈ word, inWord c = true
  outside : ∀ c, behind.head? = some c → inWord c = false

theorem Whole.ne_nil {word behind : List Char} (h : Whole word behind) : word ≠ [] := by
  rintro rfl
  cases h.identifier

/-- Two words have something between them. -/
theorem Whole.apart {word gap next behind : List Char} (h : Whole word (gap ++ (next ++ behind)))
    (hnext : Whole next behind) : gap ≠ [] := by
  rintro rfl
  obtain ⟨c, cs, rfl⟩ := List.exists_cons_of_ne_nil hnext.ne_nil
  have outside := h.outside c rfl
  rw [hnext.inside c List.mem_cons_self] at outside
  cases outside

/-- what a terminal takes of a text, and what it leaves -/
structure Takes (kind : TerminalKind) (taken rest : List Char) : Prop where
  word : kind = .name ∨ kind = .reserved → Whole taken rest
  quote : kind = .string → ∃ c, taken.getLast? = some c ∧ (c = '"' ∨ c = '\'')
  operator : kind = .operator → String.ofList taken ∈ operators
  fresh : ∀ front, Clear (front ++ taken) ∨ endsNumber rest = true

theorem endsNumber_of_head {s : List Char} (h : ∀ c, s.head? = some c → inWord c = false) :
    endsNumber s = true := by
  unfold endsNumber
  split
  · rfl
  · next c hc => rw [h c hc, Bool.not_false, Bool.true_or]

/-- A literal ends in a quote. -/
theorem takes_literal {s : List Char} {n : Nat} (h : literal s = some n) :
    Takes .string (s.take n) (s.drop n) := by
  obtain ⟨q, last, quote⟩ := getLast_literal h
  refine ⟨by simp, fun _ => ⟨q, last, quote⟩, by simp, fun front => .inl (Clear.behind ?_ ?_)⟩
  · intro c hc
    cases last.symm.trans hc
    rcases quote with rfl | rfl <;> decide
  · intro empty
    rw [empty] at last
    cases last

/-- A word ends where no character can go on with it. -/
theorem takes_word {kind : TerminalKind} {s : List Char} (kinds : kind = .name ∨ kind = .reserved)
    (identifier : Text.isIdentifier (s.takeWhile inWord) = true) :
    Takes kind (s.take (s.takeWhile inWord).length) (s.drop (s.takeWhile inWord).length) := by
  obtain ⟨word, rest, rfl, hword, inside, outside⟩ := exists_takeWhile inWord s
  rw [hword] at identifier ⊢
  rw [List.take_left, List.drop_left]
  refine ⟨fun _ => ⟨identifier, inside, outside⟩, ?_, ?_, fun _ => .inr (endsNumber_of_head outside)⟩ <;>
  · rintro rfl
    simp at kinds

/-- Behind a number stands nothing that could belong to it. -/
theorem takes_number {s : List Char} {n : Nat} (h : strictNumber s = some n) :
    Takes .number (s.take n) (s.drop n) := by
  refine ⟨by simp, by simp, by simp, fun _ => .inr ?_⟩
  unfold strictNumber at h
  split at h
  · cases h
  · dsimp only at h
    obtain ⟨ends, h⟩ := Option.ite_none_left_eq_some.mp h
    cases h
    rw [Bool.or_eq_true, not_or, Bool.not_eq_true', Bool.not_eq_false] at ends
    exact ends.2

theorem takes_operator {s : List Char} {n : Nat} (h : operator s = some n) :
    Takes .operator (s.take n) (s.drop n) := by
  obtain ⟨o, ho, rfl⟩ := Option.map_eq_some_iff.mp h
  obtain ⟨some_text, last⟩ := operators_clear o (List.mem_of_find?_eq_some ho)
  have front := List.find?_some ho
  obtain ⟨rest, rfl⟩ := List.isPrefixOf_iff_prefix.mp front
  rw [← String.length_toList, List.take_left]
  refine ⟨by simp, by simp, fun _ => ?_, fun front => .inl (Clear.behind ?_ some_text)⟩
  · rw [String.ofList_toList]
    exact List.mem_of_find?_eq_some ho
  intro c hc
  rw [hc] at last
  simpa using last

theorem takes_first {s : List Char} {kind : TerminalKind} {k : Nat}
    (h : Strict.first? s = some (kind, k)) : Takes kind (s.take k) (s.drop k) := by
  unfold Strict.first? at h
  split at h
  · cases h
  · split at h
    · obtain ⟨n, hn, h⟩ := Option.map_eq_some_iff.mp h
      cases h
      exact takes_literal hn
    · split at h
      · dsimp only at h
        split at h
        · next identifier =>
          cases h
          split
          · exact takes_word (.inr rfl) identifier
          · exact takes_word (.inl rfl) identifier
        · cases h
      · split at h
        · obtain ⟨n, hn, h⟩ := Option.map_eq_some_iff.mp h
          cases h
          exact takes_number hn
        · obtain ⟨n, hn, h⟩ := Option.map_eq_some_iff.mp h
          cases h
          exact takes_operator hn

/-! What the terminals of a text have to do with it. -/

/-- Behind `front` and `gap` the terminal is a piece of the text, in front of `rest`. -/
structure Terminal.Stands (t : Terminal) (front gap rest : List Char) : Prop where
  start : t.start = Point.after ⟨0, 0⟩ (front ++ gap)
  stop : t.stop = t.start.after t.text.toList
  apart : Gap gap
  fresh : Clear (front ++ gap) ∨ endsNumber (t.text.toList ++ rest) = true
  takes : Takes t.kind t.text.toList rest

/-- Behind `front` the rest of a text is read as these terminals. Some of them have no text. -/
inductive Reads : List Char → List Char → List Terminal → Prop where
  | done {front rest : List Char} : Reads front rest []
  | mark {front rest : List Char} {t : Terminal} {ts : List Terminal} :
    t.kind = .newline ∨ t.kind = .indent ∨ t.kind = .dedent ∨ t.kind = .endOfText →
    Reads front rest ts → Reads front rest (t :: ts)
  | read {front gap rest : List Char} {t : Terminal} {ts : List Terminal} :
    t.Stands front gap rest → Reads (front ++ gap ++ t.text.toList) rest ts →
    Reads front (gap ++ (t.text.toList ++ rest)) (t :: ts)

/-- the place behind the text so far, where a line may start -/
structure Settled (front gap : List Char) (p : Point) : Prop where
  place : p = Point.after ⟨0, 0⟩ (front ++ gap)
  apart : Gap gap

theorem Settled.append {front gap more : List Char} {p : Point} (h : Settled front gap p)
    (hmore : Gap more) : Settled front (gap ++ more) (p.after more) := by
  refine ⟨?_, h.apart.append hmore⟩
  rw [h.place, ← List.append_assoc, Point.after_append _ (front ++ gap)]

/-- Behind a line break only the row of the place counts. -/
theorem settled_of_break {front gap : List Char} {p : Point}
    (h : p.row = (Point.after ⟨0, 0⟩ (front ++ gap)).row) :
    Settled front (gap ++ ['\n']) ⟨p.row + 1, 0⟩ := by
  refine ⟨?_, .inl (by simp)⟩
  rw [h, ← List.append_assoc, Point.after_append _ (front ++ gap)]
  rfl

theorem row_after (p : Point) (s : List Char) : (p.after s).row = p.row + s.count '\n' := by
  induction s generalizing p with
  | nil => rfl
  | cons c s ih =>
    rw [Point.after, List.foldl_cons, ← Point.after, ih, List.count_cons]
    split
    · next h => simp [h]; omega
    · next h => simp [h]

theorem row_after_append {p : Point} {s t : List Char} (h : '\n' ∉ t) :
    (p.after (s ++ t)).row = (p.after s).row := by
  rw [Point.after_append, row_after _ t, List.count_eq_zero.mpr h, Nat.add_zero]

theorem blanks_behind {c : Char} {p p' q : Point} {s rest : List Char} (layout : isLayout c = true)
    (place : p' = p.after [c]) (h : ∃ b, s = b ++ rest ∧ q = p'.after b ∧ Gap b ∧ Clear b) :
    ∃ b, c :: s = b ++ rest ∧ q = p.after b ∧ Gap b ∧ Clear b := by
  obtain ⟨b, rfl, rfl, gap, clear⟩ := h
  refine ⟨[c] ++ b, rfl, ?_, (gap_singleton layout).append gap,
    (clear_singleton (inWord_of_isLayout layout)).append clear⟩
  rw [place, Point.after_append]

theorem blanks_eq_some {p q : Point} {m k : Strict.Margin} {held : Nat} {s rest : List Char}
    (h : Strict.blanks p m held s = some (k, q, rest)) :
    ∃ b, s = b ++ rest ∧ q = p.after b ∧ Gap b ∧ Clear b := by
  fun_induction Strict.blanks p m held s with
  | case1 _ _ _ _ ih => exact blanks_behind rfl rfl (ih h)
  | case2 _ _ _ _ ih => exact blanks_behind rfl rfl (ih h)
  | case3 _ _ _ _ ih => exact blanks_behind rfl rfl (ih h)
  | case4 p _ _ c s ih =>
    obtain ⟨b, hs, rfl, -, clear⟩ := ih h
    have hidden : Clear ['\\', '\n'] := by
      rintro _ ⟨⟩
      rfl
    refine ⟨['\\', '\n'] ++ b, by rw [hs]; rfl, ?_, .inl (by simp), hidden.append clear⟩
    rw [Point.after_append]
    rfl
  | case5 => cases h
  | case6 =>
    cases h
    exact ⟨[], rfl, rfl, .nil, .nil⟩

/-- the rest of a line, and where it ends -/
theorem exists_lineEnd (s : List Char) : ∃ w, s = w ++ s.dropWhile (· ≠ '\n') ∧ '\n' ∉ w ∧
    ∀ c, (s.dropWhile (· ≠ '\n')).head? = some c → c = '\n' := by
  refine ⟨s.takeWhile (· ≠ '\n'), List.takeWhile_append_dropWhile.symm, fun h => ?_, fun c hc => ?_⟩
  · simpa using List.mem_takeWhile_imp h
  · have := List.head?_dropWhile_not (· ≠ '\n') s
    rw [hc] at this
    simpa using this

theorem kind_of_adjust {margins rest : List Strict.Margin} {m : Strict.Margin} {p : Point}
    {marks : List Terminal} (h : Strict.adjust margins m p = some (marks, rest)) :
    ∀ t ∈ marks, t.kind = .indent ∨ t.kind = .dedent := by
  unfold Strict.adjust at h
  dsimp only at h
  split at h
  · obtain ⟨-, h⟩ := Option.ite_none_right_eq_some.mp h
    cases h
    exact List.forall_mem_nil _
  · split at h
    · obtain ⟨-, h⟩ := Option.ite_none_right_eq_some.mp h
      cases h
      exact List.forall_mem_singleton.mpr (.inl rfl)
    · obtain ⟨-, h⟩ := Option.ite_none_right_eq_some.mp h
      cases h
      exact List.forall_mem_map.mpr fun _ _ => .inr rfl

theorem Reads.marks {front rest : List Char} {marks ts : List Terminal}
    (hmarks : ∀ t ∈ marks, t.kind = .newline ∨ t.kind = .indent ∨ t.kind = .dedent ∨
      t.kind = .endOfText) (h : Reads front rest ts) : Reads front rest (marks ++ ts) := by
  induction marks with
  | nil => exact h
  | cons t marks ih =>
    obtain ⟨ht, hmarks⟩ := List.forall_mem_cons.mp hmarks
    exact .mark ht (ih hmarks)

/-- Where reading goes on behind `front` and `gap`: at the start of a line, inside of one, or behind a
comment, whose length counts for nothing. -/
inductive Underway (front gap : List Char) : Bool → List Char → Point → Prop where
  | line {s : List Char} {p : Point} : Settled front gap p → Clear (front ++ gap) →
    Underway front gap true s p
  | done {p : Point} : Underway front gap true [] p
  | inside {s : List Char} {p : Point} : Settled front gap p →
    Clear (front ++ gap) ∨ endsNumber s = true → Underway front gap false s p
  | comment {s : List Char} {p : Point} : (∀ c, s.head? = some c → c = '\n') →
    p.row = (Point.after ⟨0, 0⟩ (front ++ gap)).row → Underway front gap false s p

variable {front gap s : List Char} {p : Point} {c : Char}

theorem Underway.row (h : Underway front gap false s p) :
    p.row = (Point.after ⟨0, 0⟩ (front ++ gap)).row := by
  cases h with
  | inside settled _ => rw [settled.place]
  | comment _ row => exact row

theorem Underway.settled (h : Underway front gap false (c :: s) p) (hc : c ≠ '\n') :
    Settled front gap p ∧ (Clear (front ++ gap) ∨ endsNumber (c :: s) = true) := by
  cases h with
  | inside settled fresh => exact ⟨settled, fresh⟩
  | comment starts _ => exact absurd (starts c rfl) hc

theorem clear_break (front gap : List Char) : Clear (front ++ (gap ++ ['\n'])) := by
  rw [← List.append_assoc]
  exact Clear.behind (clear_singleton rfl) (List.cons_ne_nil _ _)

theorem Reads.taken {kind : TerminalKind} {text rest : List Char} {ts : List Terminal}
    (settled : Settled front gap p) (takes : Takes kind text rest)
    (fresh : Clear (front ++ gap) ∨ endsNumber (text ++ rest) = true)
    (more : Reads (front ++ gap ++ text) rest ts) :
    Reads front (gap ++ (text ++ rest)) (⟨kind, String.ofList text, p, p.after text⟩ :: ts) := by
  obtain ⟨word, rfl⟩ : ∃ word : String, text = word.toList :=
    ⟨String.ofList text, String.toList_ofList.symm⟩
  rw [String.ofList_toList]
  have stands : Terminal.Stands ⟨kind, word, p, p.after word.toList⟩ front gap rest :=
    ⟨settled.place, rfl, settled.apart, fresh, takes⟩
  exact .read stands more

/-- Behind the blanks at its start a line begins. -/
theorem Underway.blanks {b rest : List Char} (h : Underway front gap true (b ++ rest) p)
    (hgap : Gap b) (hclear : Clear b) (some_rest : rest ≠ []) :
    Settled front (gap ++ b) (p.after b) ∧ Clear (front ++ (gap ++ b)) := by
  generalize begun : b ++ rest = s at h
  cases h with
  | line settled clear =>
    refine ⟨settled.append hgap, ?_⟩
    rw [← List.append_assoc]
    exact clear.append hclear
  | done => exact absurd (List.append_eq_nil_iff.mp begun).2 some_rest

/-- Behind the rest of a line the next one starts. -/
theorem Underway.nextLine {rest : List Char} (settled : Settled front gap p) :
    ∃ more, rest = more ++ (rest.dropWhile (· ≠ '\n')).drop 1 ∧
      Underway front (gap ++ more) true ((rest.dropWhile (· ≠ '\n')).drop 1) ⟨p.row + 1, 0⟩ := by
  obtain ⟨w, hw, unbroken, ends⟩ := exists_lineEnd rest
  cases hrest : rest.dropWhile (· ≠ '\n') with
  | nil => exact ⟨rest, (List.append_nil rest).symm, .done⟩
  | cons c behind =>
    rw [hrest] at hw ends
    obtain rfl := ends c rfl
    refine ⟨w ++ ['\n'], by rw [hw, List.append_assoc]; rfl, ?_⟩
    have row : p.row = (Point.after ⟨0, 0⟩ (front ++ (gap ++ w))).row := by
      rw [← List.append_assoc, row_after_append unbroken, settled.place]
    rw [← List.append_assoc]
    exact .line (settled_of_break row) (clear_break front _)

/-- The terminals that are read from a text stand in it. -/
theorem reads_scan {n : Nat} {line : Bool} {o : Strict.Open} {ts : List Terminal}
    (under : Underway front gap line s o.place) (h : Strict.scan n line o s = some ts) :
    Reads front (gap ++ s) ts := by
  fun_induction Strict.scan n line o s generalizing front gap ts with
  | case1 => cases h
  | case2 n o s next begun =>
    obtain ⟨⟨m, p, rest⟩, hblanks, h⟩ := Option.bind_eq_some_iff.mp h
    obtain ⟨b, rfl, rfl, hgap, hclear⟩ := blanks_eq_some hblanks
    rw [← List.append_assoc]
    dsimp only at h
    have comment (some_rest : rest ≠ []) {us : List Terminal}
        (hus : Strict.scan n true { o with place := ⟨(o.place.after b).row + 1, 0⟩ }
          ((rest.dropWhile (· ≠ '\n')).drop 1) = some us) : Reads front (gap ++ b ++ rest) us := by
      obtain ⟨more, hmore, begins⟩ := Underway.nextLine (under.blanks hgap hclear some_rest).1
      have read := next _ _ begins hus
      rwa [List.append_assoc, ← hmore] at read
    split at h
    · cases h
      have last : Reads front (gap ++ b ++ []) [Strict.mark .endOfText (o.place.after b)] :=
        .mark (.inr (.inr (.inr rfl))) .done
      exact last.marks (List.forall_mem_map.mpr fun _ _ => .inr (.inr (.inl rfl)))
    · exact comment (List.cons_ne_nil _ _) h
    · exact comment (List.cons_ne_nil _ _) h
    · next some_rest _ _ =>
      obtain ⟨⟨marks, margins⟩, hmarks, h⟩ := Option.bind_eq_some_iff.mp h
      obtain ⟨us, hus, h⟩ := Option.bind_eq_some_iff.mp h
      cases h
      obtain ⟨settled, clear⟩ := under.blanks hgap hclear some_rest
      have read := begun _ _ margins (.inside settled (.inl clear)) hus
      refine Reads.marks (fun t ht => ?_) read
      rcases kind_of_adjust hmarks t ht with kind | kind
      · exact .inr (.inl kind)
      · exact .inr (.inr (.inl kind))
  | case3 => cases h
  | case4 n o tail ih =>
    obtain ⟨settled, fresh⟩ := under.settled (by decide)
    obtain ⟨w, hw, unbroken, ends⟩ := exists_lineEnd ('#' :: tail)
    have read : Reads front ((gap ++ w) ++ ('#' :: tail).dropWhile (· ≠ '\n')) ts := by
      refine ih (.comment ends ?_) h
      rw [← List.append_assoc, row_after_append unbroken, settled.place]
    rwa [List.append_assoc, ← hw] at read
  | case5 n o p s next =>
    rename_i ih
    obtain ⟨us, hus, rfl⟩ := Option.map_eq_some_iff.mp h
    have read : Reads front ((gap ++ ['\n']) ++ s) us :=
      ih (.line (settled_of_break under.row) (clear_break front gap)) hus
    rw [List.append_assoc] at read
    exact .mark (.inl rfl) read
  | case6 n o p s next =>
    rename_i ih
    have read : Reads front ((gap ++ ['\n']) ++ s) ts :=
      ih (.inside (settled_of_break under.row) (.inl (clear_break front gap))) h
    rwa [List.append_assoc] at read
  | case7 n o p c s =>
    rename_i ih
    obtain ⟨settled, fresh⟩ := under.settled (by decide)
    have row : o.place.row = (Point.after ⟨0, 0⟩ (front ++ (gap ++ ['\\']))).row := by
      rw [← List.append_assoc, row_after_append (by decide), settled.place]
    have read : Reads front ((gap ++ ['\\'] ++ ['\n']) ++ c :: s) ts :=
      ih (.inside (settled_of_break row) (.inl (clear_break front _))) h
    rwa [List.append_assoc, List.append_assoc] at read
  | case8 => cases h
  | case9 n o p c rest _ broken _ layout =>
    rename_i ih
    obtain ⟨settled, fresh⟩ := under.settled broken
    have clear : Clear (front ++ (gap ++ [c])) := by
      rw [← List.append_assoc]
      exact Clear.behind (clear_singleton (inWord_of_isLayout layout)) (List.cons_ne_nil _ _)
    have read : Reads front ((gap ++ [c]) ++ rest) ts :=
      ih (.inside (settled.append (gap_singleton layout)) (.inl clear)) h
    rwa [List.append_assoc] at read
  | case10 n o p c rest _ broken _ _ =>
    rename_i ih
    obtain ⟨settled, fresh⟩ := under.settled broken
    obtain ⟨⟨kind, k⟩, hfirst, h⟩ := Option.bind_eq_some_iff.mp h
    have takes := takes_first hfirst
    have under' : Underway (front ++ gap ++ (c :: rest).take k) [] false ((c :: rest).drop k)
        (o.place.after ((c :: rest).take k)) := by
      refine .inside ⟨?_, .nil⟩ ?_
      · rw [List.append_nil, Point.after_append _ (front ++ gap), settled.place]
      · rw [List.append_nil]
        exact takes.fresh _
    have close {brackets : List Char} {us : List Terminal}
        (hus : Strict.scan n false ⟨o.place.after ((c :: rest).take k), o.margins, brackets⟩
          ((c :: rest).drop k) = some us) :
        Reads front (gap ++ c :: rest) (⟨kind, String.ofList ((c :: rest).take k), o.place,
          o.place.after ((c :: rest).take k)⟩ :: us) := by
      have more : Reads (front ++ gap ++ (c :: rest).take k) ((c :: rest).drop k) us :=
        ih k brackets under' hus
      rw [← List.take_append_drop k (c :: rest)] at fresh
      have read := Reads.taken settled takes fresh more
      rwa [List.take_append_drop] at read
    dsimp only at h
    split at h
    · obtain ⟨brackets, -, h⟩ := Option.bind_eq_some_iff.mp h
      obtain ⟨us, hus, h⟩ := Option.bind_eq_some_iff.mp h
      cases h
      exact close hus
    · obtain ⟨brackets, -, h⟩ := Option.bind_eq_some_iff.mp h
      obtain ⟨us, hus, h⟩ := Option.bind_eq_some_iff.mp h
      cases h
      exact close hus

/-- The terminals of a text stand in it, one behind the other. -/
theorem reads_terminals {ts : List Terminal} (h : Strict.terminals s = some ts) :
    Reads [] (Strict.withLineFeeds s) ts := by
  have under : Underway [] [] true (Strict.withLineFeeds s) ⟨0, 0⟩ := .line ⟨rfl, .nil⟩ .nil
  exact reads_scan (o := {}) under h

end Literate.Script
