import Literate.Proofs.Script.Header
import Literate.Proofs.Script.Span

/-! Which definitions have a token. The name is looked for in the row where the definition starts, as the
parser spells it. It is found there where the words in front of it stand in that row, where it is normal
as it is written, and where it does not end in a mark on the letter in front. -/

namespace Literate

/-! Rows of a text and of its buffer. -/

/-- The row of a place holds what stands in front of the place and behind it. -/
theorem Buffer.line_of_point {lines : Buffer} (flat : lines.Flat) (hne : lines ≠ [])
    {front rest : List Char} (h : lines.whole = front ++ rest) :
    ∃ here, here <:+ front ∧ (Point.after ⟨0, 0⟩ front).byte = byteLength here ∧
      lines[(Point.after ⟨0, 0⟩ front).row]? = some (here ++ rest.takeWhile (· ≠ '\n')) := by
  obtain ⟨above, line, below, j, rfl, hj, place⟩ :=
    exists_place hne (i := front.length) (by rw [h, List.length_append]; omega)
  obtain ⟨here, tail, rfl, rfl⟩ : ∃ here tail, line = here ++ tail ∧ j = here.length :=
    ⟨line.take j, line.drop j, (List.take_append_drop ..).symm, (List.length_take_of_le hj).symm⟩
  have unbroken : ∀ l ∈ above, '\n' ∉ l := fun l hl => flat l (by simp [hl])
  have line : '\n' ∉ here ++ tail := flat _ (by simp)
  rw [List.mem_append, not_or] at line
  obtain ⟨more, text, ends⟩ : ∃ more,
      whole (above ++ (here ++ tail) :: below) = (Text.closedLines above ++ here) ++ (tail ++ more) ∧
      ∀ c, more.head? = some c → c = '\n' := by
    rw [whole, Text.joinWith_append]
    cases below with
    | nil => exact ⟨[], by simp [Text.joinWith], by rintro _ ⟨⟩⟩
    | cons next below =>
      rw [Text.joinWith_cons]
      exact ⟨'\n' :: Text.joinWith ['\n'] (next :: below), by simp, fun c hc => (Option.some.inj hc).symm⟩
  obtain ⟨rfl, rfl⟩ := List.append_inj (text.symm.trans h) (by rw [List.length_append, place])
  have point : Point.after ⟨0, 0⟩ (Text.closedLines above ++ here) = ⟨above.length, byteLength here⟩ := by
    rw [Point.after_append, Point.after_closedLines 0 unbroken, Point.after_line _ line.1]
    simp
  rw [point]
  refine ⟨here, List.suffix_append _ _, rfl, ?_⟩
  have cut : (tail ++ more).takeWhile (· ≠ '\n') = tail :=
    takeWhile_append_of_head (fun c hc => decide_eq_true (ne_of_mem_of_not_mem hc line.2))
      (fun c hc => by simpa using ends c hc)
  rw [cut]
  simp

theorem Text.splitAt_snoc (sep : Char) (s : List Char) :
    splitAt sep (s ++ [sep]) = splitAt sep s ++ [[]] := by
  unfold splitAt
  induction s with
  | nil => simp [List.splitOn_cons_eq_if_modifyHead]
  | cons c s ih =>
    rw [List.cons_append, List.splitOn_cons_eq_if_modifyHead, List.splitOn_cons_eq_if_modifyHead c s, ih]
    split
    · rfl
    · obtain ⟨l, ls, h⟩ := List.exists_cons_of_ne_nil (List.splitOn_ne_nil sep s)
      rw [h]
      rfl

/-- Where all carriage returns are paired, lines that end in them lose these. -/
theorem Text.forall₂_unifyBreaks {s : List Char} (h : Paired s) :
    List.Forall₂ (fun l l' => l' = l ∨ l' = l ++ ['\r'])
      (splitAt '\n' (unifyBreaks s)) (splitAt '\n' s) := by
  unfold splitAt
  fun_induction unifyBreaks s with
  | case1 s ih =>
    rw [List.splitOn_cons_eq_if_modifyHead, List.splitOn_cons_eq_if_modifyHead '\r',
      List.splitOn_cons_eq_if_modifyHead '\n' s]
    exact .cons (.inr rfl) (ih h.tail.tail)
  | case2 s unpaired ih =>
    obtain ⟨rest, hrest⟩ := List.head?_eq_some_iff.mp (h [] s rfl)
    exact absurd hrest (unpaired rest)
  | case3 c s _ _ ih =>
    rw [List.splitOn_cons_eq_if_modifyHead, List.splitOn_cons_eq_if_modifyHead c s]
    split
    · exact .cons (.inl rfl) (ih h.tail)
    · have lines := ih h.tail
      generalize List.splitOn '\n' (unifyBreaks s) = ls, List.splitOn '\n' s = ls' at lines
      cases lines with
      | nil => exact .nil
      | cons first rest =>
        refine .cons ?_ rest
        rcases first with rfl | rfl
        · exact .inl rfl
        · exact .inr rfl
  | case4 => exact .cons (.inl rfl) .nil

namespace Script

/-- Rows that the parser reads are rows of the buffer, a carriage return at their end aside. -/
theorem line_withLineFeeds {source : String} (paired : Text.Paired source.toList) {row : Nat}
    {line : List Char} (some_line : line ≠ [])
    (h : (Text.splitAt '\n' (Strict.withLineFeeds source.toList))[row]? = some line) :
    ∃ line', (Buffer.ofText source)[row]? = some line' ∧ (line' = line ∨ line' = line ++ ['\r']) := by
  have found : (Text.splitAt '\n' (Text.unifyBreaks source.toList))[row]? = some line := by
    unfold Strict.withLineFeeds at h
    dsimp only at h
    split at h
    · exact h
    · rw [Text.splitAt_snoc, List.getElem?_append] at h
      split at h
      · exact h
      · exact absurd (List.mem_singleton.mp (List.mem_of_getElem? h)) some_line
  have lines := Text.forall₂_unifyBreaks paired
  obtain ⟨inside, rfl⟩ := List.getElem?_eq_some_iff.mp found
  have inside' := inside
  rw [lines.length_eq] at inside'
  exact ⟨_, List.getElem?_eq_getElem inside', lines.get inside inside'⟩

/-! From the text to the row. -/

/-- The first words and the name stand in one row, and the name can be found there as it is written. -/
structure Spelled (lead gap word : List Char) : Prop where
  unbroken : '\n' ∉ lead ++ gap
  normal : Text.normalize word = word
  ends : word.getLast?.map Text.isWord = some true

variable {front gap word behind : List Char} {d : Definition}

/-- Blanks between words end no word. -/
theorem clear_of_blank (blank : ∀ c ∈ gap, isLayout c = true) : Clear gap :=
  fun c hc => inWord_of_isLayout (blank c (List.mem_of_getLast? hc))

namespace Definition.Header

variable {text lead keyword : List Char} (h : d.Header text front lead keyword gap word behind)
include h

theorem clear_lead (unbroken : '\n' ∉ lead) : Clear lead := by
  rcases h.lead with rfl | ⟨apart, rfl, some_apart, hapart⟩
  · exact .nil
  · rw [List.mem_append, not_or] at unbroken
    exact Clear.behind (clear_of_blank (hapart.blank unbroken.2)) some_apart

theorem isWord_keyword : ∃ c cs, keyword = c :: cs ∧ Text.isWord c = true := by
  rcases h.keyword_eq with rfl | rfl
  · exact ⟨'d', _, rfl, by decide⟩
  · exact ⟨'c', _, rfl, by decide⟩

/-- Where all of it stands in one row, this is the row where it starts. -/
theorem unbroken_row (unbroken : '\n' ∉ lead ++ gap) :
    '\n' ∉ lead ++ (keyword ++ (gap ++ word)) := by
  have hkeyword : '\n' ∉ keyword := by
    rcases h.keyword_eq with rfl | rfl <;> decide
  have hword : '\n' ∉ word := fun mem => absurd (h.whole.inside _ mem) (by decide)
  simp only [List.mem_append, not_or] at unbroken ⊢
  exact ⟨unbroken.1, hkeyword, unbroken.2, hword⟩

/-- The name is found in the row. -/
theorem legible {lines : Buffer} {here behind' : List Char} (spelled : Spelled lead gap word)
    (suffix : here <:+ front) (byte : d.start.byte = Buffer.byteLength here)
    (line : lines[d.start.row]? = some (here ++ (lead ++ (keyword ++ (gap ++ (word ++ behind'))))))
    (outside : ∀ c, behind'.head? = some c → Pattern.inWord c = false) :
    Legible lines d (here ++ lead) keyword gap behind' := by
  have unbroken := spelled.unbroken
  rw [List.mem_append, not_or] at unbroken
  have name : d.name.toList = word := by
    rw [h.name, String.toList_ofList, spelled.normal]
  have row : (here ++ lead) ++ (keyword ++ (gap ++ (d.name.toList ++ behind'))) =
      here ++ (lead ++ (keyword ++ (gap ++ (word ++ behind')))) := by
    rw [name, List.append_assoc]
  refine ⟨row ▸ line, ?_, ?_, h.keyword_eq, h.some_gap, ?_, ?_, ?_⟩
  · rw [row, byte, Buffer.columnOfByte_append, List.length_append]
    omega
  · obtain ⟨c, cs, rfl, hc⟩ := h.isWord_keyword
    exact boundary_of_clear ((h.fresh.of_suffix suffix).append (h.clear_lead unbroken.1)) hc
  · exact fun c hc => isBlank_of_isLayout (h.apart.blank unbroken.2 c hc)
  · intro c hc
    obtain ⟨a, as, rfl⟩ := List.exists_cons_of_ne_nil h.whole.ne_nil
    rw [name] at hc
    cases hc
    exact Text.isBlank_head h.whole.identifier
  · rw [name, boundary, spelled.ends]
    cases next : behind'.head? with
    | none => rfl
    | some c =>
      rw [Option.map_some, isWord_of_not_inWord (outside c next)]
      rfl

end Definition.Header

/-- Nothing goes on with the name in the row either. -/
theorem Whole.outside_line {c : Char} (h : Whole word behind)
    (hc : (behind.takeWhile (· ≠ '\n')).head? = some c) : Pattern.inWord c = false := by
  rw [List.head?_takeWhile, Option.filter_eq_some_iff] at hc
  exact h.outside c hc.1

/-- A definition that is spelled so is found, where all carriage returns are paired. -/
theorem Definition.Header.nameSpan_isSome {source : String} {lead keyword : List Char}
    (paired : Text.Paired source.toList)
    (h : d.Header (Strict.withLineFeeds source.toList) front lead keyword gap word behind)
    (spelled : Spelled lead gap word) : (d.nameSpan (Buffer.ofText source)).isSome := by
  have text := Buffer.whole_ofText (String.ofList (Strict.withLineFeeds source.toList))
  rw [String.toList_ofList, h.text_eq] at text
  obtain ⟨here, suffix, byte, line⟩ :=
    Buffer.line_of_point (Buffer.flat_ofText _) (Buffer.ofText_ne_nil _) text
  have unbroken := h.unbroken_row spelled.unbroken
  have cut : (lead ++ (keyword ++ (gap ++ (word ++ behind)))).takeWhile (· ≠ '\n') =
      lead ++ (keyword ++ (gap ++ (word ++ behind.takeWhile (· ≠ '\n')))) := by
    have words : lead ++ (keyword ++ (gap ++ (word ++ behind))) =
        (lead ++ (keyword ++ (gap ++ word))) ++ behind := by simp only [List.append_assoc]
    rw [words, List.takeWhile_append_of_pos fun c hc =>
      decide_eq_true (ne_of_mem_of_not_mem hc unbroken)]
    simp only [List.append_assoc]
  rw [← h.start, cut, Buffer.ofText, String.toList_ofList, ← h.text_eq] at line
  rw [← h.start] at byte
  obtain ⟨row, hrow, same⟩ := line_withLineFeeds paired (by simp [h.some_gap]) line
  rw [Script.nameSpan_isSome]
  rcases same with rfl | rfl
  · exact ⟨_, _, _, _, h.legible spelled suffix byte hrow fun c => h.whole.outside_line⟩
  · -- a carriage return at the end of the row goes on with nothing
    refine ⟨_, _, _, behind.takeWhile (· ≠ '\n') ++ ['\r'],
      h.legible spelled suffix byte ?_ fun c hc => ?_⟩
    · rw [hrow]
      simp only [List.append_assoc]
    · rw [List.head?_append, Option.or_eq_some_iff] at hc
      rcases hc with hc | ⟨-, hc⟩
      · exact h.whole.outside_line hc
      · cases hc
        decide

/-- Each definition that is found has one token, in the order of the script: its symbol is made of the
names around it and its own, and it lies on the name. A definition is found just where its name can be
read in the row where it starts. Where all carriage returns are paired, its header stands in the text,
and it is found if that is spelled so that its row has it. -/
theorem symbols_index_definitions {source : String} {o : Outline} {ts : List Token}
    (parsed : Outline.ofSource source = .ok o) (h : symbols source = .ok ts) :
    (∃ defs refs, ts = defs ++ refs ∧
      List.Forall₂ (fun s t => t.mark.isDefinition = true ∧ t.mark.symbol = s.symbol ∧
        (Buffer.ofText source).Covers t.span s.name) (o.found (Buffer.ofText source)) defs ∧
      ∀ t ∈ refs, t.mark.isDefinition = false) ∧
    (∀ s ∈ o.sites, s ∈ o.found (Buffer.ofText source) ↔
      ∃ front keyword gap behind,
        Legible (Buffer.ofText source) s.definition front keyword gap behind) ∧
    ∀ s ∈ o.sites, ∃ front lead keyword gap word behind,
      s.definition.Header (Strict.withLineFeeds source.toList) front lead keyword gap word behind ∧
      (Text.Paired source.toList → Spelled lead gap word → s ∈ o.found (Buffer.ofText source)) := by
  rw [symbols, parsed] at h
  obtain ⟨ls, refs, rfl, hls, hrefs⟩ := symbolsOf_eq_ok.mp h
  refine ⟨⟨ls.map Located.token, refs, rfl, ?_, fun t ht => ?_⟩, fun s hs => ?_, fun s hs => ?_⟩
  · rw [List.forall₂_map_right_iff]
    exact hls.imp fun s l found => ⟨rfl, congrArg codes found.symbol_eq, found.covers⟩
  · obtain ⟨u, -, refers⟩ := exists_of_mem_right hrefs ht
    obtain ⟨l, -, mark⟩ := refers.target
    rw [mark]
  · rw [Outline.found, List.mem_filter, Script.nameSpan_isSome]
    exact and_iff_right hs
  · obtain ⟨front, lead, keyword, gap, word, behind, header⟩ :=
      (Outline.headed_ofSource parsed).site hs
    exact ⟨front, lead, keyword, gap, word, behind, header, fun paired spelled =>
      List.mem_filter.mpr ⟨hs, header.nameSpan_isSome paired spelled⟩⟩

/-! A function in a class. -/

namespace Nested

def source : String := "class A:
  async def f(): pass
"

def buffer : Buffer := ["class A:".toList, "  async def f(): pass".toList, []]

def tokens : List Token := [
  ⟨⟨⟨0, 6⟩, ⟨0, 7⟩⟩, { symbol := "A", isDefinition := true, doc := ["class A"] }⟩,
  ⟨⟨⟨1, 12⟩, ⟨1, 13⟩⟩, { symbol := "A.f", isDefinition := true, doc := ["async def f()"] }⟩]

theorem symbols_eq : symbols source = .ok tokens := by
  decide +kernel

theorem buffer_eq : Buffer.ofText source = buffer := by
  decide +kernel

theorem outline_eq : (Outline.ofSource source).toOption.map
    (fun o => (o.found buffer).map fun s => (s.name, s.symbol)) = some [("A", "A"), ("f", "A.f")] := by
  decide +kernel

end Nested

open Nested in
theorem symbols_index_definitions_nested : symbols source = .ok tokens ∧
    ∃ defs refs, tokens = defs ++ refs ∧
      List.Forall₂ (fun n t => t.mark.isDefinition = true ∧ t.mark.symbol = n.2 ∧
        buffer.Covers t.span n.1) [("A", "A"), ("f", "A.f")] defs ∧
      ∀ t ∈ refs, t.mark.isDefinition = false := by
  obtain ⟨o, parsed, hfound⟩ := exists_of_toOption_map outline_eq
  obtain ⟨⟨defs, refs, h, hdefs, hrefs⟩, -⟩ := symbols_index_definitions parsed symbols_eq
  refine ⟨symbols_eq, defs, refs, h, ?_, hrefs⟩
  rw [← hfound, List.forall₂_map_left_iff]
  rwa [buffer_eq] at hdefs

/-- A function whose name stands behind a hidden line break has no token, and neither has its use. -/
theorem symbols_hidden_break :
    symbols "def \\\n f(): pass\nf()\n" = .ok [] ∧
    (Outline.ofSource "def \\\n f(): pass\nf()\n").toOption.map (fun o => o.sites.map Site.name) =
      some ["f"] := by
  decide +kernel

end Script
end Literate
