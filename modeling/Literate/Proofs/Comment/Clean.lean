import Literate.Comment.Clean
import Literate.Proofs.Basic
import Literate.Proofs.Comment.Between

/-! What is left of a comment. It loses its marks, and nothing but blanks besides: the mark of a line, or
what stands around a block and, where stars start all lines of the block, the star of each line. A block
of several lines without stars is moved to the left as a whole. -/

namespace Literate

namespace Text

/-- the lines that are not blank -/
def fullLines (ls : List (List Char)) : List (List Char) := ls.filter fun l => !blank l

theorem mem_fullLines {l : List Char} {ls : List (List Char)} :
    l ∈ fullLines ls ↔ l ∈ ls ∧ blank l = false := by
  rw [fullLines, List.mem_filter, Bool.not_eq_true']

theorem fullLines_tail {ls : List (List Char)} (h : ls.head?.any blank = true) :
    fullLines ls.tail = fullLines ls := by
  cases ls with
  | nil => rfl
  | cons l ls =>
    have first : blank l = true := h
    rw [List.tail_cons, fullLines, fullLines, List.filter_cons_of_neg (by simp [first])]

theorem fullLines_dropLast {ls : List (List Char)} (h : ls.getLast?.any blank = true) :
    fullLines ls.dropLast = fullLines ls := by
  rcases List.eq_nil_or_concat ls with rfl | ⟨ls, l, rfl⟩
  · rfl
  · rw [List.concat_eq_append, List.getLast?_concat] at h
    have last : blank l = true := h
    rw [List.concat_eq_append, List.dropLast_concat, fullLines, fullLines, List.filter_append]
    simp [last]

theorem full_of_blank {s : List Char} (h : blank s = true) : full s = [] := full_eq_nil_iff.mpr h

theorem flatMap_fullLines (ls : List (List Char)) : (fullLines ls).flatMap full = ls.flatMap full := by
  induction ls with
  | nil => rfl
  | cons l ls ih =>
    unfold fullLines at ih ⊢
    cases h : blank l with
    | true => rw [List.filter_cons_of_neg (by simp [h]), List.flatMap_cons, full_of_blank h, ih]; rfl
    | false => rw [List.filter_cons_of_pos (by simp [h]), List.flatMap_cons, List.flatMap_cons, ih]

theorem full_joinWith (ls : List (List Char)) : full (joinWith ['\n'] ls) = ls.flatMap full := by
  induction ls with
  | nil => rfl
  | cons l ls ih =>
    cases ls with
    | nil => simp [joinWith]
    | cons m ls =>
      rw [joinWith_cons, full_append, List.flatMap_cons, ← ih]
      rfl

theorem full_eq_flatMap (s : List Char) : full s = (splitAt '\n' s).flatMap full := by
  rw [← full_joinWith, joinWith_eq_intercalate, splitAt, List.intercalate_splitOn]

theorem blank_trimRight (s : List Char) : blank (trimRight s) = blank s := by
  rw [Bool.eq_iff_iff, ← full_eq_nil_iff, ← full_eq_nil_iff, full_trimRight]

/-- Blanks in front of a line are of no account. -/
theorem blank_drop {n : Nat} {s : List Char} (h : blank (s.take n) = true) :
    blank (s.drop n) = blank s := by
  conv_rhs => rw [← List.take_append_drop n s, blank_append, h, Bool.true_and]

end Text

namespace Clean

open Text

section

variable {ls : List (List Char)} {l : List Char} {n : Nat}

theorem blank_take (h : n ≤ indentOf l) : blank (l.take n) = true := by
  obtain ⟨front, back, hl, hfront, inside, -⟩ := exists_takeWhile isBlank l
  rw [indentOf, hfront] at h
  rw [hl, List.take_append_of_le_length h, blank, List.all_eq_true]
  exact fun c hc => inside c (List.mem_of_mem_take hc)

theorem indentOf_le_length (l : List Char) : indentOf l ≤ l.length :=
  (List.takeWhile_prefix isBlank).length_le

/-- Without its whole indentation, a line starts at once. -/
theorem indentOf_drop_indentOf (l : List Char) : indentOf (l.drop (indentOf l)) = 0 := by
  obtain ⟨front, back, hl, hfront, -, outside⟩ := exists_takeWhile isBlank l
  have rest : l.drop (indentOf l) = back := by
    rw [indentOf, hfront, hl, List.drop_left]
  rw [rest, indentOf, List.length_eq_zero_iff]
  exact takeWhile_append_of_head (List.forall_mem_nil _) outside

theorem commonIndent_le (h : l ∈ fullLines ls) : commonIndent ls ≤ indentOf l := by
  have mem : indentOf l ∈ (fullLines ls).map indentOf := List.mem_map_of_mem h
  rw [commonIndent]
  cases hmin : ((ls.filter fun l => !blank l).map indentOf).min? with
  | none => exact Nat.zero_le _
  | some n => exact (List.min?_eq_some_iff.mp hmin).2 _ mem

theorem exists_commonIndent (h : fullLines ls ≠ []) :
    ∃ l ∈ fullLines ls, indentOf l = commonIndent ls := by
  obtain ⟨n, hn⟩ : ∃ n, ((fullLines ls).map indentOf).min? = some n := by
    rw [← Option.isSome_iff_exists, List.isSome_min?_iff]
    simpa using h
  obtain ⟨l, hl, rfl⟩ := List.mem_map.mp (List.min?_eq_some_iff.mp hn).1
  refine ⟨l, hl, ?_⟩
  rw [commonIndent, ← fullLines, hn, Option.getD_some]

theorem fullLines_trimEdges (ls : List (List Char)) : fullLines (trimEdges ls) = fullLines ls := by
  have last (ms : List (List Char)) :
      fullLines (if ms.getLast?.any blank then ms.dropLast else ms) = fullLines ms := by
    split_ifs with h
    · exact fullLines_dropLast h
    · rfl
  rw [trimEdges, last]
  split_ifs with h
  · exact fullLines_tail h
  · rfl

/-- Lines that are not blank lose their common indentation, and no line becomes blank. -/
theorem fullLines_dedent (ls : List (List Char)) :
    fullLines (dedent ls) = (fullLines ls).map (·.drop (commonIndent ls)) := by
  have cut (l : List Char) (hl : l ∈ ls) :
      blank (if commonIndent ls ≤ l.length then l.drop (commonIndent ls) else l) = blank l := by
    split_ifs
    · refine blank_drop ?_
      cases hblank : blank l with
      | true =>
        rw [blank, List.all_eq_true] at hblank ⊢
        exact fun c hc => hblank c (List.mem_of_mem_take hc)
      | false => exact blank_take (commonIndent_le (mem_fullLines.mpr ⟨hl, hblank⟩))
    · rfl
  rw [dedent, fullLines, List.filter_map]
  have same : ls.filter ((fun l => !blank l) ∘ fun l =>
      if commonIndent ls ≤ l.length then l.drop (commonIndent ls) else l) = fullLines ls :=
    List.filter_congr fun l hl => congrArg (! ·) (cut l hl)
  rw [same]
  refine List.map_congr_left fun l hl => if_pos ?_
  exact (commonIndent_le hl).trans (indentOf_le_length l)

theorem fullLines_map_trimRight (ls : List (List Char)) :
    fullLines (ls.map trimRight) = (fullLines ls).map trimRight := by
  rw [fullLines, List.filter_map]
  exact congrArg (List.map trimRight) (List.filter_congr fun l _ => congrArg (! ·) (blank_trimRight l))

end

/-- A line moved to the left by `n` characters, and without the blanks at its end. -/
def Shifted (n : Nat) (l l' : List Char) : Prop :=
  ∃ gap, blank gap = true ∧ gap.length = n ∧ trimRight l = gap ++ l'

theorem Shifted.full_eq {n : Nat} {l l' : List Char} (h : Shifted n l l') : full l' = full l := by
  obtain ⟨gap, hgap, -, hl⟩ := h
  rw [← full_trimRight l, hl, full_append, full_of_blank hgap]
  rfl

/-- What one move to the left makes of lines that are not blank: all go by the same number of characters,
and one of them starts at once then. -/
structure Moved (ls ms : List (List Char)) : Prop where
  shifted : ∃ n, List.Forall₂ (Shifted n) ls ms
  flush : ms ≠ [] → ∃ m ∈ ms, indentOf m = 0

theorem moved_dedent (ls : List (List Char)) :
    Moved (fullLines ls) (fullLines (dedent ((trimEdges ls).map trimRight))) := by
  generalize htrimmed : (trimEdges ls).map trimRight = trimmed
  have rows : fullLines trimmed = (fullLines ls).map trimRight := by
    rw [← htrimmed, fullLines_map_trimRight, fullLines_trimEdges]
  rw [fullLines_dedent]
  refine ⟨⟨commonIndent trimmed, ?_⟩, fun hne => ?_⟩
  · rw [rows, List.map_map, List.forall₂_map_right_iff, List.forall₂_same]
    intro l hl
    have fits : commonIndent trimmed ≤ indentOf (trimRight l) :=
      commonIndent_le (rows ▸ List.mem_map_of_mem hl)
    exact ⟨(trimRight l).take (commonIndent trimmed), blank_take fits,
      List.length_take_of_le (fits.trans (indentOf_le_length _)), (List.take_append_drop ..).symm⟩
  · obtain ⟨l, hl, hindent⟩ := exists_commonIndent (show fullLines trimmed ≠ [] by simpa using hne)
    exact ⟨_, List.mem_map_of_mem hl, hindent ▸ indentOf_drop_indentOf l⟩

theorem Moved.flatMap_full {ls ms : List (List Char)} (h : Moved ls ms) :
    ms.flatMap full = ls.flatMap full := by
  obtain ⟨n, hshift⟩ := h.shifted
  clear h
  induction hshift with
  | nil => rfl
  | cons hl _ ih => rw [List.flatMap_cons, List.flatMap_cons, hl.full_eq, ih]

theorem fullLines_splitAt_joinLines {ls : List (List Char)} (h : ∀ l ∈ ls, '\n' ∉ l) :
    fullLines (splitAt '\n' (joinLines ls)) = fullLines ls := by
  rcases ls.eq_nil_or_concat with rfl | ⟨_, _, hls⟩
  · rfl
  · rw [joinLines, splitAt_joinWith h (by simp [hls])]

theorem trimEdges_subset (ls : List (List Char)) : trimEdges ls ⊆ ls := by
  intro l hl
  rw [trimEdges] at hl
  split_ifs at hl
  · exact List.mem_of_mem_tail (List.mem_of_mem_dropLast hl)
  · exact List.mem_of_mem_tail hl
  · exact List.mem_of_mem_dropLast hl
  · exact hl

theorem not_mem_dedent {ls : List (List Char)} {c : Char} (h : ∀ l ∈ ls, c ∉ l) :
    ∀ l ∈ dedent ls, c ∉ l := by
  intro l hl hc
  obtain ⟨m, hm, rfl⟩ := List.mem_map.mp hl
  split_ifs at hc
  · exact h m hm (List.mem_of_mem_drop hc)
  · exact h m hm hc

/-- An inside of several lines is moved to the left as a whole. -/
theorem moved_plainBlock {ls : List (List Char)} (h : ∀ l ∈ ls, '\n' ∉ l) :
    Moved (fullLines ls) (fullLines (splitAt '\n' (plainBlock ls))) := by
  have trimmed : ∀ l ∈ (trimEdges ls).map trimRight, '\n' ∉ l := by
    intro l hl hc
    obtain ⟨m, hm, rfl⟩ := List.mem_map.mp hl
    exact h m (trimEdges_subset ls hm) ((Text.trimRight_prefix m).subset hc)
  rw [plainBlock, fullLines_splitAt_joinLines (not_mem_dedent trimmed)]
  exact moved_dedent ls

theorem full_plainBlock (ls : List (List Char)) : full (plainBlock ls) = ls.flatMap full := by
  rw [plainBlock, joinLines, full_joinWith, ← flatMap_fullLines, (moved_dedent ls).flatMap_full,
    flatMap_fullLines]

/-- A mark goes, with the blank behind it and those at the end. -/
theorem full_line (mark s : List Char) : full (line mark (mark ++ s)) = full s := by
  have starts : mark.isPrefixOf (mark ++ s) = true := List.isPrefixOf_iff_prefix.mpr (List.prefix_append ..)
  rw [line, if_pos starts, List.drop_left, full_trimRight]
  split_ifs with h
  · obtain ⟨t, rfl⟩ := List.head?_eq_some_iff.mp h
    rfl
  · rfl

/-- Some lines are not blank, and all of these start with a star. -/
structure Starred (ls : List (List Char)) : Prop where
  filled : fullLines ls ≠ []
  stars : ∀ l ∈ fullLines ls, (trimLeft l).head? = some '*'

theorem starred_iff {ls : List (List Char)} : starred ls = true ↔ Starred ls := by
  rw [starred]
  simp only [Bool.and_eq_true, Bool.not_eq_true', List.isEmpty_eq_false_iff, List.all_eq_true,
    decide_eq_true_eq]
  exact ⟨fun h => ⟨h.1, h.2⟩, fun h => ⟨h.filled, h.stars⟩⟩

/-- the lines without the first star of each -/
def eraseStars (ls : List (List Char)) : List (List Char) := ls.map (·.erase '*')

theorem full_erase_star {l : List Char} (h : (trimLeft l).head? = some '*') :
    full (l.erase '*') = full (line ['*'] (trimLeft l)) := by
  obtain ⟨r, hr⟩ := List.head?_eq_some_iff.mp h
  have split : l = l.takeWhile isBlank ++ '*' :: r := by
    rw [← hr, trimLeft, List.takeWhile_append_dropWhile]
  generalize hgap : l.takeWhile isBlank = gap at split
  have blanks : ∀ c ∈ gap, isBlank c = true := fun c hc => List.mem_takeWhile_imp (hgap ▸ hc)
  have no_star : '*' ∉ gap := fun hc => absurd (blanks _ hc) (by decide)
  have erased : l.erase '*' = gap ++ r := by
    rw [split, List.erase_append_right _ no_star, List.erase_cons_head]
  have nothing : full gap = [] := full_of_blank (List.all_eq_true.mpr blanks)
  rw [erased, full_append, nothing, hr]
  exact (full_line ['*'] r).symm

theorem full_unstar {ls : List (List Char)} (h : Starred ls) :
    full (joinLines (unstar ls)) = (eraseStars ls).flatMap full := by
  have edges (ms : List (List Char)) :
      fullLines (if ms.getLast? = some [] then ms.dropLast else ms) = fullLines ms := by
    split_ifs with hlast
    · exact fullLines_dropLast (by rw [hlast]; rfl)
    · rfl
  have inner : fullLines (unstar ls) =
      fullLines (ls.map fun l => if blank l then [] else line ['*'] (trimLeft l)) := by
    rw [unstar, edges]
    split_ifs with hfirst
    · exact fullLines_tail (by rw [hfirst]; rfl)
    · rfl
  rw [joinLines, full_joinWith, ← flatMap_fullLines, inner, flatMap_fullLines, eraseStars,
    List.flatMap_map, List.flatMap_map]
  refine List.flatMap_congr fun l hl => ?_
  cases hblank : blank l with
  | true =>
    have no_star : '*' ∉ l := fun hc => absurd (List.all_eq_true.mp hblank _ hc) (by decide)
    rw [if_pos rfl, List.erase_of_not_mem no_star, full_of_blank hblank]
    rfl
  | false =>
    rw [if_neg (by decide), full_erase_star (h.stars l (mem_fullLines.mpr ⟨hl, hblank⟩))]

/-- what a comment to the end of the line starts with -/
def lineMark : CommentStyle → List Char
  | .slashes => ['/', '/']
  | .hash => ['#']
  | .dashes => ['-', '-']

/-- A block and its inside. Braces and dashes need blanks of their own inside, one at each end. -/
inductive IsBlock : CommentStyle → (inner s : List Char) → Prop where
  | stars (inner : List Char) : IsBlock .slashes inner (['/', '*'] ++ inner ++ ['*', '/'])
  | braces (text : List Char) : IsBlock .dashes ([' '] ++ text ++ [' '])
      (['\x7b', '-', ' '] ++ text ++ [' ', '-', '\x7d'])

/-- A block in which stars, if there are any, belong to the text. -/
structure PlainBlock (style : CommentStyle) (inner s : List Char) : Prop where
  block : IsBlock style inner s
  plain : style = .slashes → ¬ Starred (splitAt '\n' inner)

/-- a comment without its marks, where it has any -/
inductive Strips : CommentStyle → (s bare : List Char) → Prop where
  | line (style : CommentStyle) (s : List Char) : Strips style (lineMark style ++ s) s
  | starred {inner s : List Char} (block : IsBlock .slashes inner s)
      (stars : Starred (splitAt '\n' inner)) :
      Strips .slashes s (joinLines (eraseStars (splitAt '\n' inner)))
  | plain {style : CommentStyle} {inner s : List Char} (h : PlainBlock style inner s) :
      Strips style s inner

theorem enclosed_iff {first last s : List Char} :
    enclosed first last s = true ↔ ∃ inner, s = first ++ inner ++ last := by
  simp only [enclosed, Bool.and_eq_true, decide_eq_true_eq, List.isPrefixOf_iff_prefix,
    List.isSuffixOf_iff_suffix]
  constructor
  · rintro ⟨⟨⟨t, rfl⟩, hlast⟩, hlength⟩
    rw [List.length_append] at hlength
    obtain ⟨inner, rfl⟩ : last <:+ t :=
      List.suffix_of_suffix_length_le hlast (List.suffix_append ..) (by omega)
    exact ⟨inner, (List.append_assoc ..).symm⟩
  · rintro ⟨inner, rfl⟩
    refine ⟨⟨?_, List.suffix_append ..⟩, by simp⟩
    rw [List.append_assoc]
    exact List.prefix_append ..

/-- Without the two characters at either end. -/
theorem inside_append (a b c d : Char) (inner : List Char) :
    inside ([a, b] ++ inner ++ [c, d]) = inner := by
  simp [inside]

section

variable {style : CommentStyle} {inner s t : List Char}

theorem comment_line (style : CommentStyle) (s : List Char) :
    comment (some style) (lineMark style ++ s) = line (lineMark style) (lineMark style ++ s) := by
  cases style <;> simp [comment, lineMark]

theorem comment_stars (inner : List Char) :
    comment (some .slashes) (['/', '*'] ++ inner ++ ['*', '/']) = block inner := by
  have whole : enclosed ['/', '*'] ['*', '/'] (['/', '*'] ++ inner ++ ['*', '/']) = true :=
    enclosed_iff.mpr ⟨inner, rfl⟩
  have no_mark : ['/', '/'].isPrefixOf (['/', '*'] ++ inner ++ ['*', '/']) = false := rfl
  rw [comment, no_mark, whole, inside_append]
  rfl

theorem comment_braces (text : List Char) :
    comment (some .dashes) (['\x7b', '-', ' '] ++ text ++ [' ', '-', '\x7d']) =
      if ([' '] ++ text ++ [' ']).contains '\n' then plainBlock (splitAt '\n' ([' '] ++ text ++ [' ']))
      else trim ([' '] ++ text ++ [' ']) := by
  have whole : enclosed ['\x7b', '-', ' '] [' ', '-', '\x7d']
      (['\x7b', '-', ' '] ++ text ++ [' ', '-', '\x7d']) = true := enclosed_iff.mpr ⟨text, rfl⟩
  have no_mark : ['-', '-'].isPrefixOf (['\x7b', '-', ' '] ++ text ++ [' ', '-', '\x7d']) = false := rfl
  have inner : inside (['\x7b', '-', ' '] ++ text ++ [' ', '-', '\x7d']) = [' '] ++ text ++ [' '] := by
    have := inside_append '\x7b' '-' '-' '\x7d' ([' '] ++ text ++ [' '])
    simpa using this
  rw [comment, no_mark, whole, inner]
  rfl

theorem block_plain (h : PlainBlock .slashes inner s) :
    block inner = plainBlock (splitAt '\n' inner) := by
  rw [block]
  exact if_neg fun stars => h.plain rfl (starred_iff.mp stars)

theorem comment_plain (h : PlainBlock style inner s) :
    full (comment (some style) s) = full inner ∧
      ('\n' ∈ inner → comment (some style) s = plainBlock (splitAt '\n' inner)) := by
  have whole : full (plainBlock (splitAt '\n' inner)) = full inner := by
    rw [full_plainBlock, ← full_eq_flatMap]
  cases h.block with
  | stars inner =>
    rw [comment_stars, block_plain h]
    exact ⟨whole, fun _ => rfl⟩
  | braces text =>
    by_cases lines : '\n' ∈ [' '] ++ text ++ [' ']
    · rw [comment_braces, if_pos (List.contains_iff_mem.mpr lines)]
      exact ⟨whole, fun _ => rfl⟩
    · rw [comment_braces, if_neg (mt List.contains_iff_mem.mp lines), trim, full_trimRight, full_trimLeft]
      exact ⟨rfl, fun h => absurd h lines⟩

/-- What a comment says without its marks is all that it still says. -/
theorem full_comment_strips (h : Strips style s t) : full (comment (some style) s) = full t := by
  cases h with
  | line s => rw [comment_line, full_line]
  | starred hblock stars =>
    cases hblock
    rw [comment_stars, block, if_pos (starred_iff.mpr stars), full_unstar stars, joinLines, full_joinWith]
  | plain h => exact (comment_plain h).1

/-- A text that has no marks is only trimmed. -/
theorem comment_bare (h : ∀ t, ¬ Strips style s t) : comment (some style) s = trim s := by
  have no_mark : ¬ (lineMark style).isPrefixOf s = true := by
    intro starts
    obtain ⟨t, rfl⟩ := List.isPrefixOf_iff_prefix.mp starts
    exact h t (.line style t)
  have no_block (inner : List Char) : ¬ IsBlock style inner s := by
    intro hblock
    by_cases hplain : style = .slashes → ¬ Starred (splitAt '\n' inner)
    · exact h _ (.plain ⟨hblock, hplain⟩)
    · obtain ⟨rfl, stars⟩ := Classical.not_imp.mp hplain
      exact h _ (.starred hblock (Classical.not_not.mp stars))
  cases style with
  | slashes =>
    rw [comment, if_neg (show ¬ ['/', '/'].isPrefixOf s = true from no_mark), if_neg]
    intro hs
    obtain ⟨inner, rfl⟩ := enclosed_iff.mp hs
    exact no_block inner (.stars inner)
  | hash => rw [comment, if_neg (show ¬ ['#'].isPrefixOf s = true from no_mark)]
  | dashes =>
    rw [comment, if_neg (show ¬ ['-', '-'].isPrefixOf s = true from no_mark), if_neg]
    intro hs
    obtain ⟨text, rfl⟩ := enclosed_iff.mp hs
    exact no_block _ (.braces text)

end
end Clean

open Text Clean

/-- In the languages that have comments, a comment keeps all that is not blank in it without its marks, and
a text without marks keeps all that is not blank. A block of several lines without stars is moved to
the left as a whole. -/
theorem cleanComment_full {language : String} {style : CommentStyle} (text : String)
    (h : Language.commentStyle? language = some style) :
    (∀ t, Strips style text.toList t → full (cleanComment language text).toList = full t) ∧
      ((∀ t, ¬ Strips style text.toList t) →
        full (cleanComment language text).toList = full text.toList) ∧
      ∀ inner, PlainBlock style inner text.toList → '\n' ∈ inner →
        Moved (fullLines (splitAt '\n' inner))
          (fullLines (splitAt '\n' (cleanComment language text).toList)) := by
  rw [cleanComment, h, String.toList_ofList]
  refine ⟨fun t ht => full_comment_strips ht, fun hbare => ?_, fun inner hinner lines => ?_⟩
  · rw [comment_bare hbare, trim, full_trimRight, full_trimLeft]
  · rw [(comment_plain hinner).2 lines]
    exact moved_plainBlock fun _ hl => not_mem_of_mem_splitAt hl

/-- A block whose second line is indented more than the first -/
theorem cleanComment_full_nested :
    let inner := "\n    first\n      nested\n".toList
    let text := String.ofList (['/', '*'] ++ inner ++ ['*', '/'])
    Language.commentStyle? "Java" = some .slashes ∧ PlainBlock .slashes inner text.toList ∧
      full (cleanComment "Java" text).toList = full inner ∧
      Moved (fullLines (splitAt '\n' inner))
        (fullLines (splitAt '\n' (cleanComment "Java" text).toList)) ∧
      cleanComment "Java" text = "first\n  nested" := by
  intro inner text
  have java : Language.commentStyle? "Java" = some .slashes := by decide +kernel
  have no_stars : starred (splitAt '\n' inner) = false := by decide +kernel
  have block : PlainBlock .slashes inner text.toList := by
    refine ⟨?_, fun _ stars => ?_⟩
    · rw [String.toList_ofList]
      exact .stars inner
    · rw [starred_iff.mpr stars] at no_stars
      cases no_stars
  obtain ⟨hstrips, -, hmoved⟩ := cleanComment_full text java
  exact ⟨java, block, hstrips _ (.plain block), hmoved _ block (by decide +kernel), by decide +kernel⟩

/-- In a comment between braces and dashes a star belongs to the text, also where all lines start with
one; and one blank is not enough for both dashes. -/
theorem marks_kept_in_braces :
    let inner := " * a ".toList
    let text := String.ofList (['\x7b', '-', ' '] ++ "* a".toList ++ [' ', '-', '\x7d'])
    let narrow := String.ofList ['\x7b', '-', ' ', '-', '\x7d']
    Language.commentStyle? "haskell" = some .dashes ∧ IsBlock .dashes inner text.toList ∧
      Starred (splitAt '\n' inner) ∧
      full (cleanComment "haskell" text).toList ≠ full (joinLines (eraseStars (splitAt '\n' inner))) ∧
      cleanComment "haskell" narrow = narrow := by
  intro inner text narrow
  refine ⟨by decide +kernel, ?_, starred_iff.mp (by decide +kernel), by decide +kernel, by decide +kernel⟩
  rw [String.toList_ofList]
  exact .braces "* a".toList

end Literate
