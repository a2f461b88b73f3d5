import Literate.Proofs.Comment.Order
import Literate.Proofs.Script.Pattern
import Literate.Script.Lexer

/-! The stream of lexemes of a script. Those that show lie in the buffer of the script, one behind the
other. The lexer goes on where a line, or a string that is open, has been left. -/

namespace Literate.Script

/-- Lexemes that may be highlighted or become comments. -/
def LexemeKind.shows : LexemeKind → Bool
  | .name | .operator | .string | .number | .comment => true
  | .newline | .lineBreak | .indent | .dedent | .unknown | .endOfText => false

def shown (ls : List Lexeme) : List Lexeme := ls.filter fun l => l.kind.shows

/-- From `p` to `q`, what shows lies in the buffer, one behind the other. -/
structure Laid (lines : Buffer) (p q : Position) (ls : List Lexeme) : Prop where
  le : p ≤ q
  spaced : Spaced lines Lexeme.span (shown ls)
  bounds : ∀ l ∈ shown ls, p ≤ l.span.start ∧ l.span.stop ≤ q

section

variable {lines : Buffer} {p p' q r : Position} {l : Lexeme} {ls ms : List Lexeme}

theorem shown_cons (l : Lexeme) (ls : List Lexeme) :
    shown (l :: ls) = if l.kind.shows then l :: shown ls else shown ls := List.filter_cons

theorem shown_append (ls ms : List Lexeme) : shown (ls ++ ms) = shown ls ++ shown ms :=
  List.filter_append _ _

theorem Laid.of_hidden (h : ∀ l ∈ ls, l.kind.shows = false) (hpq : p ≤ q) :
    Laid lines p q ls := by
  have none_shown : shown ls = [] := List.filter_eq_nil_iff.mpr fun l hl => by simp [h l hl]
  refine ⟨hpq, ⟨?_, ?_⟩, ?_⟩ <;> simp [none_shown]

theorem Laid.mono_left (h : Laid lines p q ls) (hp : p' ≤ p) : Laid lines p' q ls :=
  ⟨hp.trans h.le, h.spaced, fun l hl => ⟨hp.trans (h.bounds l hl).1, (h.bounds l hl).2⟩⟩

theorem Laid.mono_right (h : Laid lines p q ls) (hq : q ≤ r) : Laid lines p r ls :=
  ⟨h.le.trans hq, h.spaced, fun l hl => ⟨(h.bounds l hl).1, (h.bounds l hl).2.trans hq⟩⟩

theorem Laid.cons_hidden (h : Laid lines p q ls) (hl : l.kind.shows = false) :
    Laid lines p q (l :: ls) := by
  have same : shown (l :: ls) = shown ls := by simp [shown_cons, hl]
  refine ⟨h.le, ?_, ?_⟩
  · rw [same]
    exact h.spaced
  · rw [same]
    exact h.bounds

theorem Laid.cons (h : Laid lines l.span.stop q ls) (hp : p ≤ l.span.start)
    (hl : lines.Within l.span) : Laid lines p q (l :: ls) := by
  by_cases hs : l.kind.shows
  · have same : shown (l :: ls) = l :: shown ls := by rw [shown_cons, if_pos hs]
    have behind := (h.mono_left hl.valid).bounds
    refine ⟨(hp.trans hl.valid).trans h.le, ⟨?_, ?_⟩, ?_⟩ <;> rw [same]
    · exact List.forall_mem_cons.mpr ⟨hl, h.spaced.within⟩
    · exact List.pairwise_cons.mpr ⟨fun m hm => (h.bounds m hm).1, h.spaced.ordered⟩
    · refine List.forall_mem_cons.mpr ⟨⟨hp, h.le⟩, fun m hm => ?_⟩
      exact ⟨hp.trans (behind m hm).1, (behind m hm).2⟩
  · exact (h.mono_left (hp.trans hl.valid)).cons_hidden (by simpa using hs)

theorem Laid.append (h : Laid lines p q ls) (k : Laid lines q r ms) :
    Laid lines p r (ls ++ ms) := by
  refine ⟨h.le.trans k.le, ⟨?_, ?_⟩, ?_⟩
  · rw [shown_append]
    exact List.forall_mem_append.mpr ⟨h.spaced.within, k.spaced.within⟩
  · rw [shown_append, List.pairwise_append]
    exact ⟨h.spaced.ordered, k.spaced.ordered,
      fun l hl m hm => (h.bounds l hl).2.trans (k.bounds m hm).1⟩
  · rw [shown_append, List.forall_mem_append]
    exact ⟨(h.mono_right k.le).bounds, (k.mono_left h.le).bounds⟩

end

/-- Where lexemes go on in front of `p`: where a string has been opened, or at `p`. -/
def LexerState.edge (st : LexerState) (p : Position) : Position :=
  (st.pending.map OpenString.start).getD p

theorem LexerState.edge_of_none {st : LexerState} (h : st.pending = none) (p : Position) :
    st.edge p = p := by
  rw [edge, h]
  rfl

/-- A string that is open at `p` has its start in the buffer. -/
structure Opens (lines : Buffer) (p : Position) (st : LexerState) : Prop where
  holds : ∀ o ∈ st.pending, lines.Holds o.start
  le : ∀ o ∈ st.pending, o.start ≤ p
  quote : ∀ o ∈ st.pending, o.quote ≠ '\n'

namespace Lexer

variable {lines : Buffer} {row : Nat} {text line : List Char}

theorem holds_column (hline : lines[row]? = some line) {j : Nat} (hj : j ≤ line.length) :
    lines.Holds ⟨row, j⟩ := by
  obtain ⟨hlt, rfl⟩ := List.getElem?_eq_some_iff.mp hline
  refine ⟨by simp, by simpa using hlt, by simp, ?_⟩
  simpa [hlt] using hj

theorem within_spanIn (hline : lines[row]? = some line) {a b : Nat} (hab : a ≤ b)
    (hb : b ≤ line.length) : lines.Within (spanIn row a b) :=
  ⟨holds_column hline (hab.trans hb), holds_column hline hb, .inr ⟨rfl, by simpa [spanIn] using hab⟩⟩

theorem le_nextRow {j : Nat} : (⟨row, j⟩ : Position) ≤ ⟨(row + 1 : Nat), 0⟩ := .inl (by simp)

/-- The text of a line of the buffer, with its line break if it has one. -/
structure LineAt (lines : Buffer) (row : Nat) (line text : List Char) : Prop where
  found : lines[row]? = some line
  single : OneLine text
  fits : room text ≤ line.length

/-- The rest `s` of a line of `len` characters, from column `col` on, with its line break. -/
def Rest (len col : Nat) (s : List Char) : Prop := s = [] ∨ (col + room s ≤ len ∧ OneLine s)

theorem Rest.drop {len col : Nat} {s : List Char} (h : Rest len col s) (n : Nat) :
    Rest len (col + n) (s.drop n) := by
  rcases h with rfl | ⟨hle, hs⟩
  · exact .inl List.drop_nil
  · rcases Nat.lt_or_ge (room s) n with hlt | hge
    · refine .inl (List.drop_eq_nil_iff.mpr ?_)
      unfold OneLine at hs
      omega
    · refine .inr ⟨?_, hs.drop n⟩
      rw [room_drop hge]
      omega

theorem LineAt.rest (h : LineAt lines row line text) (n : Nat) :
    Rest line.length n (text.drop n) := by
  have whole : Rest line.length 0 text := .inr ⟨by rw [Nat.zero_add]; exact h.fits, h.single⟩
  have behind := whole.drop n
  rwa [Nat.zero_add] at behind

theorem Rest.of_cons {len col : Nat} {c : Char} {cs : List Char} (h : Rest len col (c :: cs)) :
    col + room (c :: cs) ≤ len ∧ OneLine (c :: cs) := h.resolve_left (List.cons_ne_nil _ _)

/-- What a line leaves behind: lexemes up to the next line, or up to a string that goes on there. -/
structure Leaves (lines : Buffer) (row : Nat) (p : Position) (r : List Lexeme × LexerState) :
    Prop where
  laid : Laid lines p (r.2.edge ⟨(row + 1 : Nat), 0⟩) r.1
  opens : Opens lines ⟨(row + 1 : Nat), 0⟩ r.2

theorem Leaves.skip {r : List Lexeme × LexerState} {a b : Nat} (h : Leaves lines row ⟨row, b⟩ r)
    (hab : a ≤ b) : Leaves lines row ⟨row, a⟩ r :=
  ⟨h.laid.mono_left (.inr ⟨rfl, by simpa using hab⟩), h.opens⟩

theorem Leaves.cons_hidden {p : Position} {r : List Lexeme × LexerState} {l : Lexeme}
    (h : Leaves lines row p r) (hl : l.kind.shows = false) :
    Leaves lines row p (l :: r.1, r.2) := ⟨h.laid.cons_hidden hl, h.opens⟩

/-- A lexeme in front of what is left. -/
theorem Leaves.cons {p : Position} {r : List Lexeme × LexerState} {l : Lexeme}
    (h : Leaves lines row l.span.stop r) (hp : p ≤ l.span.start) (hl : lines.Within l.span) :
    Leaves lines row p (l :: r.1, r.2) := ⟨h.laid.cons hp hl, h.opens⟩

/-- A lexeme of the line. -/
theorem Leaves.cons_line {r : List Lexeme × LexerState} {l : Lexeme} {a b : Nat}
    (h : Leaves lines row ⟨row, b⟩ r) (hline : lines[row]? = some line) (hl : l.span = spanIn row a b)
    (hab : a ≤ b) (hb : b ≤ line.length) : Leaves lines row ⟨row, a⟩ (l :: r.1, r.2) := by
  have hw := within_spanIn hline hab hb
  rw [← hl] at hw
  exact Leaves.cons (by rw [hl]; exact h) (by rw [hl]; exact le_rfl) hw

theorem Leaves.append_hidden {p : Position} {r : List Lexeme × LexerState} {ls : List Lexeme}
    (h : Leaves lines row p r) (hls : ∀ l ∈ ls, l.kind.shows = false) :
    Leaves lines row p (ls ++ r.1, r.2) := ⟨(Laid.of_hidden hls le_rfl).append h.laid, h.opens⟩

/-- Nothing of a line shows, and no string is open behind it. -/
theorem leaves_hidden {st : LexerState} {ls : List Lexeme} {p : Position}
    (hst : st.pending = none) (hls : ∀ l ∈ ls, l.kind.shows = false)
    (hp : p ≤ ⟨(row + 1 : Nat), 0⟩) : Leaves lines row p (ls, st) := by
  refine ⟨Laid.of_hidden hls (hp.trans_eq (LexerState.edge_of_none hst _).symm), ?_⟩
  constructor <;> simp [hst]

/-- Nothing more of a line in which a string is left open. -/
theorem leaves_open (hline : lines[row]? = some line) {st : LexerState} {col : Nat} {q : Char}
    {triple : Bool} {s : List Char} (hcol : col ≤ line.length) (hq : q ≠ '\n') :
    Leaves lines row ⟨row, col⟩ ([], { st with pending := some ⟨⟨row, col⟩, q, triple, s⟩ }) := by
  refine ⟨Laid.of_hidden (by simp) le_rfl, ⟨?_, ?_, ?_⟩⟩ <;> intro o ho <;> cases ho
  · exact holds_column hline hcol
  · exact le_nextRow
  · exact hq

theorem bracket_pending (st : LexerState) (s : List Char) : (bracket st s).pending = st.pending := by
  unfold bracket
  split <;> rfl

/-- What is scanned of a line shows inside the line. -/
theorem leaves_scan (hline : lines[row]? = some line) {st : LexerState} {alone : Bool} {col : Nat}
    {s : List Char} (hs : Rest line.length col s) (hst : st.pending = none) :
    Leaves lines row ⟨row, col⟩ (scan row st alone col s) := by
  fun_induction scan row st alone col s with
  -- the cases of the scan: the end of the line, blanks and stray characters, one for each kind of piece
  | case1 st alone col => exact leaves_hidden hst (by simp) le_nextRow
  | case2 st alone col c cs _ ls st' heq ih =>
    have rest := ih (hs.drop 1) hst
    rw [heq] at rest
    exact (rest.skip (Nat.le_succ col)).cons_hidden rfl
  | case3 st alone col c cs _ _ ih => exact (ih (hs.drop 1) hst).skip (Nat.le_succ col)
  | case4 st alone col c cs _ _ _ ls st' heq ih =>
    have rest := ih (hs.drop 1) hst
    rw [heq] at rest
    exact (rest.skip (Nat.le_succ col)).cons_hidden rfl
  | case5 st alone col c cs _ _ n _ ih => exact (ih (hs.drop (n + 1)) hst).skip (by omega)
  | case6 st alone col c cs _ _ kind n hx text st₁ ls st' heq ih =>
    have fits : n + 1 ≤ room (c :: cs) := Piece.fits_first? hx
    have hlen := hs.of_cons.1
    have hst₁ : st₁.pending = none := by
      simp only [st₁]
      split
      · rw [bracket_pending, hst]
      · exact hst
    have rest := ih (hs.drop (n + 1)) hst₁
    rw [heq] at rest
    exact rest.cons_line hline rfl (by omega) (by omega)
  | case7 st alone col c cs _ _ n hx kind ls st' heq ih =>
    have hidden : kind.shows = false := by
      simp only [kind]
      split <;> rfl
    have rest := ih (hs.drop (n + 1)) hst
    rw [heq] at rest
    exact (rest.skip (by omega)).cons_hidden hidden
  | case8 st alone col c cs _ _ q n hx k hk ls st' heq ih =>
    obtain ⟨fits, hq⟩ : n + 1 ≤ room (c :: cs) ∧ q ≠ '\n' := Piece.fits_first? hx
    obtain ⟨hlen, hone⟩ := hs.of_cons
    have hle := Pattern.closingTriple_onLine hq (hone.drop (n + 1)) hk
    rw [room_drop fits] at hle
    have hcol : col + (n + k + 1) = col + n + k + 1 := by omega
    have rest := ih (hcol ▸ hs.drop (n + k + 1)) hst
    rw [heq] at rest
    exact rest.cons_line hline rfl (by omega) (by omega)
  | case9 st alone col c cs _ _ q n hx _ =>
    obtain ⟨-, hq⟩ : n + 1 ≤ room (c :: cs) ∧ q ≠ '\n' := Piece.fits_first? hx
    have hlen := hs.of_cons.1
    exact leaves_open hline (by omega) hq
  | case10 st alone col c cs _ _ q n hx =>
    obtain ⟨-, hq⟩ : 0 < room (c :: cs) ∧ q ≠ '\n' := Piece.fits_first? hx
    have hlen := hs.of_cons.1
    exact leaves_open hline (by omega) hq

/-- Line breaks at the end left out. -/
theorem dropTail_le_room {p : Char → Bool} (hp : p '\n' = true) {s : List Char} (h : OneLine s) :
    (Text.dropTail p s).length ≤ room s := by
  obtain ⟨a, d, rfl, ha, hd⟩ := h.split
  have same : Text.dropTail p (a ++ d) = Text.dropTail p a := by
    rcases hd with rfl | rfl <;> simp [Text.dropTail, hp]
  rw [same, ← ha]
  exact (Text.dropTail_prefix p a).length_le

/-- Blanks in front of a line are in front of its line break. -/
theorem indentation_le (text : List Char) : (indentation text).2 ≤ room text := by
  have counted (width count : Nat) (s : List Char) :
      (indentation.go width count s).2 ≤ count + room s := by
    fun_induction indentation.go width count s with
    | case1 width count cs ih => rw [room_cons_of_ne (by decide)]; omega
    | case2 width count cs ih => rw [room_cons_of_ne (by decide)]; omega
    | case3 width count cs ih => rw [room_cons_of_ne (by decide)]; omega
    | case4 => exact Nat.le_add_right _ _
  exact (counted 0 0 text).trans_eq (Nat.zero_add _)

/-- Of a line of blanks and perhaps a comment only the comment shows. -/
theorem leaves_emptyLine (h : LineAt lines row line text) {count : Nat} (hcount : count ≤ room text)
    {st : LexerState} (hst : st.pending = none) :
    Leaves lines row ⟨row, (0 : Nat)⟩ (emptyLine row count text, st) := by
  unfold emptyLine
  simp only
  generalize hcomment : (if (text.drop count).head? = some '#' then
    Text.dropTail (fun c => c == '\r' || c == '\n') (text.drop count) else []) = comment
  have hle : comment.length ≤ room text - count := by
    rw [← room_drop hcount, ← hcomment]
    split
    · exact dropTail_le_room (by decide) (h.single.drop count)
    · exact Nat.zero_le _
  have hroom := h.fits
  split
  · exact leaves_hidden hst (by simp [LexemeKind.shows]) le_nextRow
  · have behind : Leaves lines row ⟨row, (count + comment.length : Nat)⟩
        ([⟨.lineBreak, text.drop (count + comment.length),
          spanIn row (count + comment.length) text.length, comment.isEmpty⟩], st) :=
      leaves_hidden hst (by simp [LexemeKind.shows]) le_nextRow
    exact (behind.cons_line h.found rfl (by omega) (by omega)).skip (Nat.zero_le count)

/-- Blocks are opened and closed without anything that shows. -/
theorem adjust_hidden {width count : Nat} {indents is : List Nat} {ls : List Lexeme}
    (h : adjust row width count text indents = .ok (ls, is)) : ∀ l ∈ ls, l.kind.shows = false := by
  unfold adjust at h
  split at h
  · cases h
    simp [LexemeKind.shows]
  · split at h
    · cases h
    · cases h
      intro l hl
      obtain ⟨_, -, rfl⟩ := List.mem_map.mp hl
      rfl

/-- A line in which a string goes on. -/
theorem leaves_resumed (h : LineAt lines row line text) {st : LexerState}
    (hst : Opens lines ⟨row, (0 : Nat)⟩ st) {o : OpenString} (ho : st.pending = some o)
    {r : List Lexeme × LexerState} (hr : Lexer.line row st text = .ok r) :
    Leaves lines row o.start r := by
  have hstart := hst.holds o ho
  have hle := hst.le o ho
  have hquote := hst.quote o ho
  rw [Lexer.line, ho] at hr
  simp only at hr
  split at hr
  · -- it is closed, and the rest of the line is scanned
    next n hn =>
    have hcol : n ≤ line.length := by
      refine le_trans ?_ h.fits
      split at hn
      · exact Pattern.closingTriple_onLine hquote h.single hn
      · exact Pattern.closing_onLine hquote h.single hn
    cases hr
    exact Leaves.cons (leaves_scan h.found (h.rest n) rfl) le_rfl
      ⟨hstart, holds_column h.found hcol, hle.trans (.inr ⟨rfl, by simp⟩)⟩
  · split at hr
    · cases hr
      exact leaves_hidden rfl (by simp [LexemeKind.shows]) (hle.trans le_nextRow)
    · -- it stays open
      cases hr
      refine ⟨Laid.of_hidden (by simp) le_rfl, ⟨?_, ?_, ?_⟩⟩ <;> intro o' ho' <;> cases ho'
      · exact hstart
      · exact hle.trans le_nextRow
      · exact hquote

/-- A line that starts afresh, or goes on in brackets or behind a hidden line break. -/
theorem leaves_started (h : LineAt lines row line text) {st : LexerState} (ho : st.pending = none)
    {r : List Lexeme × LexerState} (hr : Lexer.line row st text = .ok r) :
    Leaves lines row ⟨row, (0 : Nat)⟩ r := by
  rw [Lexer.line, ho] at hr
  simp only at hr
  split at hr
  · have hcount := indentation_le text
    split at hr
    · cases hr
      exact leaves_hidden ho (by simp) le_nextRow
    · split at hr
      · cases hr
        exact leaves_emptyLine h hcount ho
      · split at hr
        · cases hr
        · next ls indents hadjust =>
          cases hr
          exact ((leaves_scan h.found (h.rest _) rfl).skip (Nat.zero_le _)).append_hidden
            (adjust_hidden hadjust)
  · cases hr
    exact leaves_scan h.found (h.rest 0) rfl

/-- The lexemes of a line go on where those in front of it have stopped. -/
theorem leaves_line (h : LineAt lines row line text) {st : LexerState}
    (hst : Opens lines ⟨row, (0 : Nat)⟩ st) {r : List Lexeme × LexerState}
    (hr : Lexer.line row st text = .ok r) : Leaves lines row (st.edge ⟨row, (0 : Nat)⟩) r := by
  cases ho : st.pending with
  | none =>
    rw [LexerState.edge_of_none ho]
    exact leaves_started h ho hr
  | some o =>
    have hedge : st.edge ⟨row, (0 : Nat)⟩ = o.start := by
      rw [LexerState.edge, ho]
      rfl
    rw [hedge]
    exact leaves_resumed h hst ho hr

/-- At the end nothing more shows. -/
theorem finish_hidden (row : Nat) (last : List Char) (indents : List Nat) :
    ∀ l ∈ finish row last indents, l.kind.shows = false := by
  intro l hl
  unfold finish at hl
  rw [List.mem_append, List.mem_append, List.mem_ite_nil_right, List.mem_map] at hl
  rcases hl with (⟨-, hl⟩ | ⟨_, -, rfl⟩) | hl
  · rw [List.mem_singleton.mp hl]
    rfl
  · rfl
  · rw [List.mem_singleton.mp hl]
    rfl

/-- The lexemes of the lines from `row` on. -/
theorem laid_lines {texts : List (List Char)} {before : List Char} {st : LexerState}
    (h : ∀ i t, texts[i]? = some t → ∃ line, LineAt lines (row + i) line t)
    (hst : Opens lines ⟨row, (0 : Nat)⟩ st) :
    ∃ q, Laid lines (st.edge ⟨row, (0 : Nat)⟩) q (Lexer.lines row before st texts).items := by
  induction texts generalizing row before st with
  | nil =>
    refine ⟨_, Laid.of_hidden ?_ le_rfl⟩
    unfold Lexer.lines
    split
    · simp
    · split
      · exact finish_hidden row before st.indents
      · simp
  | cons t ts ih =>
    unfold Lexer.lines
    split
    · exact ⟨_, Laid.of_hidden (finish_hidden row before st.indents) le_rfl⟩
    · split
      · exact ⟨_, Laid.of_hidden (by simp) le_rfl⟩
      · next ls st' hl =>
        obtain ⟨line, hline⟩ := h 0 t rfl
        have leaves := leaves_line hline hst hl
        obtain ⟨q, hq⟩ := @ih (row + 1) t st' (fun i u hu => by
          have hi : row + (i + 1) = row + 1 + i := by omega
          exact hi ▸ h (i + 1) u hu) leaves.opens
        exact ⟨q, leaves.laid.append hq⟩

/-- The lines of a text are those of its buffer, each with its line break. -/
theorem linesOf_spec (text : String) {i : Nat} {t : List Char}
    (h : (linesOf text.toList)[i]? = some t) :
    ∃ line, LineAt (Buffer.ofText text) i line t := by
  have flat := Buffer.flat_ofText text
  obtain ⟨pre, last, hp⟩ := (List.eq_nil_or_concat (Buffer.ofText text)).resolve_left
    (Buffer.ofText_ne_nil text)
  rw [List.concat_eq_append] at hp
  have lines_eq : linesOf text.toList =
      pre.map (· ++ ['\n']) ++ if last.isEmpty then [] else [last] := by
    have pieces : text.toList.splitOn '\n' = pre ++ [last] := hp
    unfold linesOf
    rw [pieces]
    split
    · next hnil => simp at hnil
    · simp
  have whole {a : List Char} (ha : a ∈ Buffer.ofText text) (s : List Char) :
      room (a ++ s) = a.length + room s := room_append (flat a ha) s
  rw [hp] at whole ⊢
  rw [lines_eq, List.getElem?_append, List.length_map] at h
  split at h
  · next hi =>
    rw [List.getElem?_map] at h
    obtain ⟨a, ha, rfl⟩ := Option.map_eq_some_iff.mp h
    have hroom := whole (List.mem_append_left _ (List.mem_of_getElem? ha)) ['\n']
    refine ⟨a, by rw [List.getElem?_append_left hi, ha], ?_, ?_⟩
    · rw [OneLine, hroom, List.length_append]
      exact Nat.add_le_add_right (Nat.le_add_right _ _) 1
    · exact hroom.le
  · next hi =>
    split at h
    · simp at h
    · rw [List.getElem?_singleton] at h
      split at h
      · next hlast =>
        have at_end : i = pre.length := by omega
        have hroom := whole (List.mem_append_right _ List.mem_cons_self) []
        cases h
        rw [List.append_nil, room_nil, Nat.add_zero] at hroom
        refine ⟨t, by rw [at_end, List.getElem?_concat_length], ?_, hroom.le⟩
        rw [OneLine, hroom]
        exact Nat.le_succ _
      · cases h

end Lexer

/-- The lexemes of a script that show are in its buffer, one behind the other. -/
theorem spaced_lex (source : String) :
    Spaced (Buffer.ofText source) Lexeme.span (shown (lex source).items) := by
  have start : Opens (Buffer.ofText source) ⟨(0 : Nat), (0 : Nat)⟩ ({} : LexerState) := by
    constructor <;> simp
  obtain ⟨q, hq⟩ := @Lexer.laid_lines _ 0 (Lexer.linesOf source.toList) [] {} (fun i t h => by
    rw [Nat.zero_add]
    exact Lexer.linesOf_spec source h) start
  exact hq.spaced

end Literate.Script
