import Literate.Proofs.Script.Grammar.Statement
import Literate.Proofs.Script.Reference
import Literate.Proofs.Script.Terminal

/-! The rows of definitions and uses, and what can go wrong with the symbols of a script. The parser
counts a lone carriage return as a line break, and the buffer does not: where there is one, a use may
stand in a row that the buffer does not have. -/

namespace Literate

/-- Each carriage return has a line feed behind it. -/
def Text.Paired (s : List Char) : Prop :=
  ∀ front rest, s = front ++ '\r' :: rest → rest.head? = some '\n'

theorem Text.Paired.tail {c : Char} {s : List Char} (h : Paired (c :: s)) : Paired s := by
  rintro front rest rfl
  exact h (c :: front) rest rfl

/-- Where all carriage returns are paired, reading them as line feeds adds no line. -/
theorem Text.count_unifyBreaks {s : List Char} (h : Paired s) :
    (unifyBreaks s).count '\n' = s.count '\n' := by
  fun_induction unifyBreaks s with
  | case1 s ih =>
    rw [List.count_cons_self, List.count_cons_of_ne (by decide), List.count_cons_self, ih h.tail.tail]
  | case2 s unpaired ih =>
    obtain ⟨rest, hrest⟩ := List.head?_eq_some_iff.mp (h [] s rfl)
    exact absurd hrest (unpaired rest)
  | case3 c s _ _ ih => rw [List.count_cons, List.count_cons, ih h.tail]
  | case4 => rfl

theorem Text.unifyBreaks_eq_self {s : List Char} (h : '\r' ∉ s) : unifyBreaks s = s := by
  fun_induction unifyBreaks s with
  | case1 => simp at h
  | case2 => simp at h
  | case3 c s _ _ ih => rw [ih fun hs => h (List.mem_cons_of_mem c hs)]
  | case4 => rfl

theorem Text.length_splitAt (sep : Char) (s : List Char) :
    (splitAt sep s).length = s.count sep + 1 := by
  induction s with
  | nil => rw [splitAt, List.splitOn_nil]; rfl
  | cons c s ih =>
    rw [splitAt] at ih ⊢
    rw [List.splitOn_cons_eq_if_modifyHead, List.count_cons]
    split
    · rw [List.length_cons, ih]
    · rw [List.length_modifyHead, ih]

namespace Script

theorem getLast_withLineFeeds (s : List Char) : (Strict.withLineFeeds s).getLast? = some '\n' := by
  unfold Strict.withLineFeeds
  dsimp only
  split
  · next h =>
    rw [Bool.and_eq_true, decide_eq_true_eq] at h
    exact h.1
  · exact List.getLast?_concat

theorem not_mem_withLineFeeds (s : List Char) : '\r' ∉ Strict.withLineFeeds s := by
  unfold Strict.withLineFeeds
  dsimp only
  split
  · exact Text.not_mem_unifyBreaks s
  · simpa using Text.not_mem_unifyBreaks s

/-- A text has no more lines for the parser than its buffer has. -/
theorem count_withLineFeeds {source : String} (h : Text.Paired source.toList) :
    (Strict.withLineFeeds source.toList).count '\n' ≤ (Buffer.ofText source).length := by
  rw [Buffer.ofText, Text.length_splitAt, ← Text.count_unifyBreaks h]
  unfold Strict.withLineFeeds
  dsimp only
  split
  · exact Nat.le_succ _
  · rw [List.count_append]
    rfl

/-- a terminal with a text of its own, numbers aside -/
def Terminal.Solid (t : Terminal) : Prop :=
  t.kind = .name ∨ t.kind = .reserved ∨ t.kind = .string ∨ t.kind = .operator

theorem Terminal.Solid.not_mark {t : Terminal} (h : t.Solid) : ¬ (t.kind = .newline ∨
    t.kind = .indent ∨ t.kind = .dedent ∨ t.kind = .endOfText) := by
  unfold Terminal.Solid at h
  rintro (kind | kind | kind | kind) <;> simp [kind] at h

theorem Terminal.isWord_iff {t : Terminal} {word : String} : t.isWord word = true ↔
    (t.kind = .operator ∨ t.kind = .reserved) ∧ t.text = word := by
  simp [Terminal.isWord]

theorem operators_unbroken : ∀ o ∈ Pattern.operators, '\n' ∉ o.toList := by
  decide

/-- Its text does not end in a line break. -/
theorem Takes.unbroken {kind : TerminalKind} {taken rest : List Char} (h : Takes kind taken rest)
    (solid : kind = .name ∨ kind = .reserved ∨ kind = .string ∨ kind = .operator) :
    ∃ c, taken.getLast? = some c ∧ c ≠ '\n' := by
  have word (kinds : kind = .name ∨ kind = .reserved) : ∃ c, taken.getLast? = some c ∧ c ≠ '\n' := by
    have whole := h.word kinds
    refine ⟨_, List.getLast?_eq_some_getLast whole.ne_nil, fun broken => ?_⟩
    have inside := whole.inside _ (List.getLast_mem whole.ne_nil)
    rw [broken] at inside
    exact absurd inside (by decide)
  rcases solid with kind | kind | kind | kind
  · exact word (.inl kind)
  · exact word (.inr kind)
  · obtain ⟨c, hc, rfl | rfl⟩ := h.quote kind
    · exact ⟨_, hc, by decide⟩
    · exact ⟨_, hc, by decide⟩
  · have mem := h.operator kind
    have some_text := (operators_clear _ mem).1
    have unbroken := operators_unbroken _ mem
    rw [String.toList_ofList] at some_text unbroken
    refine ⟨_, List.getLast?_eq_some_getLast some_text, fun broken => unbroken ?_⟩
    rw [← broken]
    exact List.getLast_mem some_text

/-- The terminal stands in front of row `n`, and it has a row more than line breaks. -/
structure Terminal.Above (n : Nat) (t : Terminal) : Prop where
  rows : t.stop.row = t.start.row + t.text.toList.count '\n'
  above : t.stop.row < n
  plain : '\r' ∉ t.text.toList

variable {n : Nat} {t : Terminal} {ts us : List Terminal}

theorem Reads.above {front rest whole : List Char} (h : Reads front rest ts)
    (text : front ++ rest = whole) (ends : whole.getLast? = some '\n') (plain : '\r' ∉ whole) :
    ∀ t ∈ ts, t.Solid → t.Above (whole.count '\n') := by
  induction h with
  | done => exact List.forall_mem_nil _
  | mark kinds _ ih =>
    exact List.forall_mem_cons.mpr ⟨fun solid => absurd kinds solid.not_mark, ih text⟩
  | @read front gap rest t ts stands _ ih =>
    have text' : front ++ gap ++ t.text.toList ++ rest = whole := by
      rw [← text]
      simp
    refine List.forall_mem_cons.mpr ⟨fun solid => ?_, ih text'⟩
    obtain ⟨c, last, other⟩ := stands.takes.unbroken solid
    have more : rest ≠ [] := by
      rintro rfl
      rw [List.append_nil] at text'
      rw [← text', List.getLast?_append_of_ne_nil _ (by rintro h; rw [h] at last; cases last), last] at ends
      exact other (Option.some.inj ends)
    have broken : '\n' ∈ rest := by
      rw [← text', List.getLast?_append_of_ne_nil _ more] at ends
      exact List.mem_of_getLast? ends
    have row : t.stop.row = (front ++ gap ++ t.text.toList).count '\n' := by
      rw [stands.stop, stands.start, ← Point.after_append, row_after, Nat.zero_add]
    refine ⟨?_, ?_, ?_⟩
    · rw [stands.stop, row_after]
    · have more : 0 < rest.count '\n' := List.count_pos_iff.mpr broken
      have both : whole.count '\n' =
          (front ++ gap ++ t.text.toList).count '\n' + rest.count '\n' := by
        rw [← text', List.count_append]
      omega
    · intro mem
      apply plain
      rw [← text']
      simp [mem]

/-! Terminals of a script and of the fields in its texts. -/

/-- the terminals in front of row `n` -/
def Parse.Supply.above (n : Nat) : Parse.Supply where
  Holds ts := ∀ t ∈ ts, t.Solid → t.Above n
  tail h := fun t ht => h t (List.mem_cons_of_mem _ ht)

def Landmark.Above (n : Nat) : Landmark → Prop
  | plain => True
  | definition d => d.start.row < n
  | use _ start stop => start.row < n ∧ stop.row < n

theorem Terminal.Above.start (h : t.Above n) : t.start.row < n := by
  have := h.rows
  have := h.above
  omega

theorem prefix_ofText (s : List Char) :
    (Quotation.ofText s).opening ++ (Quotation.ofText s).body <+: s := by
  have cut : ∀ (marks rest : List Char) (i j : Nat), marks ++ rest = s →
      marks ++ rest.take i ++ (rest.drop i).take j <+: s := by
    rintro marks rest i j rfl
    refine ⟨(rest.drop i).drop j, ?_⟩
    rw [List.append_assoc, List.take_append_drop, List.append_assoc, List.take_append_drop]
  exact cut _ _ _ _ (List.prefix_iff_eq_append.mp (List.takeWhile_prefix _))

/-- Read on its own, a text without carriage returns only gets a line break at its end. -/
theorem withLineFeeds_snoc {s : List Char} {c : Char} (plain : '\r' ∉ s) (hr : c ≠ '\r')
    (hc : c ≠ '\n') : Strict.withLineFeeds (s ++ [c]) = s ++ [c] ++ ['\n'] := by
  have same : Text.unifyBreaks (s ++ [c]) = s ++ [c] :=
    Text.unifyBreaks_eq_self (by simp [plain, hr.symm])
  rw [Strict.withLineFeeds, same, if_neg]
  simp [hc]

/-- The fields of a text stand in rows of that text. -/
theorem Terminal.IsField.above (h : t.IsField us) (ht : t.Above n) :
    ∀ u ∈ us, u.Solid → u.Above n := by
  obtain ⟨front, source, behind, vs, text, hvs, rfl⟩ := h
  obtain ⟨last, whole⟩ : front ++ '\x7b' :: (source ++ behind) <+: t.text.toList :=
    text ▸ prefix_ofText _
  have plain : '\r' ∉ '(' :: source := by
    have := ht.plain
    rw [← whole] at this
    simp at this ⊢
    tauto
  have reads := reads_terminals hvs
  rw [withLineFeeds_snoc plain (by decide) (by decide)] at reads
  have above := reads.above (List.nil_append _) List.getLast?_concat (by simpa using plain)
  have rows : t.text.toList.count '\n' = front.count '\n' + source.count '\n' +
      behind.count '\n' + last.count '\n' := by
    rw [← whole]
    simp
    omega
  have inner : ('(' :: source ++ [')'] ++ ['\n']).count '\n' = source.count '\n' + 1 := by
    simp
  rw [inner] at above
  refine List.forall_mem_map.mpr fun v hv solid => ?_
  obtain ⟨vrows, vabove, vplain⟩ := above v hv solid
  have origin : (Field.origin t.start front (source ++ behind)).row =
      t.start.row + front.count '\n' := by
    rw [Field.origin, row_after, Nat.zero_add]
  have := ht.rows
  have := ht.above
  refine ⟨?_, ?_, vplain⟩
  · show v.stop.row + _ = v.start.row + _ + v.text.toList.count '\n'
    omega
  · show v.stop.row + _ < n
    omega

theorem tracks_above (n : Nat) : Grammar.Tracks (fun _ => .above n) (Landmark.Above n) where
  use := by
    rintro b t ⟨ts, hts⟩ kind
    have above := hts t List.mem_cons_self (.inl kind)
    exact ⟨above.start, above.above⟩
  field := by
    rintro b t us ⟨ts, hts⟩ kind field
    exact field.above (hts t List.mem_cons_self (.inr (.inr (.inl kind))))
  define := by
    intro ts d hts heads
    have start {t : Terminal} {word : String} (ht : t ∈ ts) (h : t.isWord word = true) :
        t.start.row < n := by
      rcases (Terminal.isWord_iff.mp h).1 with kind | kind
      · exact (hts t ht (.inr (.inr (.inr kind)))).start
      · exact (hts t ht (.inr (.inl kind))).start
    cases heads with
    | plain word _ _ place =>
      rw [Landmark.Above, place]
      exact word.elim (start List.mem_cons_self) (start List.mem_cons_self)
    | async word _ _ _ place =>
      rw [Landmark.Above, place]
      exact start List.mem_cons_self word

/-- Where all carriage returns are paired, definitions and uses stand in rows of the buffer. -/
theorem Outline.above_ofSource {source : String} {o : Outline} (parsed : ofSource source = .ok o)
    (paired : Text.Paired source.toList) :
    o.All (Landmark.Above (Buffer.ofText source).length) := by
  have tracks := tracks_above ((Strict.withLineFeeds source.toList).count '\n')
  have above := all_ofSource tracks (fun ts hts => (reads_terminals hts).above (List.nil_append _)
    (getLast_withLineFeeds _) (not_mem_withLineFeeds _)) parsed
  intro l hl some_mark
  have rows := count_withLineFeeds paired
  have inside := above l hl some_mark
  cases l with
  | plain => trivial
  | definition d => exact lt_of_lt_of_le inside rows
  | use name start stop => exact ⟨lt_of_lt_of_le inside.1 rows, lt_of_lt_of_le inside.2 rows⟩

/-! What can go wrong. -/

section

variable {lines : Buffer} {o : Outline} {ls : List Located} {source : String}

theorem positionIn_cases (lines : Buffer) (p : Point) :
    (∃ q, positionIn lines p = .ok q ∧ p.row < lines.length) ∨
    (positionIn lines p = .error .rowOutOfRange ∧ lines.length ≤ p.row) := by
  unfold positionIn
  split
  · next line hline => exact .inl ⟨_, rfl, (List.getElem?_eq_some_iff.mp hline).1⟩
  · next hline => exact .inr ⟨rfl, List.getElem?_eq_none_iff.mp hline⟩

/-- The use stands in no row of the buffer. -/
def Mention.Outside (lines : Buffer) (u : Mention) : Prop :=
  lines.length ≤ u.start.row ∨ lines.length ≤ u.stop.row

/-- A use that refers to something and stands in no row leaves the whole script without symbols. -/
theorem references_eq_error {ms : List Landmark} {e : SymbolError} :
    references lines ls ms = .error e ↔ e = .rowOutOfRange ∧
      ∃ u ∈ ms.filterMap Mention.of?, u.name ∈ ls.map Located.name ∧ u.Outside lines := by
  induction ms with
  | nil => simp [references]
  | cons m ms ih =>
    cases m with
    | plain | definition =>
      rw [references, ih, List.filterMap_cons_none rfl]
      · simp
    | use name start stop =>
      have here : Mention.of? (.use name start stop) = some ⟨name, start, stop⟩ := rfl
      rw [references, List.filterMap_cons_some here]
      simp only [List.mem_cons, exists_eq_or_imp]
      cases found : resolve ls name with
      | none =>
        have free : name ∉ ls.map Located.name := by
          simpa [List.mem_map] using resolve_eq_none.mp found
        simp [ih, free]
      | some l =>
        have outermost := resolve_eq_some.mp found
        have bound : name ∈ ls.map Located.name :=
          List.mem_map.mpr ⟨l, outermost.mem, outermost.named⟩
        rcases positionIn_cases lines start with ⟨a, ha, inside⟩ | ⟨ha, outside⟩
        · rcases positionIn_cases lines stop with ⟨b, hb, inside'⟩ | ⟨hb, outside⟩
          · -- this use has a place, so it is one of the others
            have placed : ¬ Mention.Outside lines ⟨name, start, stop⟩ := by
              rintro (h | h)
              · exact h.not_gt inside
              · exact h.not_gt inside'
            simp only [ha, hb, bind_eq_error, Except.ok.injEq, exists_eq_left', reduceCtorEq,
              false_or, ih, placed, and_false]
            simp [pure, Except.pure]
          · have unplaced : Mention.Outside lines ⟨name, start, stop⟩ := .inr outside
            simp [ha, hb, bind_eq_error, bound, unplaced, @eq_comm _ _ e]
        · have unplaced : Mention.Outside lines ⟨name, start, stop⟩ := .inl outside
          simp [ha, bind_eq_error, bound, unplaced, @eq_comm _ _ e]

/-- The first definition that is found and has no text leaves the whole script without symbols. -/
theorem locate_eq_error {ds : List (List String × Definition)} {e : SymbolError} :
    locate lines ds = .error e ↔ ∃ why front n back, e = .unprintable why ∧
      (ds.filter fun n => (n.2.nameSpan lines).isSome) = front ++ n :: back ∧
      (∀ m ∈ front, ∃ doc, m.2.docText = .ok doc) ∧ n.2.docText = .error why := by
  induction ds with
  | nil => simp [locate]
  | cons n ds ih =>
    obtain ⟨path, d⟩ := n
    rw [locate]
    cases hspan : d.nameSpan lines with
    | none => rw [List.filter_cons_of_neg (by simp [hspan]), ← ih]
    | some span =>
      rw [List.filter_cons_of_pos (by simp [hspan])]
      cases hdoc : d.docText with
      | error why =>
        constructor
        · intro h
          cases h
          exact ⟨why, [], (path, d), _, rfl, rfl, List.forall_mem_nil _, hdoc⟩
        · rintro ⟨why', front, n, back, rfl, cut, printable, hn⟩
          rcases List.cons_eq_append_iff.mp cut with ⟨rfl, h⟩ | ⟨rest, rfl, -⟩
          · cases h
            cases hdoc.symm.trans hn
            rfl
          · obtain ⟨doc, h⟩ := printable _ List.mem_cons_self
            cases hdoc.symm.trans h
      | ok doc =>
        simp only [bind_eq_error, ih]
        constructor
        · rintro (⟨why, front, n, back, rfl, cut, printable, hn⟩ | ⟨ls, -, h⟩)
          · exact ⟨why, (path, d) :: front, n, back, rfl, by rw [cut]; rfl,
              List.forall_mem_cons.mpr ⟨⟨doc, hdoc⟩, printable⟩, hn⟩
          · cases h
        · rintro ⟨why, front, n, back, rfl, cut, printable, hn⟩
          rcases List.cons_eq_append_iff.mp cut with ⟨rfl, h⟩ | ⟨rest, rfl, later⟩
          · cases h
            cases hdoc.symm.trans hn
          · exact .inl ⟨why, rest, n, back, rfl, later, (List.forall_mem_cons.mp printable).2, hn⟩

/-- All definitions that are found are located just where each of them has a text. -/
theorem exists_located : (∃ ls, locate lines (o.definitions []) = .ok ls) ↔
    ∀ s ∈ o.found lines, ∃ doc, s.definition.docText = .ok doc := by
  simp only [locate_definitions, exists_forall₂]
  refine forall₂_congr fun s hs => ⟨fun ⟨l, hl⟩ => ⟨l.doc, hl.doc⟩, fun ⟨doc, hdoc⟩ => ?_⟩
  obtain ⟨span, hspan⟩ := Option.isSome_iff_exists.mp (List.mem_filter.mp hs).2
  exact ⟨⟨s.qualified.1, span, doc⟩, rfl, hspan, hdoc⟩

theorem symbolsOf_eq_error {e : SymbolError} : symbolsOf lines o = .error e ↔
    locate lines (o.definitions []) = .error e ∨
    ∃ ls, locate lines (o.definitions []) = .ok ls ∧ references lines ls o.breadthFirst = .error e := by
  rw [symbolsOf, bind_eq_error]
  refine or_congr_right (exists_congr fun ls => and_congr_right fun _ => ?_)
  rw [bind_eq_error]
  refine or_iff_left ?_
  rintro ⟨refs, -, h⟩
  cases h

theorem symbolsOf_unprintable {why : Unprintable} : symbolsOf lines o = .error (.unprintable why) ↔
    ∃ front s back, o.found lines = front ++ s :: back ∧
      (∀ r ∈ front, ∃ doc, r.definition.docText = .ok doc) ∧ s.definition.docText = .error why := by
  have sites : (o.definitions []).filter (fun n => (n.2.nameSpan lines).isSome) =
      (o.found lines).map Site.qualified := by
    rw [Outline.definitions_eq, List.filter_map]
    rfl
  rw [symbolsOf_eq_error, locate_eq_error, sites]
  constructor
  · rintro (⟨why', front, n, back, h, cut, printable, hn⟩ | ⟨ls, -, h⟩)
    · cases h
      obtain ⟨front, rest, hfound, rfl, hrest⟩ := List.map_eq_append_iff.mp cut
      obtain ⟨s, back, rfl, rfl, rfl⟩ := List.map_eq_cons_iff.mp hrest
      exact ⟨front, s, back, hfound, fun r hr => printable _ (List.mem_map_of_mem hr), hn⟩
    · cases (references_eq_error.mp h).1
  · rintro ⟨front, s, back, hfound, printable, hs⟩
    refine .inl ⟨why, front.map Site.qualified, s.qualified, back.map Site.qualified, rfl, ?_,
      List.forall_mem_map.mpr printable, hs⟩
    rw [hfound, List.map_append, List.map_cons]

theorem symbolsOf_rowOutOfRange : symbolsOf lines o = .error .rowOutOfRange ↔
    (∀ s ∈ o.found lines, ∃ doc, s.definition.docText = .ok doc) ∧
    ∃ u ∈ o.mentions, u.name ∈ (o.found lines).map Site.name ∧ u.Outside lines := by
  rw [symbolsOf_eq_error, ← exists_located]
  constructor
  · rintro (h | ⟨ls, hls, h⟩)
    · obtain ⟨why, _, _, _, h, -⟩ := locate_eq_error.mp h
      cases h
    · obtain ⟨-, u, hu, bound, outside⟩ := references_eq_error.mp h
      rw [names_found (locate_definitions.mp hls)] at bound
      exact ⟨⟨ls, hls⟩, u, hu, bound, outside⟩
  · rintro ⟨⟨ls, hls⟩, u, hu, bound, outside⟩
    rw [← names_found (locate_definitions.mp hls)] at bound
    exact .inr ⟨ls, hls, references_eq_error.mpr ⟨rfl, u, hu, bound, outside⟩⟩

end

/-- A script has no symbols for one of three reasons. It cannot be read; a definition that is found has
no text, and the first such one counts; or a use of a definition that is found stands in a row that the
buffer does not have. The last does not happen where all carriage returns are paired: then definitions and
uses stand in rows of the buffer. -/
theorem symbols_fails (source : String) :
    (∀ e, symbols source = .error (.unreadable e) ↔ Outline.ofSource source = .error e) ∧
    ∀ o, Outline.ofSource source = .ok o →
      (∀ e, symbols source = .error (.unprintable e) ↔
        ∃ front s back, o.found (Buffer.ofText source) = front ++ s :: back ∧
          (∀ r ∈ front, ∃ doc, r.definition.docText = .ok doc) ∧ s.definition.docText = .error e) ∧
      (symbols source = .error .rowOutOfRange ↔
        (∀ s ∈ o.found (Buffer.ofText source), ∃ doc, s.definition.docText = .ok doc) ∧
        ∃ u ∈ o.mentions, u.name ∈ (o.found (Buffer.ofText source)).map Site.name ∧
          u.Outside (Buffer.ofText source)) ∧
      (Text.Paired source.toList →
        (∀ s ∈ o.sites, s.definition.start.row < (Buffer.ofText source).length) ∧
        (∀ u ∈ o.mentions, ¬ u.Outside (Buffer.ofText source)) ∧
        symbols source ≠ .error .rowOutOfRange) := by
  refine ⟨fun e => ?_, fun o parsed => ?_⟩
  · cases parsed : Outline.ofSource source with
    | error why => simp [symbols, parsed]
    | ok o =>
      refine iff_of_false (fun h => ?_) (by simp)
      rw [symbols, parsed] at h
      rcases symbolsOf_eq_error.mp h with h | ⟨ls, -, h⟩
      · obtain ⟨why, _, _, _, h, -⟩ := locate_eq_error.mp h
        cases h
      · cases (references_eq_error.mp h).1
  · have symbols_eq : symbols source = symbolsOf (Buffer.ofText source) o := by
      rw [symbols, parsed]
    rw [symbols_eq]
    refine ⟨fun _ => symbolsOf_unprintable, symbolsOf_rowOutOfRange, fun paired => ?_⟩
    have above := Outline.above_ofSource parsed paired
    have inside : ∀ u ∈ o.mentions, ¬ u.Outside (Buffer.ofText source) := by
      intro u hu outside
      obtain ⟨start, stop⟩ := above.mention hu
      exact outside.elim start.not_ge stop.not_ge
    refine ⟨fun s hs => above.site hs, inside, fun h => ?_⟩
    obtain ⟨-, u, hu, -, outside⟩ := symbolsOf_rowOutOfRange.mp h
    exact inside u hu outside

/-- A use behind a lone carriage return: neither a list of symbols nor a script that cannot be read. -/
theorem symbols_lone_return : symbols "def f(): pass\rf" = .error .rowOutOfRange := by
  decide +kernel

end Script
end Literate
