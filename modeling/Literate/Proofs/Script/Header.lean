import Literate.Proofs.Script.Rows

/-! Headers of definitions in the text of a script: `def` or `class`, perhaps behind `async`, and the name
as a word of its own. -/

namespace Literate

/-- the blank characters -/
def Text.blanks : List Nat :=
  List.range' 9 5 ++ List.range' 28 5 ++ [0x85, 0xA0, 0x1680] ++ List.range' 0x2000 11 ++
    [0x2028, 0x2029, 0x202F, 0x205F, 0x3000]

theorem Text.mem_blanks {c : Char} (h : isBlank c = true) : c.toNat ∈ blanks := by
  simp only [isBlank, Bool.or_eq_true, Bool.and_eq_true, decide_eq_true_eq, beq_iff_eq] at h
  simp only [blanks, List.mem_append, List.mem_range'_1, List.mem_cons, List.not_mem_nil, or_false]
  omega

/-- Ranges are read from the characters of their rows. -/
theorem Text.rangesOf_eq {rows : List String} {texts : List (List Char)}
    (h : List.Forall₂ (fun row text => row = String.ofList text) rows texts) :
    rangesOf rows = rangesOf.pairs (texts.flatMap hexNumbers) := by
  rw [rangesOf]
  congr 1
  induction h with
  | nil => rfl
  | cons hrow _ ih => rw [List.flatMap_cons, List.flatMap_cons, ih, hrow, String.toList_ofList]

theorem Text.blanks_start_nothing : ∀ n ∈ blanks, isIdentifierStart (Char.ofNat n) = false := by
  unfold isIdentifierStart identifierStartRanges
  -- to evaluate a row character by character would take the kernel a second for each
  rw [rangesOf_eq (by repeat constructor)]
  decide +kernel

/-- An identifier does not start with a blank. -/
theorem Text.isBlank_head {c : Char} {s : List Char} (h : isIdentifier (c :: s) = true) :
    isBlank c = false := by
  rw [isIdentifier, Bool.and_eq_true] at h
  by_contra blank
  have nothing := blanks_start_nothing _ (mem_blanks (by simpa using blank))
  rw [Char.ofNat_toNat, h.1] at nothing
  cases nothing

namespace Script

/-- The first words of a definition and its name stand in the text behind `front`, as words of their own. -/
structure Definition.Header (text : List Char) (d : Definition)
    (front lead keyword gap word behind : List Char) : Prop where
  text_eq : text = front ++ (lead ++ (keyword ++ (gap ++ (word ++ behind))))
  start : d.start = Point.after ⟨0, 0⟩ front
  fresh : Clear front
  lead : lead = [] ∨ ∃ apart, lead = "async".toList ++ apart ∧ apart ≠ [] ∧ Gap apart
  keyword_eq : keyword = "def".toList ∨ keyword = "class".toList
  some_gap : gap ≠ []
  apart : Gap gap
  whole : Whole word behind
  name : d.name = String.ofList (Text.normalize word)

variable {front rest gap word behind : List Char} {t u : Terminal} {ts : List Terminal}
  {d : Definition}

/-- Where a terminal has a text, it is the next piece of it behind a gap. -/
theorem Reads.solid (h : Reads front rest (t :: ts)) (solid : t.Solid) :
    ∃ gap behind, rest = gap ++ (t.text.toList ++ behind) ∧ t.Stands front gap behind ∧
      Reads (front ++ gap ++ t.text.toList) behind ts := by
  cases h with
  | mark kinds _ => exact absurd kinds solid.not_mark
  | read stands more => exact ⟨_, _, rfl, stands, more⟩

/-- A keyword is no operator. -/
theorem Reads.keyword {w : String} (h : Reads front rest (t :: ts)) (ht : t.isWord w = true)
    (strange : w ∉ Pattern.operators) : t.kind = .reserved ∧ t.text = w := by
  obtain ⟨kind | kind, rfl⟩ := Terminal.isWord_iff.mp ht
  · obtain ⟨gap, behind, -, stands, -⟩ := h.solid (.inr (.inr (.inr kind)))
    have known := stands.takes.operator kind
    rw [String.ofList_toList] at known
    exact absurd known strange
  · exact ⟨kind, rfl⟩

/-- A keyword and a name behind it stand in the text with a gap between them. -/
theorem Reads.named (h : Reads front rest (t :: u :: ts)) (reserved : t.kind = .reserved)
    (name : u.kind = .name) :
    ∃ before gap behind, rest = before ++ (t.text.toList ++ (gap ++ (u.text.toList ++ behind))) ∧
      t.Stands front before (gap ++ (u.text.toList ++ behind)) ∧ gap ≠ [] ∧ Gap gap ∧
      Whole u.text.toList behind := by
  obtain ⟨before, rest₁, rfl, stands, more⟩ := h.solid (.inr (.inl reserved))
  obtain ⟨gap, behind, rfl, stands₂, -⟩ := more.solid (.inl name)
  have whole := stands₂.takes.word (.inl name)
  have apart := (stands.takes.word (.inr reserved)).apart whole
  exact ⟨before, gap, behind, rfl, stands, apart, stands₂.apart, whole⟩

/-- The terminals of a header are its words. -/
theorem Reads.header (h : Reads front rest ts) (heads : d.Heads ts) :
    ∃ front' lead keyword gap word behind,
      d.Header (front ++ rest) front' lead keyword gap word behind := by
  cases heads with
  | @plain t u us word kind name place =>
    obtain ⟨reserved, text⟩ : t.kind = .reserved ∧ (t.text = "def" ∨ t.text = "class") := by
      rcases word with word | word
      · exact (h.keyword word (by decide)).imp_right .inl
      · exact (h.keyword word (by decide)).imp_right .inr
    obtain ⟨before, gap, behind, rfl, stands, some_gap, apart, whole⟩ := h.named reserved kind
    have fresh : ¬ Pattern.endsNumber (t.text.toList ++ (gap ++ (u.text.toList ++ behind))) = true := by
      rcases text with text | text <;> rw [text] <;> exact Bool.false_ne_true
    refine ⟨front ++ before, [], t.text.toList, gap, u.text.toList, behind, ?_⟩
    exact {
      text_eq := by rw [List.append_assoc, List.nil_append]
      start := place.trans stands.start
      fresh := stands.fresh.resolve_right fresh
      lead := .inl rfl
      keyword_eq := text.imp (congrArg _) (congrArg _)
      some_gap, apart, whole, name }
  | @async a t u us async word kind name place =>
    obtain ⟨reserved, text⟩ := h.keyword async (by decide)
    obtain ⟨before, rest₁, rfl, stands, more⟩ := h.solid (.inr (.inl reserved))
    obtain ⟨reserved₂, text₂⟩ := more.keyword word (by decide)
    obtain ⟨gap₁, gap, behind, rfl, stands₂, some_gap, apart, whole⟩ := more.named reserved₂ kind
    have apart₁ := (stands.takes.word (.inr reserved)).apart (stands₂.takes.word (.inr reserved₂))
    have fresh : ¬ Pattern.endsNumber (a.text.toList ++ (gap₁ ++ (t.text.toList ++
        (gap ++ (u.text.toList ++ behind))))) = true := by
      rw [text]
      exact Bool.false_ne_true
    refine ⟨front ++ before, a.text.toList ++ gap₁, t.text.toList, gap, u.text.toList, behind, ?_⟩
    exact {
      text_eq := by simp only [List.append_assoc]
      start := place.trans stands.start
      fresh := stands.fresh.resolve_right fresh
      lead := .inr ⟨gap₁, by rw [text], apart₁, stands₂.apart⟩
      keyword_eq := .inl (congrArg _ text₂)
      some_gap, apart, whole, name }

/-- the terminals that are read from the rest of a text -/
def Parse.Supply.ofText (text : List Char) : Parse.Supply where
  Holds ts := ∃ front rest, front ++ rest = text ∧ Reads front rest ts
  tail := by
    rintro t ts ⟨front, rest, text, reads⟩
    cases reads with
    | mark _ more => exact ⟨front, rest, text, more⟩
    | read _ more => exact ⟨_, _, by simpa using text, more⟩

/-- all terminals -/
def Parse.Supply.all : Parse.Supply where
  Holds _ := True
  tail _ := trivial

/-- The header of a definition stands in the text. -/
def Landmark.Headed (text : List Char) : Landmark → Prop
  | definition d => ∃ front lead keyword gap word behind,
    d.Header text front lead keyword gap word behind
  | _ => True

theorem tracks_headed (text : List Char) :
    Grammar.Tracks (fun inText => if inText then .all else .ofText text) (Landmark.Headed text) where
  use _ _ := trivial
  field _ _ _ := trivial
  define := by
    rintro ts d ⟨front, rest, rfl, reads⟩ heads
    exact reads.header heads

theorem Outline.headed_ofSource {source : String} {o : Outline} (parsed : ofSource source = .ok o) :
    o.All (Landmark.Headed (Strict.withLineFeeds source.toList)) :=
  all_ofSource (tracks_headed _) (fun _ h => ⟨[], _, List.nil_append _, reads_terminals h⟩) parsed

theorem inWord_of_isWord {c : Char} (h : Text.isWord c = true) : Pattern.inWord c = true := by
  unfold Text.isWord at h
  split at h
  · rw [Pattern.inWord, h, Bool.true_or]
  · next big =>
    have beyond : 128 ≤ c.toNat := not_lt.mp big
    rw [Pattern.inWord, decide_eq_true beyond, Bool.or_true]

theorem isWord_of_not_inWord {c : Char} (h : Pattern.inWord c = false) : Text.isWord c = false := by
  by_contra word
  rw [inWord_of_isWord (by simpa using word)] at h
  cases h

/-- No word ends in front of where a word starts. -/
theorem boundary_of_clear {c : Char} (clear : Clear front) (hc : Text.isWord c = true) :
    boundary front.getLast? (some c) = true := by
  cases last : front.getLast? with
  | none => simp [boundary, hc]
  | some b => simp [boundary, hc, isWord_of_not_inWord (clear b last)]

theorem Clear.of_suffix {here : List Char} (h : Clear front) (suffix : here <:+ front) : Clear here := by
  intro c hc
  obtain ⟨above, rfl⟩ := suffix
  refine h c ?_
  rw [List.getLast?_append, hc]
  rfl

theorem isBlank_of_isLayout {c : Char} (h : isLayout c = true) : Text.isBlank c = true := by
  rw [isLayout, Bool.or_eq_true, Bool.or_eq_true, beq_iff_eq, beq_iff_eq, beq_iff_eq] at h
  rcases h with (rfl | rfl) | rfl <;> decide

/-- A gap without line breaks is blank. -/
theorem Gap.blank (h : Gap gap) (unbroken : '\n' ∉ gap) : ∀ c ∈ gap, isLayout c = true :=
  h.resolve_left unbroken

end Script
end Literate
