import Literate.Proofs.Buffer.Place
import Literate.Proofs.Script.Name
import Literate.Proofs.Script.Reference

/-! The tokens of symbols lie on the names that they stand for: those of definitions on the name behind
`def` or `class`, those of uses on the characters that a parser has read the name from. -/

namespace Literate

/-- The span stands in one row of the buffer, and its text is this one. -/
structure Buffer.Covers (lines : Buffer) (span : Span) (text : String) : Prop where
  row : span.stop.line = span.start.line
  start : lines.Holds span.start
  stop : lines.Holds span.stop
  text : lines.extract span = text

theorem Buffer.covers_of_line {lines : Buffer} {row : Nat} {front word behind : List Char}
    (h : lines[row]? = some (front ++ (word ++ behind))) :
    lines.Covers ⟨⟨row, front.length⟩, ⟨row, (front ++ word).length⟩⟩ (String.ofList word) := by
  obtain ⟨hrow, hline⟩ := List.getElem?_eq_some_iff.mp h
  obtain ⟨above, below, rfl, rfl⟩ : ∃ above below,
      lines = above ++ (front ++ (word ++ behind)) :: below ∧ row = above.length := by
    refine ⟨lines.take row, lines.drop (row + 1), ?_, (List.length_take_of_le hrow.le).symm⟩
    rw [← hline, List.getElem_cons_drop, List.take_append_drop]
  have stop : (front ++ word).length ≤ (front ++ (word ++ behind)).length := by simp
  have start : front.length ≤ (front ++ (word ++ behind)).length := by simp
  refine ⟨rfl, holds_append_cons start, holds_append_cons stop, ?_⟩
  rw [extract, slice_same (by simp) stop, ← List.append_assoc, List.take_left, List.drop_left]

theorem Buffer.columnOfByte_append (front behind : List Char) :
    columnOfByte (front ++ behind) (byteLength front) = front.length := by
  have inside : front.length ≤ (front ++ behind).length := by simp
  have := columnOfByte_byteLength inside
  rwa [List.take_left] at this

namespace Script

/-- The places of a use are those of a word of the buffer. -/
structure Mention.Spells (lines : Buffer) (u : Mention) (word : List Char) : Prop where
  row : u.stop.row = u.start.row
  text : ∃ front behind, lines[u.start.row]? = some (front ++ (word ++ behind)) ∧
    u.start.byte = Buffer.byteLength front ∧ u.stop.byte = Buffer.byteLength (front ++ word)

variable {lines : Buffer} {ls : List Located} {u : Mention} {t : Token} {s : Site} {l : Located}
  {word : List Char}

theorem positionIn_of_line {p : Point} {front behind : List Char}
    (h : lines[p.row]? = some (front ++ behind)) (byte : p.byte = Buffer.byteLength front) :
    positionIn lines p = .ok ⟨p.row, front.length⟩ := by
  rw [positionIn, h, byte]
  dsimp only
  rw [Buffer.columnOfByte_append]

/-- The token of a use lies on the word that the parser has read. -/
theorem Refers.covers (h : Refers lines ls u t) (spells : u.Spells lines word) :
    lines.Covers t.span (String.ofList word) := by
  obtain ⟨front, behind, line, start, stop⟩ := spells.text
  have first := Except.ok.inj (h.start.symm.trans (positionIn_of_line line start))
  have line' : lines[u.stop.row]? = some ((front ++ word) ++ behind) := by
    rw [spells.row, line, List.append_assoc]
  have last := Except.ok.inj (h.stop.symm.trans (positionIn_of_line line' stop))
  have span : t.span = ⟨⟨u.start.row, front.length⟩, ⟨u.start.row, (front ++ word).length⟩⟩ := by
    rw [← first, ← spells.row, ← last]
  rw [span]
  exact Buffer.covers_of_line line

/-- The token of a definition lies on its name. -/
theorem Finds.covers (h : Finds lines s.qualified l) : lines.Covers l.token.span s.name := by
  obtain ⟨front, keyword, gap, behind, legible, span⟩ := nameSpan_eq_some h.span
  have line : lines[s.definition.start.row]? =
      some ((front ++ keyword ++ gap) ++ (s.name.toList ++ behind)) := by
    rw [List.append_assoc, List.append_assoc]
    exact legible.line
  have covers := Buffer.covers_of_line line
  have length : ((front ++ keyword ++ gap) ++ s.name.toList).length =
      (front ++ keyword ++ gap).length + s.name.length := by
    rw [List.length_append, String.length_toList]
  rw [String.ofList_toList, length, Nat.cast_add] at covers
  rw [show l.token.span = _ from span]
  exact covers

/-- Where the places of all uses are those of their words in the source, and these words are normal, each
token of a definition lies on its name and each token of a use on the name that is used. -/
theorem symbols_cover_names {source : String} {o : Outline} {ts : List Token}
    (parsed : Outline.ofSource source = .ok o) (h : symbols source = .ok ts)
    (placed : ∀ u ∈ o.mentions, ∃ word, u.Spells (Buffer.ofText source) word ∧
      u.name = String.ofList (Text.normalize word))
    (normal : ∀ u ∈ o.mentions, ∀ word, u.Spells (Buffer.ofText source) word →
      Text.normalize word = word) :
    ∃ defs refs, ts = defs ++ refs ∧
      List.Forall₂ (fun s t => t.mark.isDefinition = true ∧
        (Buffer.ofText source).Covers t.span s.name) (o.found (Buffer.ofText source)) defs ∧
      List.Forall₂ (fun u t => t.mark.isReference = true ∧
        (Buffer.ofText source).Covers t.span u.name)
        (o.mentions.filter fun u => u.name ∈ (o.found (Buffer.ofText source)).map Site.name) refs := by
  rw [symbols, parsed] at h
  obtain ⟨ls, refs, rfl, hls, hrefs⟩ := symbolsOf_eq_ok.mp h
  refine ⟨ls.map Located.token, refs, rfl, ?_, ?_⟩
  · rw [List.forall₂_map_right_iff]
    exact hls.imp fun s l found => ⟨rfl, found.covers⟩
  · have spelled : ∀ u ∈ o.mentions.filter fun u =>
          u.name ∈ (o.found (Buffer.ofText source)).map Site.name,
        u.Spells (Buffer.ofText source) u.name.toList := by
      intro u hu
      have hu := List.mem_of_mem_filter hu
      obtain ⟨word, spells, name⟩ := placed u hu
      rwa [name, String.toList_ofList, normal u hu word spells]
    refine ((List.forall₂_and_left _ _).mpr ⟨spelled, hrefs⟩).imp fun u t ⟨spells, refers⟩ => ?_
    obtain ⟨l, -, mark⟩ := refers.target
    have covers := refers.covers spells
    rw [String.ofList_toList] at covers
    exact ⟨by rw [mark], covers⟩

/-! A use behind a character of two bytes. -/

namespace Accented

def source : String := "def f(): pass
\"é\", f
"

def buffer : Buffer := ["def f(): pass".toList, "\"é\", f".toList, []]

def mention : Mention := ⟨"f", ⟨1, 6⟩, ⟨1, 7⟩⟩

def tokens : List Token := [
  ⟨⟨⟨0, 4⟩, ⟨0, 5⟩⟩, { symbol := "f", isDefinition := true, doc := ["def f()"] }⟩,
  ⟨⟨⟨1, 5⟩, ⟨1, 6⟩⟩, { symbol := "f", isReference := true, doc := ["def f()"] }⟩]

theorem symbols_eq : symbols source = .ok tokens := by
  decide +kernel

theorem buffer_eq : Buffer.ofText source = buffer := by
  decide +kernel

theorem outline_eq : (Outline.ofSource source).toOption.map
    (fun o => (o.mentions, (o.found buffer).map Site.name)) = some ([mention], ["f"]) := by
  decide +kernel

theorem spells : mention.Spells buffer ['f'] :=
  ⟨rfl, "\"é\", ".toList, [], by decide +kernel, by decide +kernel, by decide +kernel⟩

theorem eq_of_spells {word : List Char} (h : mention.Spells buffer word) : word = ['f'] := by
  obtain ⟨front, behind, line, start, stop⟩ := h.text
  have line : front ++ (word ++ behind) = "\"é\", f".toList := (Option.some.inj line).symm
  have first : front.length = 5 := by
    rw [← Buffer.columnOfByte_append front (word ++ behind), line, ← start]
    decide +kernel
  have last : (front ++ word).length = 6 := by
    rw [← Buffer.columnOfByte_append (front ++ word) behind, List.append_assoc, line, ← stop]
    decide +kernel
  have word_eq : word = ((front ++ (word ++ behind)).drop 5).take 1 := by
    rw [List.length_append] at last
    rw [List.drop_left' first, List.take_left' (by omega)]
  rw [word_eq, line]
  decide +kernel

end Accented

open Accented in
theorem symbols_cover_names_accented : symbols source = .ok tokens ∧
    ∃ defs refs, tokens = defs ++ refs ∧
      List.Forall₂ (fun name t => t.mark.isDefinition = true ∧ buffer.Covers t.span name) ["f"] defs ∧
      List.Forall₂ (fun u t => t.mark.isReference = true ∧ buffer.Covers t.span u.name)
        [mention] refs := by
  obtain ⟨o, parsed, h⟩ := exists_of_toOption_map outline_eq
  obtain ⟨hmentions, hfound⟩ := Prod.mk.inj h
  have cover := symbols_cover_names parsed symbols_eq
    (by rw [hmentions, buffer_eq]; exact List.forall_mem_singleton.mpr ⟨['f'], spells, rfl⟩)
    (by
      rw [hmentions, buffer_eq]
      exact List.forall_mem_singleton.mpr fun word h => by rw [eq_of_spells h]; rfl)
  rw [buffer_eq, hmentions] at cover
  obtain ⟨defs, refs, h, hdefs, hrefs⟩ := cover
  refine ⟨symbols_eq, defs, refs, h, ?_, ?_⟩
  · rw [← hfound, List.forall₂_map_left_iff]
    exact hdefs
  · rw [hfound] at hrefs
    exact hrefs

end Script
end Literate
