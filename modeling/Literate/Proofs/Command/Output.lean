import Literate.Command.Output
import Literate.Proofs.Buffer.Place
import Literate.Proofs.File.Store
import Literate.Render.Format

/-! Names for output in a store. They differ from number to number, so one more of them than there are
entries cannot all be taken: the search for a free one ends, and finds the first. -/

namespace Literate

namespace Path

/-- a name that is a component of a path, and leads down -/
structure IsName (s : String) : Prop where
  slash : '/' ∉ s.toList
  dots : s ≠ ".."
  part : isPart s.toList = true

theorem ofText_name {s : String} (h : IsName s) : ofText s = ⟨.here, [s]⟩ := by
  have root : rootOf s.toList = .here := by
    have none_in_front : s.toList.takeWhile (· == '/') = [] := by
      rw [List.takeWhile_eq_nil_iff]
      intro hlen hfirst
      exact h.slash (beq_iff_eq.mp hfirst ▸ List.getElem_mem hlen)
    rw [rootOf, none_in_front]
    rfl
  have one_part : partsOf s.toList = [s] := by
    rw [partsOf, Text.splitAt, List.splitOn_eq_singleton h.slash, List.filter_cons_of_pos h.part]
    simp
  rw [ofText, root, one_part]

theorem not_slash_of_mem_resolve {here p : Path} (hhere : ∀ n ∈ here.parts, '/' ∉ n.toList)
    (hp : ∀ n ∈ p.parts, '/' ∉ n.toList) : ∀ n ∈ (resolve here p).parts, '/' ∉ n.toList := by
  intro n hn
  have joined := (mem_collapse hn).2
  unfold join at joined
  split at joined
  · rcases List.mem_append.mp joined with h | h
    · exact hhere n h
    · exact hp n h
  · exact hp n joined

theorem not_slash_of_mem_ofText (s : String) : ∀ n ∈ (ofText s).parts, '/' ∉ n.toList := by
  intro n hn
  obtain ⟨l, hl, rfl⟩ := List.mem_map.mp hn
  rw [String.toList_ofList]
  exact Text.not_mem_of_mem_splitAt (List.mem_of_mem_filter hl)

end Path

theorem isDigit_of_mem_repr {n : Nat} {c : Char} (h : c ∈ (toString n).toList) : c.isDigit = true :=
  Nat.isDigit_of_mem_toDigits (by omega) (by omega) (Nat.toList_repr ▸ h)

/-- a day is written in digits and dashes -/
theorem Date.not_slash (d : Date) : '/' ∉ d.text.toList := by
  have digits (width n : Nat) : '/' ∉ (padded width n).toList := by
    rw [padded, String.toList_append, String.toList_ofList, List.mem_append, not_or]
    refine ⟨fun h => ?_, fun h => absurd (isDigit_of_mem_repr h) (by decide)⟩
    exact absurd (List.eq_of_mem_replicate h) (by decide)
  simp [Date.text, digits]

section

variable {date : Option Date} {name suffix : String} {f : Format} {m n : Nat}

theorem outputName_injective (h : outputName date name suffix m = outputName date name suffix n) :
    m = n := by
  have counters : (if m = 1 then "" else "-" ++ toString m) = if n = 1 then "" else "-" ++ toString n := by
    simpa [outputName, ← String.toList_inj] using h
  split_ifs at counters with hm hn hn
  · rw [hm, hn]
  · simp [← String.toList_inj] at counters
  · simp [← String.toList_inj] at counters
  · have digits : toString m = toString n := by simpa [← String.toList_inj] using counters
    exact Nat.repr_inj.mp digits

theorem isName_outputName (h : '/' ∉ name.toList) : Path.IsName (outputName date name f.suffix n) := by
  have suffix : '/' ∉ f.suffix.toList ∧ 3 ≤ f.suffix.toList.length := by cases f <;> decide
  have long : 3 ≤ (outputName date name f.suffix n).toList.length := by
    simp only [outputName, String.toList_append, List.length_append]
    omega
  refine ⟨?_, fun hdots => ?_, ?_⟩
  · have counter : '/' ∉ (if n = 1 then "" else "-" ++ toString n).toList := by
      split_ifs
      · decide
      · rw [String.toList_append, List.mem_append, not_or]
        exact ⟨by decide, fun hc => absurd (isDigit_of_mem_repr hc) (by decide)⟩
    simp only [outputName, String.toList_append, List.mem_append, not_or]
    refine ⟨⟨⟨?_, h⟩, counter⟩, suffix.1⟩
    cases date with
    | none => decide
    | some d => simp [d.not_slash]
  · rw [hdots] at long
    exact absurd long (by decide)
  · rw [Path.isPart, Bool.and_eq_true, decide_eq_true_iff, decide_eq_true_iff]
    constructor <;> intro hs <;> rw [hs] at long <;> exact absurd long (by decide)

end

/-- where the `n`th output for a source is put -/
def outputPlace (date : Option Date) (source : Path) (f : Format) (n : Nat) : List String :=
  source.parts.dropLast ++ [outputName date source.name f.suffix n]

theorem outputPlace_injective {date : Option Date} {source : Path} {f : Format} :
    Function.Injective (outputPlace date source f) := fun _ _ h =>
  outputName_injective (List.singleton_inj.mp (List.append_cancel_left h))

namespace Store

/-- a file at the end of a path that is resolved -/
structure Source (s : Store) (source : Path) : Prop where
  root : source.root = .slash
  dots : ∀ n ∈ source.parts, n ≠ ".."
  slash : '/' ∉ source.name.toList
  file : s.kind? source = some .file

/-- the first number of a place at which nothing stands -/
structure FirstFree (s : Store) (place : Nat → List String) (n : Nat) : Prop where
  pos : 1 ≤ n
  free : s.entry? (place n) = none
  taken : ∀ k, 1 ≤ k → k < n → s.entry? (place k) ≠ none

variable {s : Store} {source : Path}

/-- The entries cannot take one name more than there are of them. -/
theorem exists_free (s : Store) (date : Option Date) (source : Path) (f : Format) :
    ∃ n, 1 ≤ n ∧ n ≤ s.entries.length + 1 ∧ s.entry? (outputPlace date source f n) = none := by
  by_contra hnone
  simp only [not_exists, not_and] at hnone
  -- these places are distinct, and with none of them free all are places of entries
  let places := (List.range (s.entries.length + 1)).map fun k => outputPlace date source f (k + 1)
  have distinct : places.Nodup := List.nodup_range.map fun _ _ hk =>
    Nat.succ_injective (outputPlace_injective hk)
  have taken : places ⊆ s.entries.map (·.1) := by
    intro place hplace
    obtain ⟨k, hk, rfl⟩ := List.mem_map.mp hplace
    have stands := hnone (k + 1) (by omega) (by rw [List.mem_range] at hk; omega)
    have noRoot : outputPlace date source f (k + 1) ≠ [] := by simp [outputPlace]
    rw [ entry?, if_neg noRoot, List.lookup_eq_none_iff] at stands
    push Not at stands
    obtain ⟨e, he, hsame⟩ := stands
    exact List.mem_map.mpr ⟨e, he, (by simpa using hsame : _ = e.1).symm⟩
  have count := distinct.length_le_of_subset taken
  simp only [places, List.length_map, List.length_range] at count
  omega

theorem source_resolve {name : String} (hhere : ∀ n ∈ s.here, '/' ∉ n.toList)
    (h : s.kind? (Path.resolve ⟨.slash, s.here⟩ (Path.ofText name)) = some .file) :
    s.Source (Path.resolve ⟨.slash, s.here⟩ (Path.ofText name)) where
  root := rfl
  dots _ hn := (Path.mem_collapse hn).1
  slash := by
    have all : ∀ n ∈ (Path.resolve ⟨.slash, s.here⟩ (Path.ofText name)).parts, '/' ∉ n.toList :=
      Path.not_slash_of_mem_resolve hhere (Path.not_slash_of_mem_ofText name)
    rw [Path.name, List.getLastD_eq_getLast?]
    cases hlast : (Path.resolve ⟨.slash, s.here⟩ (Path.ofText name)).parts.getLast? with
    | none => decide
    | some n => exact all n (List.mem_of_getLast? hlast)
  file := h

namespace Source

variable (h : s.Source source) (date : Option Date) (f : Format)
include h

theorem outputPath_eq (n : Nat) :
    outputPath date source f.suffix n = ⟨.slash, outputPlace date source f n⟩ := by
  rw [outputPath, Path.ofText_name (isName_outputName h.slash), Path.join, Path.parent, h.root]
  rfl

theorem locate_output (n : Nat) :
    s.locate (outputPath date source f.suffix n) = .ok (outputPlace date source f n) := by
  have file : s.kind? ⟨.slash, source.parts⟩ = some .file := h.root ▸ h.file
  rw [h.outputPath_eq]
  exact locate_sibling file h.dots (isName_outputName h.slash).dots

theorem kind?_output_eq_none {n : Nat} : s.kind? (outputPath date source f.suffix n) = none ↔
    s.entry? (outputPlace date source f n) = none := by
  rw [kind?_of_locate (h.locate_output date f n), Option.map_eq_none_iff]

end Source

/-- The search stops at the first candidate that is free, or when it has tried as many as it may. -/
theorem firstFree_run (candidate : Nat → Path) (s : Store) (fuel n : Nat) :
    ∃ m, n ≤ m ∧ m ≤ n + fuel ∧ (fileSystem.firstFree candidate n fuel).run s = (candidate m, s) ∧
      (∀ k, n ≤ k → k < m → s.kind? (candidate k) ≠ none) ∧
      (m < n + fuel → s.kind? (candidate m) = none) := by
  induction fuel generalizing n with
  | zero => exact ⟨n, le_rfl, le_rfl, rfl, fun k hk hlt => absurd hlt (by omega), fun h => absurd h (by omega)⟩
  | succ fuel ih =>
    cases hkind : s.kind? (candidate n) with
    | none =>
      refine ⟨n, le_rfl, by omega, ?_, fun k hk hlt => absurd hlt (by omega), fun _ => hkind⟩
      have asked : (fileSystem.kind? (candidate n)).run s = (none, s) := by rw [← hkind]; rfl
      rw [FileSystem.firstFree, StateT.run_bind, asked]
      rfl
    | some kind =>
      obtain ⟨m, hle, hbound, hrun, htaken, hfree⟩ := ih (n + 1)
      refine ⟨m, by omega, by omega, ?_, fun k hk hlt => ?_, fun hlt => hfree (by omega)⟩
      · have asked : (fileSystem.kind? (candidate n)).run s = (some kind, s) := by rw [← hkind]; rfl
        rw [FileSystem.firstFree, StateT.run_bind, asked]
        exact hrun
      · rcases Nat.lt_or_eq_of_le hk with hk | rfl
        · exact htaken k hk hlt
        · simp [hkind]

/-- Next to a source the path that is found is the first free one. -/
theorem Source.freeOutput_run (h : s.Source source) (date : Option Date) (f : Format) :
    ∃ n, s.FirstFree (outputPlace date source f) n ∧ n ≤ s.entries.length + 1 ∧
      (fileSystem.freeOutput date source f.suffix).run s = (outputPath date source f.suffix n, s) := by
  obtain ⟨m, hpos, hbound, hrun, htaken, hfree⟩ :=
    firstFree_run (outputPath date source f.suffix) s s.entries.length 1
  simp only [ne_eq, h.kind?_output_eq_none] at htaken hfree
  refine ⟨m, ⟨hpos, ?_, htaken⟩, by omega, hrun⟩
  by_contra hstands
  -- no free number was passed, so the search went as far as it may, up to the one that must be free
  obtain ⟨n, hn, hle, hnfree⟩ := s.exists_free date source f
  rcases Nat.lt_or_ge n m with hlt | hge
  · exact htaken n hn hlt hnfree
  · have last : n = m := by
      have := mt hfree hstands
      omega
    exact hstands (last ▸ hnfree)

/-- A free path next to the source takes one file, behind all entries. -/
theorem Source.write_output (h : s.Source source) {date : Option Date} {f : Format} {n : Nat}
    (hfree : s.entry? (outputPlace date source f n) = none) (bytes : List UInt8) :
    s.write (outputPath date source f.suffix n) bytes =
      .ok { s with entries := s.entries ++ [(outputPlace date source f n, .file bytes)] } := by
  rw [write_eq_ok_iff]
  refine ⟨_, h.locate_output date f n, by simp [hfree], ?_⟩
  rw [← entries_withFile hfree]
  rfl

end Store
end Literate
