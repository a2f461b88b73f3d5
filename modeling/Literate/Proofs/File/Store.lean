import Mathlib
import Literate.File.Store

/-! Places in a store. A path is followed through directories only, so a file that is put where nothing
stands, or in place of another file, leaves every path where it leads; what is written there is what is
read, and all other entries are as they were. -/

namespace Literate

namespace Path

/-- No double dots are left, and nothing is new. -/
theorem mem_collapse {parts : List String} {name : String} (h : name ∈ collapse parts) :
    name ≠ ".." ∧ name ∈ parts := by
  suffices ∀ acc : List String, (∀ n ∈ acc, n ≠ ".." ∧ n ∈ parts) → ∀ rest ⊆ parts,
      ∀ n ∈ rest.foldl (fun ps s => if s = ".." then ps.dropLast else ps ++ [s]) acc,
        n ≠ ".." ∧ n ∈ parts from
    this [] (by simp) parts (List.Subset.refl _) name h
  intro acc hacc rest hrest
  induction rest generalizing acc with
  | nil => exact hacc
  | cons s rest ih =>
    obtain ⟨hs, hrest⟩ := List.cons_subset.mp hrest
    refine ih _ (fun n hn => ?_) hrest
    dsimp only at hn
    split_ifs at hn with hdots
    · exact hacc n (List.dropLast_subset _ hn)
    · rcases List.mem_append.mp hn with hn | hn
      · exact hacc n hn
      · rw [List.mem_singleton.mp hn]
        exact ⟨hdots, hs⟩

end Path

namespace Store

variable {s s' : Store} {p : Path} {start parts place : List String} {bytes : List UInt8}

theorem walk_append (qs : List String) : s.walk start (parts ++ qs) = (do s.walk (← s.walk start parts) qs) := by
  induction parts generalizing start with
  | nil => rfl
  | cons name parts ih =>
    rw [List.cons_append, walk, walk]
    split
    · rfl
    · rfl
    · exact ih

theorem walk_name {name : String} (h : s.entry? start = some .directory) (hn : name ≠ "..") :
    s.walk start [name] = .ok (start ++ [name]) := by
  rw [walk, h]
  simp only [if_neg hn]
  rfl

/-- Only directories lead farther. -/
theorem directory_of_walk {name : String} (h : s.walk start (name :: parts) = .ok place) :
    s.entry? start = some .directory := by
  rw [walk] at h
  split at h <;> simp_all

theorem eq_of_walk (h : s.walk start parts = .ok place) (hdots : ∀ n ∈ parts, n ≠ "..") :
    place = start ++ parts := by
  induction parts generalizing start with
  | nil => simpa [walk] using h.symm
  | cons name parts ih =>
    rw [walk, directory_of_walk h] at h
    obtain ⟨hname, hparts⟩ := List.forall_mem_cons.mp hdots
    simp only [if_neg hname] at h
    simpa using ih h hparts

/-- Where all directories remain, all paths lead where they led. -/
theorem walk_mono (hdir : ∀ q, s.entry? q = some .directory → s'.entry? q = some .directory)
    (h : s.walk start parts = .ok place) : s'.walk start parts = .ok place := by
  induction parts generalizing start with
  | nil => exact h
  | cons name parts ih =>
    have here := directory_of_walk h
    rw [walk, here] at h
    rw [walk, hdir _ here]
    exact ih h

/-- the store with a file at a place -/
def withFile (s : Store) (place : List String) (bytes : List UInt8) : Store :=
  { s with entries := put place (.file bytes) s.entries }

@[simp] theorem here_withFile : (s.withFile place bytes).here = s.here := rfl

theorem entry?_withFile_self (h : place ≠ []) :
    entry? (s.withFile place bytes) place = some (.file bytes) := by
  rw [ entry?, if_neg h, withFile, lookup_put, if_pos rfl]

theorem entry?_withFile_ne {q : List String} (h : q ≠ place) :
    entry? (s.withFile place bytes) q = s.entry? q := by
  rw [ entry?, entry?, withFile, lookup_put, if_neg h]

theorem put_of_lookup_none {e : FileEntry} {es : List (List String × FileEntry)}
    (h : es.lookup place = none) : put place e es = es ++ [(place, e)] := by
  induction es with
  | nil => rfl
  | cons x es ih =>
    obtain ⟨q, d⟩ := x
    by_cases hq : q = place
    · subst hq
      simp at h
    · have hlookup : es.lookup place = none := by
        rwa [List.lookup_cons, beq_eq_false_iff_ne.mpr (Ne.symm hq)] at h
      rw [put, if_neg hq, ih hlookup, List.cons_append]

/-- A file is put behind all entries where nothing stands. -/
theorem entries_withFile (h : s.entry? place = none) :
    (s.withFile place bytes).entries = s.entries ++ [(place, .file bytes)] := by
  rw [ entry?] at h
  split_ifs at h
  exact put_of_lookup_none h

/-- An entry is found as before when others are put behind all entries. -/
theorem entry?_append {e : FileEntry} {more : List (List String × FileEntry)}
    (h : s.entry? place = some e) :
    entry? { s with entries := s.entries ++ more } place = some e := by
  unfold entry? at h ⊢
  split_ifs at h ⊢
  · exact h
  · exact List.lookup_append.trans (by rw [h]; rfl)

theorem entry?_append_self {e : FileEntry} {more : List (List String × FileEntry)}
    (h : s.entry? place = none) :
    entry? { s with entries := s.entries ++ (place, e) :: more } place = some e := by
  unfold entry? at h ⊢
  split_ifs at h ⊢
  exact List.lookup_append.trans (by rw [h]; simp)

theorem entry?_eq_none_of_append {more : List (List String × FileEntry)}
    (h : entry? { s with entries := s.entries ++ more } place = none) :
    s.entry? place = none := by
  by_contra hne
  obtain ⟨e, he⟩ := Option.ne_none_iff_exists'.mp hne
  rw [entry?_append he] at h
  cases h

theorem locate_mono (hhere : s'.here = s.here)
    (hdir : ∀ q, s.entry? q = some .directory → s'.entry? q = some .directory)
    (h : s.locate p = .ok place) : s'.locate p = .ok place := by
  rw [locate, hhere]
  exact walk_mono hdir h

theorem write_eq_ok_iff : s.write p bytes = .ok s' ↔
    ∃ place, s.locate p = .ok place ∧ s.entry? place ≠ some .directory ∧ s' = s.withFile place bytes := by
  unfold write
  split
  · simp_all
  · next place hplace =>
    split
    · simp_all
    · next hdir =>
      constructor
      · intro h
        exact ⟨place, hplace, hdir, (Except.ok.inj h).symm⟩
      · rintro ⟨q, hq, -, rfl⟩
        rw [Except.ok.inj (hplace.symm.trans hq)]
        rfl

/-- What is written to a path is read from it. -/
theorem read_of_write (h : s.write p bytes = .ok s') : s'.read p = .ok bytes := by
  obtain ⟨place, hplace, hdir, rfl⟩ := write_eq_ok_iff.mp h
  have noRoot : place ≠ [] := by rintro rfl; exact hdir rfl
  have kept (q : List String) (hq : s.entry? q = some .directory) :
      entry? (s.withFile place bytes) q = some .directory := by
    rw [entry?_withFile_ne (by rintro rfl; exact hdir hq), hq]
  have leads : (s.withFile place bytes).locate p = .ok place := locate_mono here_withFile kept hplace
  simp only [read, leads, entry?_withFile_self noRoot]

theorem kind?_eq_file_iff : s.kind? p = some .file ↔
    ∃ place bytes, s.locate p = .ok place ∧ s.entry? place = some (.file bytes) := by
  unfold kind?
  split
  · next place hplace =>
    rw [Option.map_eq_some_iff]
    constructor
    · rintro ⟨_ | _, he, hkind⟩
      · exact ⟨place, _, hplace, he⟩
      · cases hkind
    · rintro ⟨q, bytes, hq, he⟩
      rw [Except.ok.inj (hplace.symm.trans hq)]
      exact ⟨_, he, rfl⟩
  · simp_all

/-- A file can be read. -/
theorem read_of_kind? (h : s.kind? p = some .file) : ∃ bytes, s.read p = .ok bytes := by
  obtain ⟨place, bytes, hplace, he⟩ := kind?_eq_file_iff.mp h
  exact ⟨bytes, by simp only [read, hplace, he]⟩

/-- The directory of a file is one, and so it can be asked for any other name. -/
theorem locate_sibling {names : List String} (h : s.kind? ⟨.slash, names⟩ = some .file)
    (hdots : ∀ n ∈ names, n ≠ "..") {name : String} (hname : name ≠ "..") :
    s.locate ⟨.slash, names.dropLast ++ [name]⟩ = .ok (names.dropLast ++ [name]) := by
  obtain ⟨place, bytes, hplace, he⟩ := kind?_eq_file_iff.mp h
  change s.walk [] names = .ok place at hplace
  change s.walk [] (names.dropLast ++ [name]) = _
  have nonempty : names ≠ [] := by
    rintro rfl
    rw [← Except.ok.inj hplace] at he
    cases he
  -- the way to the file leads through its directory, and there the two ways part
  rw [← List.dropLast_append_getLast nonempty, walk_append] at hplace
  cases hdirectory : s.walk [] names.dropLast with
  | error fault =>
    rw [hdirectory] at hplace
    cases hplace
  | ok directory =>
    rw [hdirectory] at hplace
    have isDirectory := directory_of_walk hplace
    have same : directory = names.dropLast :=
      eq_of_walk hdirectory fun n hn => hdots n (List.dropLast_subset _ hn)
    subst same
    rw [walk_append, hdirectory]
    exact walk_name isDirectory hname

theorem kind?_of_locate (h : s.locate p = .ok place) :
    s.kind? p = (s.entry? place).map FileEntry.kind := by
  rw [kind?, h]

end Store
end Literate
