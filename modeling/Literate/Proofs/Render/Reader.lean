import Literate.Proofs.Render.Escape
import Literate.Render.Markup

/-! Markup read back by a reader that goes through the text character by character: tags with their
attributes, and template literals in braces. From the printed form of a tree whose texts and values are
sealed it reads the tags of the tree, properly nested, and the literals in the places of the texts. -/

namespace Literate.Markup

open Code (char)

/-- a tag as it is read, with its values as they are written -/
structure Tag where
  closing : Bool
  name : Wording
  attributes : List (Wording × Wording) := []
  deriving DecidableEq, Repr

inductive Piece where
  | tag (t : Tag)
  /-- the inside of a template literal in braces -/
  | literal (s : Wording)
  deriving DecidableEq, Repr

/-- where a reader is -/
inductive Mode where
  | between
  /-- behind the start of a tag -/
  | opened
  | name (t : Tag)
  | key (t : Tag) (name : Wording)
  /-- behind an equals sign -/
  | assigned (t : Tag) (name : Wording)
  | value (t : Tag) (name value : Wording)
  /-- behind the quote that ends a value -/
  | valued (t : Tag)
  /-- behind an opening brace -/
  | braced
  | literal (s : Wording)
  /-- behind a backslash -/
  | hidden (s : Wording)
  /-- behind a dollar sign -/
  | dollar (s : Wording)
  /-- behind the tick that ends a literal -/
  | ended (s : Wording)
  deriving DecidableEq, Repr

namespace Mode

/-- behind a name or a value there is another attribute, or the end of the tag -/
def goOn (t : Tag) (c : Code) : Option (List Piece × Mode) :=
  if c = char ' ' then some ([], key t [])
  else if c = char '>' then some ([.tag t], between)
  else none

def inLiteral (s : Wording) (c : Code) : List Piece × Mode :=
  if c = char '\\' then ([], hidden (s ++ [c]))
  else if c = char '\x60' then ([], ended s)
  else if c = char '$' then ([], dollar (s ++ [c]))
  else ([], literal (s ++ [c]))

/-- One character; `text` says what may stand between tags. An expression in a literal is refused. -/
def step (text : Code → Option Mode) : Mode → Code → Option (List Piece × Mode)
  | between, c => if c = char '<' then some ([], opened) else (text c).map fun m => ([], m)
  | opened, c =>
    if c = char '/' then some ([], name ⟨true, [], []⟩)
    else if c.is Char.isAlpha then some ([], name ⟨false, [c], []⟩)
    else none
  | name t, c =>
    if c.is Char.isAlpha then some ([], name { t with name := t.name ++ [c] }) else goOn t c
  | key t n, c =>
    if c.is Char.isAlpha then some ([], key t (n ++ [c]))
    else if c = char '=' then some ([], assigned t n)
    else none
  | assigned t n, c => if c = char '"' then some ([], value t n []) else none
  | value t n v, c =>
    if c = char '"' then some ([], valued { t with attributes := t.attributes ++ [(n, v)] })
    else some ([], value t n (v ++ [c]))
  | valued t, c => goOn t c
  | braced, c => if c = char '\x60' then some ([], literal []) else none
  | literal s, c => some (inLiteral s c)
  | hidden s, c => some ([], literal (s ++ [c]))
  | dollar s, c => if c = char '\x7b' then none else some (inLiteral s c)
  | ended s, c => if c = char '\x7d' then some ([.literal s], between) else none

/-- any character but the start of a tag -/
def bare (_ : Code) : Option Mode := some between

/-- only literals in braces -/
def inBraces (c : Code) : Option Mode := if c = char '\x7b' then some braced else none

def walk (text : Code → Option Mode) : Mode → Wording → Option (List Piece × Mode)
  | m, [] => some ([], m)
  | m, c :: s => do
    let (ps, m) ← step text m c
    let (qs, m) ← walk text m s
    return (ps ++ qs, m)

end Mode

/-- the tags and literals of a whole text -/
def read (text : Code → Option Mode) (s : Wording) : Option (List Piece) :=
  match Mode.walk text .between s with
  | some (ps, .between) => some ps
  | _ => none

/-- Each tag that opens is closed by one of the same name, and what opens inside is closed inside. -/
inductive Nested : List Tag → Prop where
  | nil : Nested []
  | element (name : Wording) (attributes : List (Wording × Wording)) {inside rest : List Tag} :
    Nested inside → Nested rest →
    Nested (⟨false, name, attributes⟩ :: inside ++ ⟨true, name, []⟩ :: rest)

theorem Nested.append {ts us : List Tag} (ht : Nested ts) (hu : Nested us) : Nested (ts ++ us) := by
  induction ht with
  | nil => exact hu
  | element n as hi hr _ ih =>
    rw [List.append_assoc, List.cons_append]
    exact .element n as hi ih

namespace Mode

variable {text : Code → Option Mode} {m m' m'' : Mode} {s t : Wording} {ps qs : List Piece}

theorem walk_append (h : walk text m s = some (ps, m')) (k : walk text m' t = some (qs, m'')) :
    walk text m (s ++ t) = some (ps ++ qs, m'') := by
  induction s generalizing m ps with
  | nil =>
    obtain ⟨rfl, rfl⟩ := Prod.mk.inj (Option.some.inj h)
    exact k
  | cons c s ih =>
    rw [walk] at h
    obtain ⟨⟨ps₁, m₁⟩, hstep, h⟩ := Option.bind_eq_some_iff.mp h
    obtain ⟨⟨ps₂, m₂⟩, hwalk, h⟩ := Option.bind_eq_some_iff.mp h
    obtain ⟨rfl, rfl⟩ := Prod.mk.inj (Option.some.inj h)
    rw [List.cons_append, walk, hstep]
    simp only [Option.bind_eq_bind, Option.bind_some, ih hwalk, List.append_assoc]
    rfl

theorem walk_cons {c : Code} (h : step text m c = some (ps, m'))
    (k : walk text m' s = some (qs, m'')) : walk text m (c :: s) = some (ps ++ qs, m'') := by
  rw [walk, h]
  simp only [Option.bind_eq_bind, Option.bind_some, k]
  rfl

/-- A mode that gathers characters takes them all. -/
theorem walk_gather {M : Wording → Mode}
    (h : ∀ c ∈ s, ∀ v, step text (M v) c = some ([], M (v ++ [c]))) (v : Wording) :
    walk text (M v) s = some ([], M (v ++ s)) := by
  induction s generalizing v with
  | nil => rw [walk, List.append_nil]
  | cons c s ih =>
    obtain ⟨hc, hs⟩ := List.forall_mem_cons.mp h
    simpa using walk_cons (hc v) (ih hs (v ++ [c]))

theorem walk_name (t : Tag) (h : ∀ c ∈ s, c.is Char.isAlpha = true) :
    walk text (.name t) s = some ([], .name { t with name := t.name ++ s }) :=
  walk_gather (M := fun v => .name { t with name := v }) (fun c hc v => by simp [step, h c hc]) t.name

theorem walk_key (t : Tag) (n : Wording) (h : ∀ c ∈ s, c.is Char.isAlpha = true) :
    walk text (.key t n) s = some ([], .key t (n ++ s)) :=
  walk_gather (fun c hc v => by simp [step, h c hc]) n

theorem walk_value (t : Tag) (n v : Wording) (h : char '"' ∉ s) :
    walk text (.value t n v) s = some ([], .value t n (v ++ s)) :=
  walk_gather (fun c hc v => by simp [step, ne_of_mem_of_not_mem hc h]) v

/-- behind a name of a tag, or behind a value in it -/
def Behind (text : Code → Option Mode) (t : Tag) (m : Mode) : Prop :=
  ∀ c, c.is Char.isAlpha = false → step text m c = goOn t c

theorem behind_name (t : Tag) : Behind text t (.name t) := fun c hc => by simp [step, hc]

theorem behind_valued (t : Tag) : Behind text t (.valued t) := fun _ _ => rfl

end Mode

/-- the name of a tag or an attribute -/
def Word (s : String) : Prop := codes s ≠ [] ∧ ∀ c ∈ codes s, c.is Char.isAlpha = true

instance (s : String) : Decidable (Word s) :=
  -- over the letters of the word, not over all characters there are
  have := List.decidableBAll (fun c : Code => c.is Char.isAlpha = true) (codes s)
  instDecidableAnd

/-- the attributes as they are read -/
def written (as : List (String × Wording)) : List (Wording × Wording) :=
  as.map fun a => (codes a.1, a.2)

def Tag.add (t : Tag) (as : List (String × Wording)) : Tag :=
  { t with attributes := t.attributes ++ written as }

def opening (name : String) (as : List (String × Wording)) : Tag := ⟨false, codes name, written as⟩

def closing (name : String) : Tag := ⟨true, codes name, []⟩

namespace Mode

variable {text : Code → Option Mode} {m : Mode} {t : Tag}

theorem walk_attribute (hm : Behind text t m) {a : String × Wording} (hn : Word a.1)
    (hv : char '"' ∉ a.2) : walk text m (printAttribute a) = some ([], .valued (t.add [a])) := by
  have name : walk text m (char ' ' :: codes a.1) = some ([], .key t (codes a.1)) :=
    walk_cons (hm (char ' ') rfl) (walk_key t [] hn.2)
  have equals : step text (.key t (codes a.1)) (char '=') = some ([], .assigned t (codes a.1)) := rfl
  have quote : step text (.assigned t (codes a.1)) (char '"') = some ([], .value t (codes a.1) []) :=
    rfl
  have value : walk text (.key t (codes a.1)) (char '=' :: char '"' :: a.2) =
      some ([], .value t (codes a.1) a.2) :=
    walk_cons equals (walk_cons quote (walk_value t (codes a.1) [] hv))
  exact walk_append (walk_append name value) rfl

theorem walk_attributes (hm : Behind text t m) {as : List (String × Wording)}
    (h : ∀ a ∈ as, Word a.1 ∧ char '"' ∉ a.2) :
    ∃ m', Behind text (t.add as) m' ∧ walk text m (as.flatMap printAttribute) = some ([], m') := by
  induction as generalizing m t with
  | nil => exact ⟨m, by simpa [Tag.add, written] using hm, rfl⟩
  | cons a as ih =>
    obtain ⟨⟨hn, hv⟩, has⟩ := List.forall_mem_cons.mp h
    obtain ⟨m', hm', hwalk⟩ := ih (behind_valued (t.add [a])) has
    refine ⟨m', by simpa [Tag.add, written] using hm', ?_⟩
    rw [List.flatMap_cons]
    exact walk_append (walk_attribute hm hn hv) hwalk

theorem step_between : step text .between (char '<') = some ([], .opened) := rfl

theorem walk_opened {n : String} (hn : Word n) :
    walk text .between (char '<' :: codes n) = some ([], .name (opening n [])) := by
  obtain ⟨c, cs, hcs⟩ := List.exists_cons_of_ne_nil hn.1
  have letters := hn.2
  rw [hcs] at letters
  obtain ⟨hc, hs⟩ := List.forall_mem_cons.mp letters
  have first : step text .opened c = some ([], .name ⟨false, [c], []⟩) := by
    have slash : c ≠ char '/' := by rintro rfl; exact absurd hc (by decide)
    simp [step, slash, hc]
  rw [opening, hcs]
  exact walk_cons step_between (walk_cons first (walk_name _ hs))

theorem walk_closing {n : String} (hn : Word n) :
    walk text .between (char '<' :: char '/' :: codes n ++ [char '>']) =
      some ([.tag (closing n)], .between) := by
  have slash : step text .opened (char '/') = some ([], .name ⟨true, [], []⟩) := rfl
  exact walk_append (walk_cons step_between (walk_cons slash (walk_name ⟨true, [], []⟩ hn.2))) rfl

end Mode

section

variable (text : Code → Option Mode) (ok : Wording → Prop)

mutual

/-- what is read from the printed form -/
def pieces : Markup → List Piece
  | .text s => (read text s).getD []
  | .element n as cs => .tag (opening n as) :: piecesAll cs ++ [.tag (closing n)]

def piecesAll : List Markup → List Piece
  | [] => []
  | m :: ms => pieces m ++ piecesAll ms

end

mutual

/-- Names are words, values are sealed, and the texts are as asked. -/
def Clean : Markup → Prop
  | .text s => ok s
  | .element n as cs => Word n ∧ (∀ a ∈ as, Word a.1 ∧ Escape.Sealed a.2) ∧ CleanAll cs

def CleanAll : List Markup → Prop
  | [] => True
  | m :: ms => Clean m ∧ CleanAll ms

end
end

/-- the tags among what is read -/
def tagsOf (ps : List Piece) : List Tag :=
  ps.filterMap fun
    | .tag t => some t
    | .literal _ => none

/-- the insides of the literals among what is read -/
def literalsOf (ps : List Piece) : List Wording :=
  ps.filterMap fun
    | .tag _ => none
    | .literal s => some s

theorem tagsOf_append (ps qs : List Piece) : tagsOf (ps ++ qs) = tagsOf ps ++ tagsOf qs :=
  List.filterMap_append

theorem literalsOf_append (ps qs : List Piece) :
    literalsOf (ps ++ qs) = literalsOf ps ++ literalsOf qs := List.filterMap_append

/-- the values of the attributes in a piece, as they are written -/
def Piece.values : Piece → List Wording
  | .tag t => t.attributes.map (·.2)
  | .literal _ => []

theorem literalsOf_flatMap {α : Type} (f : α → List Piece) (xs : List α) :
    literalsOf (xs.flatMap f) = xs.flatMap fun x => literalsOf (f x) := List.filterMap_flatMap

theorem mem_values {ps : List Piece} {v : Wording} :
    v ∈ ps.flatMap Piece.values ↔ ∃ t ∈ tagsOf ps, ∃ a ∈ t.attributes, a.2 = v := by
  simp only [List.mem_flatMap, tagsOf, List.mem_filterMap]
  constructor
  · rintro ⟨_ | s, hp, hv⟩
    · next t =>
      obtain ⟨a, ha, rfl⟩ := List.mem_map.mp hv
      exact ⟨t, ⟨_, hp, rfl⟩, a, ha, rfl⟩
    · exact absurd hv List.not_mem_nil
  · rintro ⟨t, ⟨_ | s, hp, ht⟩, a, ha, rfl⟩
    · cases ht
      exact ⟨_, hp, List.mem_map_of_mem ha⟩
    · cases ht

/-- what is left of a piece without all text in it -/
def Piece.skeleton : Piece → Piece
  | .tag t => .tag { t with attributes := t.attributes.map fun a => (a.1, []) }
  | .literal _ => .literal []

/-- a text that can be read, and is no tag -/
def Tagless (text : Code → Option Mode) (s : Wording) : Prop :=
  ∃ ps, read text s = some ps ∧ tagsOf ps = []

theorem Tagless.walk {text : Code → Option Mode} {s : Wording} (h : Tagless text s) :
    Mode.walk text .between s = some ((read text s).getD [], .between) := by
  obtain ⟨ps, hread, -⟩ := h
  rw [hread, Option.getD_some]
  unfold read at hread
  split at hread
  · next qs hqs => rw [hqs, Option.some.inj hread]
  · simp at hread

/-- Nothing is a tag where none starts. -/
theorem read_bare {s : Wording} (h : char '<' ∉ s) : read Mode.bare s = some [] := by
  have stays : Mode.walk Mode.bare .between s = some ([], .between) :=
    Mode.walk_gather (M := fun _ => .between)
      (fun c hc _ => by simp [Mode.step, Mode.bare, ne_of_mem_of_not_mem hc h]) []
  rw [read, stays]

theorem tagless_bare {s : Wording} (h : char '<' ∉ s) : Tagless Mode.bare s := ⟨[], read_bare h, rfl⟩

/-- Behind a dollar sign only an opening brace counts. -/
theorem Mode.walk_dollar {text : Code → Option Mode} (acc : Wording) {s : Wording}
    (h : s.head? ≠ some (char '\x7b')) :
    walk text (.dollar acc) (s ++ [char '\x60', char '\x7d']) =
      walk text (.literal acc) (s ++ [char '\x60', char '\x7d']) := by
  cases s with
  | nil => rfl
  | cons c s =>
    have hc : c ≠ char '\x7b' := fun hc => h (by rw [hc, List.head?_cons])
    simp [walk, step, hc]

/-- What is enclosed is read up to the end, and no farther. -/
theorem Mode.walk_enclosed {text : Code → Option Mode} {s : Wording} (h : Escape.Enclosed s)
    (acc : Wording) :
    walk text (.literal acc) (s ++ [char '\x60', char '\x7d']) =
      some ([.literal (acc ++ s)], .between) := by
  -- along the marks: two characters at a time behind a backslash, so that no hidden one is looked at
  fun_induction Escape.marked s generalizing acc with
  | case1 c s ih =>
    have rest := ih (h.of_cons rfl) (acc ++ [char '\\', c])
    have backslash : step text (.literal acc) (char '\\') = some ([], .hidden (acc ++ [char '\\'])) :=
      rfl
    have hides : step text (.hidden (acc ++ [char '\\'])) c =
        some ([], .literal (acc ++ [char '\\', c])) := by
      simp [step]
    simpa using walk_cons backslash (walk_cons hides rest)
  | case2 c s hne ih =>
    have split : Escape.marked (c :: s) = (c, false) :: Escape.marked s := Escape.marked.eq_2 c s hne
    have rest := ih (h.of_cons split) (acc ++ [c])
    have tick : c ≠ char '\x60' := by rintro rfl; exact h.ticks (by simp [split])
    have backslash : c ≠ char '\\' := by rintro rfl; exact h.whole (by simp [split])
    by_cases hc : c = char '$'
    · have goes_on : s.head? ≠ some (char '\x7b') := by
        intro hs
        obtain ⟨t, rfl⟩ := List.head?_eq_some_iff.mp hs
        have dollars := h.dollars
        rw [split, hc, Escape.marked_cons (by decide)] at dollars
        exact (List.isChain_cons_cons.mp dollars).1 rfl rfl
      have here : step text (.literal acc) c = some ([], .dollar (acc ++ [c])) := by
        simp [step, inLiteral, hc]
      rw [← walk_dollar _ goes_on] at rest
      simpa using walk_cons here rest
    · have here : step text (.literal acc) c = some ([], .literal (acc ++ [c])) := by
        simp [step, inLiteral, hc, tick, backslash]
      simpa using walk_cons here rest
  | case3 => simp [walk, step, inLiteral]

theorem read_inBraces {s : Wording} (h : Escape.Enclosed s) :
    read Mode.inBraces (char '\x7b' :: char '\x60' :: s ++ [char '\x60', char '\x7d']) =
      some [.literal s] := by
  have brace : Mode.step Mode.inBraces .between (char '\x7b') = some ([], .braced) := rfl
  have tick : Mode.step Mode.inBraces .braced (char '\x60') = some ([], .literal []) := rfl
  have whole := Mode.walk_cons brace (Mode.walk_cons tick (Mode.walk_enclosed h []))
  rw [read, List.cons_append, List.cons_append, whole]
  rfl

theorem tagless_inBraces {s : Wording} (h : Escape.Enclosed s) :
    Tagless Mode.inBraces (char '\x7b' :: char '\x60' :: s ++ [char '\x60', char '\x7d']) :=
  ⟨[.literal s], read_inBraces h, rfl⟩

mutual

/-- the tags of a tree -/
def tags : Markup → List Tag
  | .text _ => []
  | .element n as cs => opening n as :: tagsAll cs ++ [closing n]

def tagsAll : List Markup → List Tag
  | [] => []
  | m :: ms => tags m ++ tagsAll ms

end

mutual

theorem nested_tags : (m : Markup) → Nested m.tags
  | .text _ => .nil
  | .element n as cs => .element (codes n) (written as) (nested_tagsAll cs) .nil

theorem nested_tagsAll : (ms : List Markup) → Nested (tagsAll ms)
  | [] => .nil
  | m :: ms => (nested_tags m).append (nested_tagsAll ms)

end

mutual

/-- the text of a tree -/
def texts : Markup → Wording
  | .text s => s
  | .element _ _ cs => textsAll cs

def textsAll : List Markup → Wording
  | [] => []
  | m :: ms => texts m ++ textsAll ms

end

theorem piecesAll_eq (text : Code → Option Mode) (ms : List Markup) :
    piecesAll text ms = ms.flatMap (pieces text) := by
  induction ms with
  | nil => rfl
  | cons m ms ih => rw [piecesAll, ih, List.flatMap_cons]

theorem textsAll_eq (ms : List Markup) : textsAll ms = ms.flatMap texts := by
  induction ms with
  | nil => rfl
  | cons m ms ih => rw [textsAll, ih, List.flatMap_cons]

theorem cleanAll_iff {ok : Wording → Prop} {ms : List Markup} :
    CleanAll ok ms ↔ ∀ m ∈ ms, m.Clean ok := by
  induction ms with
  | nil => simp [CleanAll]
  | cons m ms ih => rw [CleanAll, ih, List.forall_mem_cons]

section

variable {ok : Wording → Prop}

mutual

theorem sealed_tags : (m : Markup) → m.Clean ok → ∀ t ∈ m.tags, ∀ a ∈ t.attributes, Escape.Sealed a.2
  | .text _, _ => fun t ht => absurd ht List.not_mem_nil
  | .element n as cs, ⟨_, has, hcs⟩ => by
    intro t ht a ha
    rcases List.mem_append.mp ht with ht | ht
    · rcases List.mem_cons.mp ht with rfl | ht
      · obtain ⟨b, hb, rfl⟩ := List.mem_map.mp ha
        exact (has b hb).2
      · exact sealed_tagsAll cs hcs t ht a ha
    · rw [List.mem_singleton.mp ht] at ha
      exact absurd ha List.not_mem_nil

theorem sealed_tagsAll : (ms : List Markup) → CleanAll ok ms →
    ∀ t ∈ tagsAll ms, ∀ a ∈ t.attributes, Escape.Sealed a.2
  | [], _ => fun t ht => absurd ht List.not_mem_nil
  | m :: ms, h => by
    intro t ht
    rcases List.mem_append.mp ht with ht | ht
    · exact sealed_tags m h.1 t ht
    · exact sealed_tagsAll ms h.2 t ht

end
end

section

variable {text : Code → Option Mode}

mutual

theorem tagsOf_pieces : (m : Markup) → m.Clean (Tagless text) → tagsOf (m.pieces text) = m.tags
  | .text s, ⟨ps, hread, hps⟩ => by rw [pieces, hread, Option.getD_some, hps, tags]
  | .element n as cs, h => by
    rw [pieces, tags, tagsOf_append, ← tagsOf_piecesAll cs h.2.2]
    rfl

theorem tagsOf_piecesAll : (ms : List Markup) → CleanAll (Tagless text) ms →
    tagsOf (piecesAll text ms) = tagsAll ms
  | [], _ => rfl
  | m :: ms, h => by
    rw [piecesAll, tagsAll, tagsOf_append, tagsOf_pieces m h.1, tagsOf_piecesAll ms h.2]

end

mutual

/-- The tags of a tree, and what is in its texts, are read from its printed form. -/
theorem walk_print : (m : Markup) → m.Clean (Tagless text) →
    Mode.walk text .between m.print = some (m.pieces text, .between)
  | .text _, h => Tagless.walk h
  | .element n as cs, h => by
    obtain ⟨hn, has, hcs⟩ := h
    -- behind the name and all attributes, only the end of the tag is left to read
    have behind : Mode.Behind text (opening n []) (.name (opening n [])) := Mode.behind_name _
    obtain ⟨m, hm, attributes⟩ := Mode.walk_attributes behind fun a ha =>
      ⟨(has a ha).1, (has a ha).2.2.2⟩
    have start : Mode.step text m (char '>') = some ([.tag (opening n as)], .between) := hm '>' rfl
    have inside := Mode.walk_cons start (walk_printAll cs hcs)
    have whole := Mode.walk_append (Mode.walk_append (Mode.walk_append (Mode.walk_opened hn) attributes)
      inside) (Mode.walk_closing hn)
    simpa [print, pieces] using whole

theorem walk_printAll : (ms : List Markup) → CleanAll (Tagless text) ms →
    Mode.walk text .between (printAll ms) = some (piecesAll text ms, .between)
  | [], _ => rfl
  | m :: ms, h => Mode.walk_append (walk_print m h.1) (walk_printAll ms h.2)

end

theorem read_printAll {ms : List Markup} (h : CleanAll (Tagless text) ms) :
    read text (printAll ms) = some (piecesAll text ms) := by
  rw [read, walk_printAll ms h]

end

/-- all that is not between the start of a tag and its end -/
def untag (inside : Bool) : Wording → Wording
  | [] => []
  | c :: s =>
    if inside then untag (c != char '>') s
    else if c = char '<' then untag true s
    else c :: untag false s

theorem untag_text {s : Wording} (h : char '<' ∉ s) (t : Wording) :
    untag false (s ++ t) = s ++ untag false t := by
  induction s with
  | nil => rfl
  | cons c s ih =>
    rw [List.mem_cons, not_or] at h
    simp [untag, Ne.symm h.1, ih h.2]

theorem untag_tag {s : Wording} (h : char '>' ∉ s) (t : Wording) :
    untag false (char '<' :: s ++ char '>' :: t) = untag false t := by
  have inside : untag true (s ++ char '>' :: t) = untag false t := by
    induction s with
    | nil => rfl
    | cons c s ih =>
      rw [List.mem_cons, not_or] at h
      have other : (c != char '>') = true := by simpa using Ne.symm h.1
      rw [List.cons_append, untag, if_pos rfl, other, ih h.2]
  exact inside

theorem Word.no_end {s : String} (h : Word s) : char '>' ∉ codes s :=
  fun hc => absurd (h.2 (char '>') hc) (by decide)

theorem no_end_attributes {as : List (String × Wording)}
    (h : ∀ a ∈ as, Word a.1 ∧ Escape.Sealed a.2) : char '>' ∉ as.flatMap printAttribute := by
  intro hc
  obtain ⟨a, ha, hc⟩ := List.mem_flatMap.mp hc
  simp [printAttribute, (h a ha).1.no_end, (h a ha).2.2.1] at hc

mutual

/-- Without its tags, the printed form is the text of the tree. -/
theorem untag_print : (m : Markup) → m.Clean (fun s => char '<' ∉ s) → ∀ t,
    untag false (m.print ++ t) = m.texts ++ untag false t
  | .text _, h => untag_text h
  | .element n as cs, h => by
    intro t
    obtain ⟨hn, has, hcs⟩ := h
    have start : char '>' ∉ codes n ++ as.flatMap printAttribute :=
      List.not_mem_append hn.no_end (no_end_attributes has)
    have stop : char '>' ∉ char '/' :: codes n := by simpa using hn.no_end
    have split : print (.element n as cs) ++ t =
        char '<' :: (codes n ++ as.flatMap printAttribute) ++ char '>' ::
          (printAll cs ++ (char '<' :: (char '/' :: codes n) ++ char '>' :: t)) := by simp [print]
    rw [split, untag_tag start, untag_printAll cs hcs, untag_tag stop, texts]

theorem untag_printAll : (ms : List Markup) → CleanAll (fun s => char '<' ∉ s) ms → ∀ t,
    untag false (printAll ms ++ t) = textsAll ms ++ untag false t
  | [], _ => fun _ => rfl
  | m :: ms, h => by
    intro t
    rw [printAll, textsAll, List.append_assoc, untag_print m h.1, untag_printAll ms h.2,
      List.append_assoc]

end

end Literate.Markup
