import Literate.Proofs.Script.Grammar.Pattern
import Literate.Script.Grammar.Statement

/-! What the grammar of statements keeps, and with it that of a whole script: each use in the outline
stands where a name stands among the terminals, and each definition starts where its first word
stands. -/

namespace Literate.Script

/-- The terminals start with the words in front of the definition's name and with that name. -/
inductive Definition.Heads (d : Definition) : List Terminal → Prop where
  | plain {t u : Terminal} {rest : List Terminal} : t.isWord "def" ∨ t.isWord "class" →
    u.kind = .name → d.name = String.ofList (Text.normalize u.text.toList) → d.start = t.start →
    d.Heads (t :: u :: rest)
  | async {a t u : Terminal} {rest : List Terminal} : a.isWord "async" → t.isWord "def" →
    u.kind = .name → d.name = String.ofList (Text.normalize u.text.toList) → d.start = a.start →
    d.Heads (a :: t :: u :: rest)

def Statement.All (Good : Landmark → Prop) (s : Statement) : Prop := s.outline.All Good

namespace Grammar

open Parse

/-- The words in front of a definition make it good too. -/
structure Tracks (Ok : Bool → Supply) (Good : Landmark → Prop) : Prop extends Grades Ok Good where
  define : ∀ {ts d}, (Ok false).Holds ts → d.Heads ts → Good (.definition d)

variable {Ok : Bool → Supply} {Good : Landmark → Prop} {sub : Rules} {inner : Block} {P : Supply}
  {depth : Nat}

/-- what all statements of a block have in common -/
abbrev Statements (Good : Landmark → Prop) (ss : List Statement) : Prop := ∀ s ∈ ss, s.All Good

theorem all_optional {e : Option Expr} (h : ∀ x ∈ e, x.All Good) : ∀ o ∈ optional e, o.All Good :=
  forall_outlineOf.mpr h

theorem all_made {os : List Outline} (h : ∀ o ∈ os, o.All Good) : (made os).All Good :=
  Outline.all_plain.mpr h

/-! Simple statements. -/

theorem Sound.assignment (h : Sound Ok Good sub) :
    Keeps (Ok false) (assignment sub) (Statement.All Good) := by
  refine h.loose.bind fun first hfirst => Keeps.branch (Keeps.accept ":") ?_ ?_
  · refine (Keeps.lift fun x hx => hfirst.single hx).bind fun left hleft => ?_
    refine (h false .expression).bind fun note hnote => ?_
    exact Keeps.optional (Keeps.accept "=") h.yieldOrLoose fun value hvalue => Keeps.pure
      (all_made (List.forall_mem_cons.mpr ⟨hleft, List.forall_mem_cons.mpr
        ⟨hnote, all_optional hvalue⟩⟩))
  refine Keeps.branch (Keeps.acceptAny _) ?_ ?_
  · refine (Keeps.lift fun x hx => hfirst.single hx).bind fun left hleft => ?_
    exact h.yieldOrLoose.bind fun value hvalue => Keeps.pure
      (all_made (List.forall_mem_cons.mpr ⟨hleft, List.forall_mem_singleton.mpr hvalue⟩))
  · refine (keeps_behind (Keeps.accept "=") h.yieldOrLoose
      (List.forall_mem_singleton.mpr hfirst)).bind fun es hes => ?_
    split
    · exact Keeps.pure (all_singleton hfirst)
    · exact Keeps.pure (all_singleton hfirst)
    · obtain ⟨hvalue, hlefts⟩ := List.forall_mem_cons.mp hes
      refine (Keeps.lift fun xs hxs =>
        Expr.All.storedAll (forall_mem_reverse hlefts) hxs).bind fun lefts hlefts => ?_
      exact Keeps.pure (all_made (List.forall_mem_append.mpr
        ⟨forall_outlines.mpr hlefts, List.forall_mem_singleton.mpr hvalue⟩))

theorem Grades.dottedName (g : Grades Ok Good) : Keeps (Ok false) dottedName fun _ => True :=
  g.dotted.bind fun _ _ => Keeps.pure trivial

theorem keeps_renamed : Keeps P renamed fun _ => True :=
  Keeps.branch (Keeps.accept "as") ((Keeps.ofKind .name).bind fun _ _ => Keeps.pure trivial)
    (Keeps.pure trivial)

theorem keeps_importedName : Keeps P importedName fun _ => True :=
  (Keeps.ofKind .name).bind fun _ _ => keeps_renamed

theorem Grades.importFrom (g : Grades Ok Good) : Keeps (Ok false) importFrom fun _ => True := by
  have dots : Keeps (Ok false) (loop (fun n => do
      if ← acceptAny [".", "..."] then return some (n + 1) else return none) 0) fun _ => True :=
    Keeps.loop (fun n _ => Keeps.branch (Keeps.acceptAny _) (Keeps.pure fun _ _ => trivial)
      Keeps.absent) trivial
  have names : Keeps (Ok false) (do
      expect "import"
      if ← accept "*" then return
      else if ← accept "(" then
        let _ ← commas importedName
        expect ")"
      else
        let _ ← strictCommas importedName) fun _ => True := by
    refine (Keeps.expect "import").bind fun _ _ => Keeps.branch (Keeps.accept "*")
      (Keeps.pure trivial) (Keeps.branch (Keeps.accept "(") ?_ ?_)
    · exact (Keeps.commas keeps_importedName).bind fun _ _ => Keeps.expect ")"
    · exact (Keeps.strictCommas keeps_importedName).bind fun _ _ => Keeps.pure trivial
  refine dots.bind fun n _ => (Keeps.ahead _).bind fun now _ => ?_
  dsimp only
  split
  · exact names
  · exact g.dottedName.bind fun _ _ => names

theorem Sound.simple (g : Grades Ok Good) (h : Sound Ok Good sub) :
    Keeps (Ok false) (simple sub) (Statement.All Good) := by
  refine Keeps.branch (Keeps.accept "return") ?_ (Keeps.branch (Keeps.accept "import") ?_
    (Keeps.branch (Keeps.accept "from") ?_ (Keeps.branch (Keeps.accept "raise") ?_ ?_)))
  · exact h.loose.attempt.bind fun e he => Keeps.pure (all_made (all_optional he))
  · refine (Keeps.strictCommas (g.dottedName.bind fun _ _ => keeps_renamed)).bind fun _ _ => ?_
    exact Keeps.pure (all_made (List.forall_mem_nil _))
  · exact g.importFrom.bind fun _ _ => Keeps.pure (all_made (List.forall_mem_nil _))
  · refine (h false .expression).attempt.bind fun e he => ?_
    cases e with
    | none => exact Keeps.pure (all_made (List.forall_mem_nil _))
    | some e =>
      exact Keeps.optional (Keeps.accept "from") (h false .expression) fun cause hcause => Keeps.pure
        (all_made (List.forall_mem_cons.mpr ⟨he e rfl, all_optional hcause⟩))
  refine Keeps.branch (Keeps.acceptAny _) (Keeps.pure (all_made (List.forall_mem_nil _)))
    (Keeps.branch (Keeps.accept "del") ?_ (Keeps.branch (Keeps.accept "yield") ?_
      (Keeps.branch (Keeps.accept "assert") ?_ (Keeps.branch (Keeps.acceptAny _) ?_
        (h.assignment)))))
  · have deleted : Keeps (Ok false) (do lift (← sub .primary).deleted) (Expr.All Good) :=
      (h false .primary).bind fun e he => Keeps.lift fun x hx => he.deleted hx
    exact (Keeps.commas deleted).bind fun r hr => Keeps.pure (all_made (forall_outlines.mpr hr))
  · exact h.yielded.bind fun e he => Keeps.pure (all_singleton he)
  · refine (h false .expression).bind fun test htest => ?_
    exact Keeps.optional (Keeps.accept ",") (h false .expression) fun why hwhy => Keeps.pure
      (all_made (List.forall_mem_cons.mpr ⟨htest, all_optional hwhy⟩))
  · exact (Keeps.strictCommas (Keeps.ofKind .name)).bind fun _ _ =>
      Keeps.pure (all_made (List.forall_mem_nil _))

theorem Sound.simpleLine (g : Grades Ok Good) (h : Sound Ok Good sub) :
    Keeps (Ok false) (simpleLine sub) (Statements Good) :=
  (Keeps.separated ";" (h.simple g)).bind fun _ hr => (Keeps.ofKind .newline).bind fun _ _ =>
    Keeps.pure hr

/-! Blocks and the statements that have some. -/

theorem Sound.block (g : Grades Ok Good) (h : Sound Ok Good sub)
    (hinner : Keeps (Ok false) inner (Statements Good)) :
    Keeps (Ok false) (block sub inner) (Statements Good) := by
  refine (Keeps.ofKind .newline).attempt.bind fun line _ => ?_
  cases line with
  | none => exact h.simpleLine g
  | some _ =>
    exact (Keeps.ofKind .indent).bind fun _ _ => hinner.bind fun ss hss =>
      (Keeps.ofKind .dedent).bind fun _ _ => Keeps.pure hss

theorem Sound.body (g : Grades Ok Good) (h : Sound Ok Good sub)
    (hinner : Keeps (Ok false) inner (Statements Good)) :
    Keeps (Ok false) (body sub inner) fun os => ∀ o ∈ os, o.All Good :=
  (Keeps.expect ":").bind fun _ _ => (h.block g hinner).bind fun _ hss =>
    Keeps.pure (List.forall_mem_map.mpr hss)

theorem Sound.bodyBehind (g : Grades Ok Good) (h : Sound Ok Good sub)
    (hinner : Keeps (Ok false) inner (Statements Good)) (word : String) :
    Keeps (Ok false) (bodyBehind word sub inner) fun os => ∀ o ∈ os, o.All Good :=
  Keeps.branch (Keeps.accept word) (h.body g hinner) (Keeps.pure (List.forall_mem_nil _))

theorem all_nested {branches : List (Expr × List Outline)} {otherwise : List Outline}
    (hbranches : ∀ r ∈ branches, r.1.All Good ∧ ∀ o ∈ r.2, o.All Good)
    (hotherwise : ∀ o ∈ otherwise, o.All Good) :
    ∀ o ∈ ifStatement.nested branches otherwise, o.All Good := by
  fun_induction ifStatement.nested branches otherwise with
  | case1 => exact hotherwise
  | case2 e os =>
    obtain ⟨he, hos⟩ := hbranches _ (List.mem_singleton_self _)
    exact List.forall_mem_cons.mpr ⟨he, List.forall_mem_append.mpr ⟨hos, hotherwise⟩⟩
  | case3 otherwise e os rest _ ih =>
    obtain ⟨⟨he, hos⟩, hrest⟩ := List.forall_mem_cons.mp hbranches
    exact List.forall_mem_cons.mpr ⟨he, List.forall_mem_append.mpr
      ⟨hos, List.forall_mem_singleton.mpr (Outline.all_plain.mpr (ih hrest hotherwise))⟩⟩

theorem Sound.ifStatement (g : Grades Ok Good) (h : Sound Ok Good sub)
    (hinner : Keeps (Ok false) inner (Statements Good)) :
    Keeps (Ok false) (ifStatement sub inner) (Statement.All Good) := by
  have branch : Keeps (Ok false) (do return (← Grammar.named sub, ← Grammar.body sub inner))
      fun r => r.1.All Good ∧ ∀ o ∈ r.2, o.All Good :=
    (h.named g).bind fun e he => (h.body g hinner).bind fun os hos => Keeps.pure ⟨he, hos⟩
  refine branch.bind fun first hfirst => (keeps_behind (Keeps.accept "elif") branch
    (List.forall_mem_singleton.mpr hfirst)).bind fun branches hbranches => ?_
  exact (h.bodyBehind g hinner "else").bind fun os hos => Keeps.pure
    (all_made (all_nested (forall_mem_reverse hbranches) hos))

theorem Sound.whileStatement (g : Grades Ok Good) (h : Sound Ok Good sub)
    (hinner : Keeps (Ok false) inner (Statements Good)) :
    Keeps (Ok false) (whileStatement sub inner) (Statement.All Good) :=
  (h.named g).bind fun _ htest => (h.body g hinner).bind fun _ hos =>
    (h.bodyBehind g hinner "else").bind fun _ hmore => Keeps.pure (all_made
      (List.forall_mem_cons.mpr ⟨htest, List.forall_mem_append.mpr ⟨hos, hmore⟩⟩))

theorem Sound.forStatement (g : Grades Ok Good) (h : Sound Ok Good sub)
    (hinner : Keeps (Ok false) inner (Statements Good)) :
    Keeps (Ok false) (forStatement sub inner) (Statement.All Good) :=
  h.targets.bind fun _ hleft => (Keeps.expect "in").bind fun _ _ => h.loose.bind fun _ hsource =>
    (h.body g hinner).bind fun _ hos => (h.bodyBehind g hinner "else").bind fun _ hmore =>
      Keeps.pure (all_made (List.forall_mem_cons.mpr ⟨hleft, List.forall_mem_cons.mpr
        ⟨hsource, List.forall_mem_append.mpr ⟨hos, hmore⟩⟩⟩))

theorem Sound.withItem (h : Sound Ok Good sub) :
    Keeps (Ok false) (withItem sub) (Outline.All Good) :=
  (h false .expression).bind fun _ he => Keeps.optional (Keeps.accept "as") h.target
    fun _ hleft => Keeps.pure (Outline.all_plain.mpr
      (List.forall_mem_cons.mpr ⟨he, all_optional hleft⟩))

theorem Sound.withStatement (g : Grades Ok Good) (h : Sound Ok Good sub)
    (hinner : Keeps (Ok false) inner (Statements Good)) :
    Keeps (Ok false) (withStatement sub inner) (Statement.All Good) := by
  have bracketed : Keeps (Ok false) (do
      expect "("
      let r ← commas (Grammar.withItem sub)
      expect ")"
      if ← ahead [":"] then return r.1 else failure) fun os => ∀ o ∈ os, o.All Good :=
    (Keeps.expect "(").bind fun _ _ => (Keeps.commas h.withItem).bind fun r hr =>
      (Keeps.expect ")").bind fun _ _ => Keeps.branch (Keeps.ahead _) (Keeps.pure hr) Leads.failure
  have close {items : List Outline} (hitems : ∀ o ∈ items, o.All Good) : Keeps (Ok false)
      (do return made (items ++ (← Grammar.body sub inner))) (Statement.All Good) :=
    (h.body g hinner).bind fun os hos => Keeps.pure
      (all_made (List.forall_mem_append.mpr ⟨hitems, hos⟩))
  refine bracketed.attempt.bind fun items hitems => ?_
  cases items with
  | some os => exact close (hitems os rfl)
  | none => exact (Keeps.strictCommas h.withItem).bind fun os hos => close hos

theorem Sound.handlers (g : Grades Ok Good) (h : Sound Ok Good sub)
    (hinner : Keeps (Ok false) inner (Statements Good)) (starred : Bool) :
    Keeps (Ok false) (handlers starred sub inner) fun os => ∀ o ∈ os, o.All Good := by
  -- what is done once the word `except` and its star are taken
  have handler {acc : List Outline} (hacc : ∀ o ∈ acc, o.All Good) : Keeps (Ok false) (do
      let kind ← if !starred && (← ahead [":"]) then pure none else some <$> sub .expression
      if kind.isSome then renamed
      return some (.plain (optional kind ++ (← Grammar.body sub inner)) :: acc))
      fun os => ∀ x ∈ os, ∀ o ∈ x, o.All Good := by
    have close {kind : Option Expr} (hkind : ∀ x ∈ kind, x.All Good) : Keeps (Ok false)
        (do return some (.plain (optional kind ++ (← Grammar.body sub inner)) :: acc))
        fun os => ∀ x ∈ os, ∀ o ∈ x, o.All Good := by
      refine (h.body g hinner).bind fun os hos => Keeps.pure ?_
      rintro _ ⟨⟩
      exact List.forall_mem_cons.mpr ⟨Outline.all_plain.mpr
        (List.forall_mem_append.mpr ⟨all_optional hkind, hos⟩), hacc⟩
    refine (Keeps.ahead _).bind fun colon _ => ?_
    dsimp only
    split
    · exact close fun x hx => absurd hx (Option.not_mem_none x)
    · refine (h false .expression).present.bind fun kind hkind => ?_
      split
      · exact keeps_renamed.bind fun _ _ => close hkind
      · exact close hkind
  have step {acc : List Outline} (hacc : ∀ o ∈ acc, o.All Good) : Keeps (Ok false) (do
      if ← ahead (if starred then ["except", "*"] else ["except"]) then
        expect "except"
        if starred then expect "*"
        let kind ← if !starred && (← ahead [":"]) then pure none else some <$> sub .expression
        if kind.isSome then renamed
        return some (.plain (optional kind ++ (← Grammar.body sub inner)) :: acc)
      else return none) fun os => ∀ x ∈ os, ∀ o ∈ x, o.All Good := by
    refine Keeps.branch (Keeps.ahead _) ((Keeps.expect "except").bind fun _ _ => ?_) Keeps.absent
    dsimp only
    split
    · exact (Keeps.expect "*").bind fun _ _ => handler hacc
    · exact handler hacc
  exact (Keeps.loop (fun acc hacc => step hacc) (List.forall_mem_nil _)).bind fun os hos =>
    Keeps.pure (forall_mem_reverse hos)

theorem Sound.tryStatement (g : Grades Ok Good) (h : Sound Ok Good sub)
    (hinner : Keeps (Ok false) inner (Statements Good)) :
    Keeps (Ok false) (tryStatement sub inner) (Statement.All Good) := by
  refine (h.body g hinner).bind fun os hos => (Keeps.ahead _).bind fun starred _ => ?_
  refine (h.handlers g hinner starred).bind fun hs hhs => ?_
  have close {otherwise : List Outline} (hotherwise : ∀ o ∈ otherwise, o.All Good) :
      Keeps (Ok false) (do
        let final ← Grammar.bodyBehind "finally" sub inner
        if hs.isEmpty && final.isEmpty then failure
        return made (os ++ hs ++ otherwise ++ final)) (Statement.All Good) := by
    refine (h.bodyBehind g hinner "finally").bind fun final hfinal => ?_
    dsimp only
    split
    · exact Leads.failure_bind
    · refine Keeps.pure (all_made ?_)
      simp only [List.forall_mem_append]
      exact ⟨⟨⟨hos, hhs⟩, hotherwise⟩, hfinal⟩
  dsimp only
  split
  · exact close (List.forall_mem_nil _)
  · exact (h.bodyBehind g hinner "else").bind fun more hmore => close hmore

/-! Definitions. -/

/-- The first of the terminals is the name of good definitions that start at this place. -/
def Named (Good : Landmark → Prop) (P : Supply) (start : Point) (ts : List Terminal) : Prop :=
  P.Holds ts ∧ ∀ u rest, ts = u :: rest → u.kind = .name → ∀ d : Definition,
    d.name = String.ofList (Text.normalize u.text.toList) → d.start = start → Good (.definition d)

theorem leads_identifier {start : Point} : Leads (Named Good P start) identifier
    (fun name => ∀ d : Definition, d.name = name → d.start = start → Good (.definition d)) P.Holds := by
  rintro ts name rest ⟨hts, good⟩ heq
  obtain ⟨⟨u, more⟩, hu, heq⟩ := Option.bind_eq_some_iff.mp heq
  cases heq
  unfold Parse.ofKind at hu
  split at hu
  · split at hu
    · next kind =>
      cases hu
      exact ⟨good _ _ rfl kind, P.tail hts⟩
    · cases hu
  · cases hu

theorem all_defined {d : Definition} {os : List Outline} (hd : Good (.definition d))
    (hos : ∀ o ∈ os, o.All Good) : (defined d os).All Good :=
  Outline.all_node.mpr ⟨fun _ => hd, hos⟩

theorem Sound.functionDefinition (g : Grades Ok Good) (h : Sound Ok Good sub)
    (hinner : Keeps (Ok false) inner (Statements Good)) {start : Point} {isAsync : Bool}
    {decorators : List Expr} (hdecorators : ∀ e ∈ decorators, e.All Good) :
    Leads (Named Good (Ok false) start) (functionDefinition sub inner start isAsync decorators)
      (Statement.All Good) (Ok false).Holds := by
  refine leads_identifier.bind fun name good => (Keeps.expect "(").bind fun _ _ => ?_
  have note : Keeps (Ok false) (do
      if ← accept ":" then some <$> sub .expression else return none) fun e => ∀ x ∈ e, x.All Good :=
    Keeps.branch (Keeps.accept ":") (h false .expression).present Keeps.absent
  have wide : Keeps (Ok false) (do
      if ← accept ":" then some <$> Grammar.looseItem sub else return none)
      fun e => ∀ x ∈ e, x.All Good :=
    Keeps.branch (Keeps.accept ":") h.looseItem.present Keeps.absent
  refine (h.params note wide ")").bind fun ps hps => (Keeps.expect ")").bind fun _ _ => ?_
  refine Keeps.optional (Keeps.accept "->") (h false .expression) fun result hresult => ?_
  refine (Keeps.expect ":").bind fun _ _ => (h.block g hinner).bind fun ss hss => Keeps.pure ?_
  refine all_defined (good _ rfl rfl) ?_
  simp only [List.forall_mem_append, List.forall_mem_cons]
  exact ⟨⟨⟨Params.all_outline hps, List.forall_mem_map.mpr hss⟩, forall_outlines.mpr hdecorators⟩,
    all_optional hresult⟩

theorem Sound.classDefinition (g : Grades Ok Good) (h : Sound Ok Good sub)
    (hinner : Keeps (Ok false) inner (Statements Good)) {start : Point} {decorators : List Expr}
    (hdecorators : ∀ e ∈ decorators, e.All Good) :
    Leads (Named Good (Ok false) start) (classDefinition sub inner start decorators)
      (Statement.All Good) (Ok false).Holds := by
  refine leads_identifier.bind fun name good => ?_
  refine Keeps.choose (Keeps.accept "(") (h.arguments g) (Keeps.pure passed_nil)
    fun passed ⟨hbases, hkeywords⟩ => ?_
  refine (Keeps.expect ":").bind fun _ _ => (h.block g hinner).bind fun ss hss => Keeps.pure ?_
  refine all_defined (good _ rfl rfl) ?_
  simp only [List.forall_mem_append]
  exact ⟨⟨⟨forall_outlines.mpr hbases, forall_keywordOutlines.mpr hkeywords⟩,
    List.forall_mem_map.mpr hss⟩, forall_outlines.mpr hdecorators⟩

/-- Where the word is in front it is taken. -/
theorem placeOf_eq_some {word : String} {ts rest : List Terminal} {p : Option Point}
    (h : placeOf word ts = some (p, rest)) :
    (p = none ∧ rest = ts) ∨ ∃ t, t.isWord word ∧ p = some t.start ∧ ts = t :: rest := by
  unfold placeOf at h
  split at h
  · next t more =>
    split at h
    · next here =>
      cases h
      exact .inr ⟨t, here, rfl, rfl⟩
    · cases h
      exact .inl ⟨rfl, rfl⟩
  · cases h
    exact .inl ⟨rfl, rfl⟩

theorem Tracks.named_plain (tr : Tracks Ok Good) {t : Terminal} {ts : List Terminal}
    (word : t.isWord "def" ∨ t.isWord "class") (hts : (Ok false).Holds (t :: ts)) :
    Named Good (Ok false) t.start ts := by
  refine ⟨(Ok false).tail hts, ?_⟩
  rintro u rest rfl kind d name start
  exact tr.define hts (.plain word kind name start)

theorem Tracks.named_async (tr : Tracks Ok Good) {a t : Terminal} {ts : List Terminal}
    (first : a.isWord "async") (second : t.isWord "def") (hts : (Ok false).Holds (a :: t :: ts)) :
    Named Good (Ok false) a.start ts := by
  refine ⟨(Ok false).tail ((Ok false).tail hts), ?_⟩
  rintro u rest rfl kind d name start
  exact tr.define hts (.async first second kind name start)

theorem expect_eq_some {word : String} {ts rest : List Terminal} {u : Unit}
    (h : expect word ts = some (u, rest)) : ∃ t, t.isWord word ∧ ts = t :: rest := by
  obtain ⟨⟨taken, more⟩, htaken, hmore⟩ := Option.bind_eq_some_iff.mp h
  unfold Parse.accept at htaken
  split at htaken
  · next t behind =>
    split at htaken
    · next here =>
      cases htaken
      cases hmore
      exact ⟨t, here, rfl⟩
    · cases htaken
      cases hmore
  · cases htaken
    cases hmore

theorem Sound.definition (tr : Tracks Ok Good) (h : Sound Ok Good sub)
    (hinner : Keeps (Ok false) inner (Statements Good)) {decorators : List Expr}
    (hdecorators : ∀ e ∈ decorators, e.All Good) :
    Keeps (Ok false) (definition sub inner decorators) (Statement.All Good) := by
  intro ts s rest hts heq
  obtain ⟨⟨p, more⟩, hp, hmore⟩ := Option.bind_eq_some_iff.mp heq
  obtain ⟨rfl, rfl⟩ | ⟨t, word, rfl, rfl⟩ := placeOf_eq_some hp
  · obtain ⟨⟨q, last⟩, hq, hlast⟩ := Option.bind_eq_some_iff.mp hmore
    obtain ⟨rfl, rfl⟩ | ⟨t, word, rfl, rfl⟩ := placeOf_eq_some hq
    · obtain ⟨⟨r, behind⟩, hr, hbehind⟩ := Option.bind_eq_some_iff.mp hlast
      obtain ⟨rfl, rfl⟩ | ⟨a, first, rfl, rfl⟩ := placeOf_eq_some hr
      · cases hbehind
      · obtain ⟨⟨_, word⟩, hword, hend⟩ := Option.bind_eq_some_iff.mp hbehind
        obtain ⟨t, second, rfl⟩ := expect_eq_some hword
        exact h.functionDefinition tr.toGrades hinner hdecorators _ _ _
          (tr.named_async first second hts) hend
    · exact h.classDefinition tr.toGrades hinner hdecorators _ _ _
        (tr.named_plain (.inr word) hts) hlast
  · exact h.functionDefinition tr.toGrades hinner hdecorators _ _ _
      (tr.named_plain (.inl word) hts) hmore

theorem Sound.decorator (g : Grades Ok Good) (h : Sound Ok Good sub) :
    Keeps (Ok false) (decorator sub) (Expr.All Good) :=
  (Keeps.expect "@").bind fun _ _ => (h.named g).bind fun _ he => (Keeps.ofKind .newline).bind
    fun _ _ => Keeps.pure he

theorem keeps_softWord (word : String) : Keeps P (softWord word) fun _ => True := by
  refine (Keeps.ofKind .name).bind fun t _ => ?_
  split
  · exact Keeps.pure trivial
  · exact Leads.failure

theorem Sound.caseBlock (g : Grades Ok Good) (h : Sound Ok Good sub)
    (hinner : Keeps (Ok false) inner (Statements Good)) :
    Keeps (Ok false) (caseBlock sub depth inner) (Outline.All Good) := by
  refine (keeps_softWord "case").bind fun _ _ => ?_
  refine (keeps_casePattern (h.patternTo g depth)).bind fun p hp => ?_
  refine Keeps.optional (Keeps.accept "if") (h.named g) fun guard hguard => ?_
  refine (h.body g hinner).bind fun os hos => Keeps.pure (Outline.all_plain.mpr ?_)
  simp only [List.forall_mem_append, List.forall_mem_cons]
  exact ⟨⟨hp, all_optional hguard⟩, hos⟩

theorem Sound.matchHead (g : Grades Ok Good) (h : Sound Ok Good sub) :
    Keeps (Ok false) (matchHead sub) (Expr.All Good) := by
  have close {subject : Expr} (hsubject : subject.All Good) : Keeps (Ok false) (do
      expect ":"
      let _ ← ofKind .newline
      let _ ← ofKind .indent
      return subject) (Expr.All Good) :=
    (Keeps.expect ":").bind fun _ _ => (Keeps.ofKind .newline).bind fun _ _ =>
      (Keeps.ofKind .indent).bind fun _ _ => Keeps.pure hsubject
  refine (keeps_softWord "match").bind fun _ _ => (Keeps.commas (h.item g)).bind fun r hr => ?_
  dsimp only
  split
  · split
    · exact Leads.failure_bind
    · exact close (hr _ (List.mem_singleton_self _))
  · exact close (Expr.all_tuple.mpr hr)

theorem Sound.matchStatement (g : Grades Ok Good) (h : Sound Ok Good sub)
    (hinner : Keeps (Ok false) inner (Statements Good)) {subject : Expr}
    (hsubject : subject.All Good) :
    Keeps (Ok false) (matchStatement sub depth inner subject) (Statement.All Good) :=
  (h.caseBlock g hinner).bind fun _ hfirst => (Keeps.many (h.caseBlock g hinner)).bind fun _ hrest =>
    (Keeps.ofKind .dedent).bind fun _ _ => Keeps.pure (all_made
      (List.forall_mem_cons.mpr ⟨hsubject, List.forall_mem_cons.mpr ⟨hfirst, hrest⟩⟩))

theorem Keeps.one {p : Parse Statement} (h : Keeps P p (Statement.All Good)) :
    Keeps P (do return [← p]) (Statements Good) :=
  h.bind fun _ hs => Keeps.pure (List.forall_mem_singleton.mpr hs)

theorem Sound.statement (tr : Tracks Ok Good) (h : Sound Ok Good sub) (depth : Nat)
    (hinner : Keeps (Ok false) inner (Statements Good)) :
    Keeps (Ok false) (statement sub depth inner) (Statements Good) := by
  have g := tr.toGrades
  refine Keeps.branch (Keeps.accept "if") (Keeps.one (h.ifStatement g hinner)) ?_
  refine (Keeps.ahead _).bind fun _ _ => (Keeps.ahead _).bind fun _ _ => (Keeps.ahead _).bind fun _ _ => ?_
  split
  · exact Keeps.one (h.definition tr hinner (List.forall_mem_nil _))
  refine Keeps.branch (Keeps.ahead _) ?_ (Keeps.branch (Keeps.accept "while")
    (Keeps.one (h.whileStatement g hinner)) (Keeps.branch (Keeps.accept "try")
      (Keeps.one (h.tryStatement g hinner)) ?_))
  · exact (Keeps.many (h.decorator g)).bind fun ds hds => Keeps.one (h.definition tr hinner hds)
  refine (Keeps.ahead _).bind fun _ _ => (Keeps.ahead _).bind fun _ _ => ?_
  dsimp only
  split
  -- the others are read in one way, behind `async` or without it
  on_goal 1 => refine (Keeps.accept "async").bind fun _ _ => ?_
  all_goals
    refine Keeps.branch (Keeps.accept "for") (Keeps.one (h.forStatement g hinner))
      (Keeps.branch (Keeps.accept "with") (Keeps.one (h.withStatement g hinner)) ?_)
    refine (h.matchHead g).attempt.bind fun subject hsubject => ?_
    cases subject with
    | some subject => exact Keeps.one (h.matchStatement g hinner (hsubject subject rfl))
    | none => exact h.simpleLine g

theorem Sound.statementsTo (tr : Tracks Ok Good) (h : Sound Ok Good sub) (n : Nat) :
    Keeps (Ok false) (statementsTo sub depth n) (Statements Good) := by
  induction n with
  | zero => exact Leads.failure
  | succ n ih =>
    have one := h.statement tr depth ih
    refine one.bind fun first hfirst => (Keeps.many one).bind fun rest hrest => Keeps.pure ?_
    exact List.forall_mem_append.mpr ⟨hfirst, List.forall_mem_flatten.mpr hrest⟩

theorem Tracks.script (tr : Tracks Ok Good) :
    Keeps (Ok false) (script depth) (Outline.All Good) := by
  refine (Keeps.ofKind .endOfText).attempt.bind fun done _ => ?_
  cases done with
  | some t => exact Keeps.pure (Outline.all_plain.mpr (List.forall_mem_nil _))
  | none =>
    exact ((tr.sound depth).statementsTo tr depth).bind fun ss hss =>
      (Keeps.ofKind .endOfText).bind fun _ _ =>
        Keeps.pure (Outline.all_plain.mpr (List.forall_mem_map.mpr hss))

end Grammar

theorem Terminal.shift_zero (t : Terminal) : t.shift ⟨0, 0⟩ = t := by
  simp [Terminal.shift]

/-- Where the terminals of a script are as they should be, so are all definitions and uses in it. -/
theorem Outline.all_ofSource {Ok : Bool → Parse.Supply} {Good : Landmark → Prop} {source : String}
    {o : Outline} (tr : Grammar.Tracks Ok Good)
    (hts : ∀ ts, Strict.terminals source.toList = some ts → (Ok false).Holds ts)
    (h : ofSource source = .ok o) : o.All Good := by
  unfold ofSource at h
  dsimp only at h
  split at h
  · cases h
  · split at h
    · next p hp =>
      cases h
      obtain ⟨ts, terminals, hp⟩ := Option.bind_eq_some_iff.mp hp
      obtain ⟨⟨x, rest⟩, hx, hp⟩ := Option.bind_eq_some_iff.mp hp
      cases hp
      rw [funext Terminal.shift_zero, List.map_id'] at hx
      exact (tr.script _ _ _ (hts ts terminals) hx).1
    · cases h

end Literate.Script
