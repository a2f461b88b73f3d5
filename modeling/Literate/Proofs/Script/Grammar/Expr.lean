import Mathlib.Data.List.TakeWhile
import Literate.Proofs.Script.Grammar.Basic
import Literate.Proofs.Script.Grammar.Field
import Literate.Script.Grammar.Expr

/-! What the grammar of expressions keeps. An expression is made of uses that stand where names stand
among the terminals that it is read from: one lemma for each rule, and the rules of all depths from
these by induction. -/

namespace Literate.Script.Grammar

open Parse

/-- Terminals stand in a script or inside its texts, which `Ok` tells apart. A name among them makes a
good use, and the fields of a text among them have terminals inside a text. -/
structure Grades (Ok : Bool → Supply) (Good : Landmark → Prop) : Prop where
  use : ∀ {b t}, (Ok b).Offers t → t.kind = .name →
    Good (.use (String.ofList (Text.normalize t.text.toList)) t.start t.stop)
  field : ∀ {b t us}, (Ok b).Offers t → t.kind = .string → t.IsField us → (Ok true).Holds us

/-- The rules leave terminals as they should be, and give expressions whose uses are good. -/
def Sound (Ok : Bool → Supply) (Good : Landmark → Prop) (sub : Rules) : Prop :=
  ∀ b goal, Keeps (Ok b) (sub goal) (Expr.All Good)

variable {Ok : Bool → Supply} {Good : Landmark → Prop} {sub : Rules} {b : Bool} {P : Supply}
  {one : Parse Expr} {note wide : Parse (Option Expr)}

theorem Grades.all_ofName (g : Grades Ok Good) {t : Terminal} {use : Use} (kind : t.kind = .name)
    (ht : (Ok b).Offers t) : (Expr.ofName t use).All Good :=
  Expr.all_name.mpr fun _ => g.use ht kind

theorem Sound.named (g : Grades Ok Good) (h : Sound Ok Good sub) :
    Keeps (Ok b) (named sub) (Expr.All Good) := by
  refine Keeps.branch (Keeps.nameAhead ":=") ?_ (h b .expression)
  refine (Keeps.ofKind .name).bind fun t ⟨kind, ht⟩ => ?_
  refine (Keeps.expect ":=").bind fun _ _ => (h b .expression).bind fun e he => ?_
  exact Keeps.pure (Expr.all_walrus.mpr ⟨g.all_ofName kind ht, he⟩)

theorem keeps_starred (h : Keeps P one (Expr.All Good)) :
    Keeps P (starred one) fun e => ∀ x ∈ e, x.All Good := by
  refine Keeps.branch (Keeps.accept "*") (h.bind fun e he => Keeps.pure ?_) Keeps.absent
  rintro _ ⟨⟩
  exact Expr.all_starred.mpr he

/-- An item with a star goes in front of one without. -/
theorem keeps_orStarred {first : Parse (Option Expr)} (hfirst : Keeps P first fun e => ∀ x ∈ e, x.All Good)
    (h : Keeps P one (Expr.All Good)) :
    Keeps P (do
      match ← first with
      | some e => return e
      | none => one) (Expr.All Good) := by
  refine hfirst.bind fun e he => ?_
  cases e with
  | some e => exact Keeps.pure (he e rfl)
  | none => exact h

theorem Sound.item (g : Grades Ok Good) (h : Sound Ok Good sub) :
    Keeps (Ok b) (item sub) (Expr.All Good) :=
  keeps_orStarred (keeps_starred (h b .operand)) (h.named g)

theorem Sound.looseItem (h : Sound Ok Good sub) : Keeps (Ok b) (looseItem sub) (Expr.All Good) :=
  keeps_orStarred (keeps_starred (h b .operand)) (h b .expression)

theorem all_tupled {r : List Expr × Bool} (h : ∀ e ∈ r.1, e.All Good) : (tupled r).All Good := by
  unfold tupled
  split
  · exact h _ (List.mem_singleton_self _)
  · exact Expr.all_tuple.mpr h

theorem Sound.loose (h : Sound Ok Good sub) : Keeps (Ok b) (loose sub) (Expr.All Good) :=
  (Keeps.commas h.looseItem).bind fun _ hr => Keeps.pure (all_tupled hr)

theorem Sound.target (h : Sound Ok Good sub) : Keeps (Ok b) (target sub) (Expr.All Good) := by
  refine (keeps_starred (h b .primary)).bind fun e he => ?_
  cases e with
  | some e => exact Keeps.lift fun x hx => (he e rfl).stored hx
  | none => exact (h b .primary).bind fun e he => Keeps.lift fun x hx => he.stored hx

theorem Sound.targets (h : Sound Ok Good sub) : Keeps (Ok b) (targets sub) (Expr.All Good) :=
  (Keeps.commas h.target).bind fun _ hr => Keeps.pure (all_tupled hr)

theorem Sound.yielded (h : Sound Ok Good sub) : Keeps (Ok b) (yielded sub) (Expr.All Good) := by
  refine Keeps.branch (Keeps.accept "from") ?_ ?_
  · exact (h b .expression).bind fun e he => Keeps.pure (Expr.all_delegate.mpr he)
  · exact h.loose.attempt.bind fun e he => Keeps.pure (Expr.all_yield.mpr he)

theorem Sound.yieldOrLoose (h : Sound Ok Good sub) :
    Keeps (Ok b) (yieldOrLoose sub) (Expr.All Good) :=
  Keeps.branch (Keeps.accept "yield") h.yielded h.loose

/-! Comprehensions. -/

/-- Items are put in front of others as long as there is a word that leads to them. -/
theorem keeps_behind {α : Type} {Q : α → Prop} {c : Parse Bool} {p : Parse α} {start : List α}
    (hc : Keeps P c fun _ => True) (hp : Keeps P p Q) (hstart : ∀ a ∈ start, Q a) :
    Keeps P (loop (fun as => do
      if ← c then return some ((← p) :: as) else return none) start) fun as => ∀ a ∈ as, Q a := by
  refine Keeps.loop (fun as has => Keeps.branch hc ?_ Keeps.absent) hstart
  refine hp.bind fun a ha => Keeps.pure ?_
  rintro _ ⟨⟩
  exact List.forall_mem_cons.mpr ⟨ha, has⟩

theorem Sound.clause (h : Sound Ok Good sub) : Keeps (Ok b) (clause sub) (Clause.All Good) := by
  refine Keeps.choose (Keeps.ahead _) (Keeps.accept "async") (Keeps.pure trivial) fun _ _ => ?_
  refine (Keeps.expect "for").bind fun _ _ => h.targets.bind fun left hleft => ?_
  refine (Keeps.expect "in").bind fun _ _ => (h b .disjunction).bind fun source hsource => ?_
  refine (keeps_behind (Keeps.accept "if") (h b .disjunction) (List.forall_mem_nil _)).bind
    fun ifs hifs => Keeps.pure ?_
  exact ⟨hleft, hsource, forall_mem_reverse hifs⟩

theorem keeps_clauseAhead : Keeps P clauseAhead fun _ => True :=
  Keeps.branch (Keeps.ahead _) (Keeps.pure trivial) (Keeps.ahead _)

theorem Sound.clauses (h : Sound Ok Good sub) :
    Keeps (Ok b) (clauses sub) fun cs => ∀ c ∈ cs, c.All Good :=
  (keeps_behind keeps_clauseAhead h.clause (List.forall_mem_nil _)).bind fun _ hcs =>
    Keeps.pure (forall_mem_reverse hcs)

/-! Parameters. -/

theorem keeps_param (h : Keeps P note fun e => ∀ x ∈ e, x.All Good) :
    Keeps P (param note) (Param.All Good) :=
  Keeps.identifier.bind fun _ _ => h.bind fun _ hnote =>
    Keeps.pure ⟨hnote, fun x hx => absurd hx (Option.not_mem_none x)⟩

theorem Sound.valued (h : Sound Ok Good sub) (hnote : Keeps (Ok b) note fun e => ∀ x ∈ e, x.All Good) :
    Keeps (Ok b) (valued sub note) (Param.All Good) :=
  Keeps.identifier.bind fun _ _ => hnote.bind fun _ hnote =>
    Keeps.optional (Keeps.accept "=") (h b .expression) fun _ hvalue => Keeps.pure ⟨hnote, hvalue⟩

def Slot.All (Good : Landmark → Prop) : Slot → Prop
  | param p => p.All Good
  | slash => True
  | star p => ∀ q ∈ p, q.All Good
  | doubleStar p => p.All Good

theorem Sound.slot (h : Sound Ok Good sub) (hnote : Keeps (Ok b) note fun e => ∀ x ∈ e, x.All Good)
    (hwide : Keeps (Ok b) wide fun e => ∀ x ∈ e, x.All Good) :
    Keeps (Ok b) (slot sub note wide) (Slot.All Good) := by
  refine Keeps.branch (Keeps.accept "/") (Keeps.pure trivial) ?_
  refine Keeps.branch (Keeps.accept "**") ?_ ?_
  · exact (keeps_param hnote).bind fun p hp => Keeps.pure hp
  refine Keeps.branch (Keeps.accept "*") ?_ ?_
  · refine Keeps.branch (Keeps.ahead _) (Keeps.pure ?_) ?_
    · exact fun q hq => absurd hq (Option.not_mem_none q)
    · refine (keeps_param hwide).bind fun p hp => Keeps.pure ?_
      rintro _ ⟨⟩
      exact hp
  · exact (h.valued hnote).bind fun p hp => Keeps.pure hp

theorem all_back {leading plain named : List Param} {star : Option Param} {slots : List Slot}
    {ps : Params} (hleading : ∀ p ∈ leading, p.All Good) (hplain : ∀ p ∈ plain, p.All Good)
    (hstar : ∀ p ∈ star, p.All Good) (hnamed : ∀ p ∈ named, p.All Good)
    (hslots : ∀ s ∈ slots, s.All Good) (h : arrange.back leading plain star named slots = some ps) :
    ps.All Good := by
  fun_induction arrange.back leading plain star named slots with
  | case1 => cases h
  | case2 =>
    cases h
    exact ⟨hleading, hplain, hstar, forall_mem_reverse hnamed, nofun⟩
  | case3 named p rest ih =>
    obtain ⟨hp, hrest⟩ := List.forall_mem_cons.mp hslots
    exact ih (List.forall_mem_cons.mpr ⟨hp, hnamed⟩) hrest h
  | case4 => cases h
  | case5 named p =>
    cases h
    refine ⟨hleading, hplain, hstar, forall_mem_reverse hnamed, ?_⟩
    rintro _ ⟨⟩
    exact hslots _ (List.mem_singleton_self _)
  | case6 => cases h

theorem all_front {before : List Param} {leading : Option (List Param)} {slots : List Slot}
    {ps : Params} (hbefore : ∀ p ∈ before, p.All Good) (hleading : ∀ p ∈ leading.getD [], p.All Good)
    (hslots : ∀ s ∈ slots, s.All Good) (h : arrange.front before leading slots = some ps) :
    ps.All Good := by
  fun_induction arrange.front before leading slots with
  | case1 =>
    cases h
    exact ⟨hleading, forall_mem_reverse hbefore, nofun, nofun, nofun⟩
  | case2 => cases h
  | case3 before leading p rest lastValued ok ih =>
    obtain ⟨hp, hrest⟩ := List.forall_mem_cons.mp hslots
    exact ih (List.forall_mem_cons.mpr ⟨hp, hbefore⟩) hleading hrest h
  | case4 => cases h
  | case5 before leading rest ok ih =>
    exact ih (List.forall_mem_nil _) (forall_mem_reverse hbefore) (List.forall_mem_cons.mp hslots).2 h
  | case6 before leading p rest =>
    obtain ⟨hp, hrest⟩ := List.forall_mem_cons.mp hslots
    exact all_back hleading (forall_mem_reverse hbefore) hp (List.forall_mem_nil _) hrest h
  | case7 before leading p =>
    cases h
    refine ⟨hleading, forall_mem_reverse hbefore, nofun, nofun, ?_⟩
    rintro _ ⟨⟩
    exact hslots _ (List.mem_singleton_self _)
  | case8 => cases h

theorem Sound.params (h : Sound Ok Good sub) (hnote : Keeps (Ok b) note fun e => ∀ x ∈ e, x.All Good)
    (hwide : Keeps (Ok b) wide fun e => ∀ x ∈ e, x.All Good) (close : String) :
    Keeps (Ok b) (params sub note wide close) (Params.All Good) := by
  refine Keeps.branch (Keeps.ahead _) (Keeps.pure ⟨nofun, nofun, nofun, nofun, nofun⟩) ?_
  refine (Keeps.commas (h.slot hnote hwide)).bind fun r hr => ?_
  refine Keeps.branch (Keeps.ahead _) (Keeps.lift fun ps hps => ?_) Leads.failure
  exact all_front (List.forall_mem_nil _) (List.forall_mem_nil _) hr hps

theorem Sound.lambda (h : Sound Ok Good sub) : Keeps (Ok b) (lambda sub) (Expr.All Good) :=
  (h.params Keeps.absent Keeps.absent ":").bind fun _ hps => (Keeps.expect ":").bind fun _ _ =>
    (h b .expression).bind fun _ he => Keeps.pure (Expr.all_lambda.mpr ⟨Params.all_outline hps, he⟩)

/-! Calls and subscripts. -/

def Argument.All (Good : Landmark → Prop) : Argument → Prop
  | plain e => e.All Good
  | starred e => e.All Good
  | keyword _ e => e.All Good
  | spread e => e.All Good

theorem Sound.argument (g : Grades Ok Good) (h : Sound Ok Good sub) :
    Keeps (Ok b) (argument sub) (Argument.All Good) := by
  refine Keeps.branch (Keeps.accept "**") ?_ ?_
  · exact (h b .expression).bind fun e he => Keeps.pure he
  refine Keeps.branch (Keeps.nameAhead "=") ?_ ?_
  · exact Keeps.identifier.bind fun _ _ => (Keeps.expect "=").bind fun _ _ =>
      (h b .expression).bind fun e he => Keeps.pure he
  refine (keeps_starred (h b .expression)).bind fun e he => ?_
  cases e with
  | some e => exact Keeps.pure (he e rfl)
  | none => exact (h.named g).bind fun e he => Keeps.pure he

section

variable {as : List Argument}

theorem all_values (has : ∀ a ∈ as, a.All Good) : ∀ e ∈ values as, e.All Good := by
  intro e he
  obtain ⟨a, ha, heq⟩ := List.mem_filterMap.mp he
  have good := has a ha
  cases a <;> cases heq <;> exact good

theorem all_keywords (has : ∀ a ∈ as, a.All Good) : ∀ k ∈ keywords as, k.All Good := by
  intro k hk
  obtain ⟨a, ha, heq⟩ := List.mem_filterMap.mp hk
  have good := has a ha
  cases a <;> cases heq <;> exact good

end

/-- what is passed in a call -/
def Passed (Good : Landmark → Prop) (r : List Expr × List Keyword) : Prop :=
  (∀ e ∈ r.1, e.All Good) ∧ ∀ k ∈ r.2, k.All Good

theorem passed_nil : Passed Good ([], []) := ⟨nofun, nofun⟩

theorem keeps_passed {as : List Argument} (has : ∀ a ∈ as, a.All Good) :
    Keeps P (if inOrder false false as then return (values as, keywords as) else failure)
      (Passed Good) := by
  split
  · exact Keeps.pure ⟨all_values has, all_keywords has⟩
  · exact Leads.failure

theorem Sound.arguments (g : Grades Ok Good) (h : Sound Ok Good sub) :
    Keeps (Ok b) (arguments sub) (Passed Good) := by
  refine Keeps.branch (Keeps.accept ")") (Keeps.pure passed_nil) ?_
  exact (Keeps.commas (h.argument g)).bind fun r hr => (Keeps.expect ")").bind fun _ _ =>
    keeps_passed hr

/-- Perhaps further items, up to a closing bracket, and what is made of them. -/
theorem keeps_further {α β : Type} {Q : α → Prop} {S : β → Prop} {p : Parse α}
    {f : List α → Parse β} (close : String) (hp : Keeps P p Q)
    (hf : ∀ as, (∀ a ∈ as, Q a) → Keeps P (f as) S) :
    Keeps P (do
      let as ← if ← ahead [close] then pure [] else do pure (← commas p).1
      f as) S :=
  Keeps.branch (Keeps.ahead _) (hf [] (List.forall_mem_nil _))
    ((Keeps.commas hp).bind fun r hr => hf r.1 hr)

theorem Sound.callArguments (g : Grades Ok Good) (h : Sound Ok Good sub) :
    Keeps (Ok b) (callArguments sub) (Passed Good) := by
  refine Keeps.branch (Keeps.accept ")") (Keeps.pure passed_nil) ?_
  refine (h.argument g).bind fun first hfirst => keeps_clauseAhead.bind fun more _ => ?_
  split
  · refine h.clauses.bind fun cs hcs => (Keeps.expect ")").bind fun _ _ => Keeps.pure ⟨?_, nofun⟩
    exact List.forall_mem_singleton.mpr (Expr.all_comprehension.mpr ⟨hfirst, hcs⟩)
  · have close (rest : List Argument) (hrest : ∀ a ∈ rest, a.All Good) :
        Keeps (Ok b) (do
          expect ")"
          let as := first :: rest
          if inOrder false false as then return (values as, keywords as) else failure)
          (Passed Good) :=
      (Keeps.expect ")").bind fun _ _ => keeps_passed (List.forall_mem_cons.mpr ⟨hfirst, hrest⟩)
    exact Keeps.branch (Keeps.accept ",") (keeps_further ")" (h.argument g) close)
      (close [] (List.forall_mem_nil _))

theorem Sound.sliceItem (g : Grades Ok Good) (h : Sound Ok Good sub) :
    Keeps (Ok b) (sliceItem sub) (Expr.All Good) := by
  refine keeps_orStarred (keeps_starred (h b .expression)) ?_
  refine Keeps.branch (Keeps.nameAhead ":=") (h.named g) ?_
  refine Keeps.choose (Keeps.ahead _) Keeps.absent (h b .expression).present fun lower hlower => ?_
  refine Keeps.branch (Keeps.accept ":") ?_ (Keeps.lift hlower)
  refine (h b .expression).attempt.bind fun upper hupper => ?_
  exact Keeps.choose (Keeps.accept ":") (h b .expression).attempt Keeps.absent fun step hstep =>
    Keeps.pure (Expr.all_slice.mpr ⟨⟨hlower, hupper⟩, hstep⟩)

theorem Sound.index (g : Grades Ok Good) (h : Sound Ok Good sub) :
    Keeps (Ok b) (index sub) (Expr.All Good) := by
  refine (Keeps.commas (h.sliceItem g)).bind fun r hr => ?_
  split
  · next e =>
    have he : e.All Good := hr e (List.mem_singleton_self e)
    split
    · exact Keeps.pure (Expr.all_tuple.mpr hr)
    · exact Keeps.pure he
  · exact Keeps.pure (Expr.all_tuple.mpr hr)

/-! Displays in brackets. -/

theorem keeps_closed {e : Expr} (close : String) (he : e.All Good) :
    Keeps P (do
      expect close
      return e) (Expr.All Good) :=
  (Keeps.expect close).bind fun _ _ => Keeps.pure he

theorem Sound.inParens (g : Grades Ok Good) (h : Sound Ok Good sub) :
    Keeps (Ok b) (inParens sub) (Expr.All Good) := by
  refine Keeps.branch (Keeps.accept ")") (Keeps.pure (Expr.all_tuple.mpr (List.forall_mem_nil _))) ?_
  refine Keeps.branch (Keeps.accept "yield") (h.yielded.bind fun e he => keeps_closed ")" he) ?_
  refine (h.item g).bind fun first hfirst => keeps_clauseAhead.bind fun more _ => ?_
  split
  · exact h.clauses.bind fun cs hcs =>
      keeps_closed ")" (Expr.all_comprehension.mpr ⟨hfirst, hcs⟩)
  refine Keeps.branch (Keeps.accept ",") ?_ ?_
  · exact keeps_further ")" (h.item g) fun rest hrest =>
      keeps_closed ")" (Expr.all_tuple.mpr (List.forall_mem_cons.mpr ⟨hfirst, hrest⟩))
  split
  · exact Leads.failure_bind
  · exact keeps_closed ")" hfirst

theorem Sound.inBrackets (g : Grades Ok Good) (h : Sound Ok Good sub) :
    Keeps (Ok b) (inBrackets sub) (Expr.All Good) := by
  refine Keeps.branch (Keeps.accept "]") (Keeps.pure (Expr.all_list.mpr (List.forall_mem_nil _))) ?_
  refine (h.item g).bind fun first hfirst => keeps_clauseAhead.bind fun more _ => ?_
  refine (Keeps.accept ",").bind fun comma _ => ?_
  dsimp only
  split
  · exact h.clauses.bind fun cs hcs =>
      keeps_closed "]" (Expr.all_comprehension.mpr ⟨hfirst, hcs⟩)
  split
  · exact keeps_further "]" (h.item g) fun rest hrest =>
      keeps_closed "]" (Expr.all_list.mpr (List.forall_mem_cons.mpr ⟨hfirst, hrest⟩))
  · exact keeps_closed "]" (Expr.all_list.mpr (List.forall_mem_singleton.mpr hfirst))

theorem Sound.entry (h : Sound Ok Good sub) : Keeps (Ok b) (entry sub) (Entry.All Good) := by
  refine Keeps.branch (Keeps.accept "**") ?_ ?_
  · exact (h b .operand).bind fun e he => Keeps.pure he
  · exact (h b .expression).bind fun key hkey => (Keeps.expect ":").bind fun _ _ =>
      (h b .expression).bind fun value hvalue => Keeps.pure ⟨hkey, hvalue⟩

theorem Sound.dictFrom (h : Sound Ok Good sub) {first : Entry} (hfirst : first.All Good) :
    Keeps (Ok b) (dictFrom sub first) (Expr.All Good) := by
  refine Keeps.branch (Keeps.accept ",") ?_ ?_
  · exact keeps_further _ h.entry fun rest hrest => Keeps.pure
      (Expr.all_dict.mpr (List.forall_mem_cons.mpr ⟨hfirst, hrest⟩))
  · exact Keeps.pure (Expr.all_dict.mpr (List.forall_mem_singleton.mpr hfirst))

theorem Sound.setFrom (g : Grades Ok Good) (h : Sound Ok Good sub) {first : Expr}
    (hfirst : first.All Good) : Keeps (Ok b) (setFrom sub first) (Expr.All Good) := by
  refine keeps_clauseAhead.bind fun more _ => ?_
  split
  · exact h.clauses.bind fun cs hcs => Keeps.pure (Expr.all_comprehension.mpr ⟨hfirst, hcs⟩)
  refine Keeps.branch (Keeps.accept ",") ?_ ?_
  · exact keeps_further _ (h.item g) fun rest hrest => Keeps.pure
      (Expr.all_set.mpr (List.forall_mem_cons.mpr ⟨hfirst, hrest⟩))
  · exact Keeps.pure (Expr.all_set.mpr (List.forall_mem_singleton.mpr hfirst))

theorem Sound.inBraces (g : Grades Ok Good) (h : Sound Ok Good sub) :
    Keeps (Ok b) (inBraces sub) (Expr.All Good) := by
  refine Keeps.branch (Keeps.accept _) (Keeps.pure (Expr.all_dict.mpr (List.forall_mem_nil _))) ?_
  refine Keeps.branch (Keeps.ahead _) ?_ ?_
  · exact h.entry.bind fun first hfirst => (h.dictFrom hfirst).bind fun e he => keeps_closed _ he
  refine (Keeps.nameAhead ":=").bind fun walrus _ => (Keeps.ahead _).bind fun star _ => ?_
  refine (h.item g).bind fun first hfirst => ?_
  have display : Keeps (Ok b) (do
      let e ← Grammar.setFrom sub first
      expect "\x7d"
      return e) (Expr.All Good) := (h.setFrom g hfirst).bind fun e he => keeps_closed _ he
  dsimp only
  split
  · refine Keeps.branch (Keeps.accept ":") ?_ display
    refine (h b .expression).bind fun value hvalue => Keeps.branch keeps_clauseAhead ?_ ?_
    · exact h.clauses.bind fun cs hcs =>
        keeps_closed _ (Expr.all_mapping.mpr ⟨hfirst, hvalue, hcs⟩)
    · have pair : (Entry.pair first value).All Good := ⟨hfirst, hvalue⟩
      exact (h.dictFrom pair).bind fun e he => keeps_closed _ he
  · exact display

/-! Operators. -/

theorem Sound.atom (g : Grades Ok Good) (h : Sound Ok Good sub) :
    Keeps (Ok b) (atom sub) (Expr.All Good) := by
  rintro (_ | ⟨t, ts⟩) e rest hts heq
  · cases heq
  have texts : ∀ u ∈ t :: ts, u.kind = .string → ∀ us y last, u.IsField us →
      Grammar.loose sub us = some (y, last) → y.All Good := by
    intro u hu kind us y last field hy
    exact (h.loose us y last (g.field (Supply.offers hts u hu) kind field) hy).1
  have hts' := (Ok b).tail hts
  have constant {c : Constant} (h : some (Expr.constant c, ts) = some (e, rest)) :
      e.All Good ∧ (Ok b).Holds rest := by
    cases h
    exact ⟨Expr.all_constant, hts'⟩
  unfold Grammar.atom at heq
  dsimp only at heq
  split at heq
  · next kind =>
    cases heq
    exact ⟨g.all_ofName kind ⟨_, hts⟩, hts'⟩
  · obtain ⟨c, -, heq⟩ := Option.map_eq_some_iff.mp heq
    exact constant (congrArg some heq)
  · next kind =>
    obtain ⟨x, hx, heq⟩ := Option.map_eq_some_iff.mp heq
    cases heq
    refine ⟨all_literals (fun u hu => ?_) hx, Supply.drop hts' _⟩
    rcases List.mem_cons.mp hu with rfl | hu
    · exact texts u List.mem_cons_self kind
    · have later := List.takeWhile_subset _ hu
      exact texts u (List.mem_cons_of_mem t later) (by simpa using List.mem_takeWhile_imp hu)
  · split at heq
    · exact constant heq
    · exact constant heq
    · exact constant heq
    · cases heq
  · split at heq
    · exact constant heq
    · exact h.inParens g _ _ _ hts' heq
    · exact h.inBrackets g _ _ _ hts' heq
    · exact h.inBraces g _ _ _ hts' heq
    · cases heq
  · cases heq

theorem Sound.trailer (g : Grades Ok Good) (h : Sound Ok Good sub) {e : Expr} (he : e.All Good) :
    Keeps (Ok b) (trailer sub e) fun x => ∀ y ∈ x, y.All Good := by
  have one {y : Expr} (hy : y.All Good) : ∀ x ∈ some y, x.All Good := by
    rintro _ ⟨⟩
    exact hy
  refine Keeps.branch (Keeps.accept ".") ?_ (Keeps.branch (Keeps.accept "(") ?_
    (Keeps.branch (Keeps.accept "[") ?_ Keeps.absent))
  · exact Keeps.identifier.bind fun _ _ => Keeps.pure (one (Expr.all_member.mpr he))
  · exact (h.callArguments g).bind fun r hr => Keeps.pure (one (Expr.all_call.mpr ⟨he, hr⟩))
  · exact (h.index g).bind fun i hi => (Keeps.expect "]").bind fun _ _ =>
      Keeps.pure (one (Expr.all_subscript.mpr ⟨he, hi⟩))

theorem Sound.primary (g : Grades Ok Good) (h : Sound Ok Good sub) :
    Keeps (Ok b) (primary sub) (Expr.All Good) :=
  (h.atom g).bind fun _ he => Keeps.loop (fun _ hx => h.trailer g hx) he

theorem Sound.awaited (g : Grades Ok Good) (h : Sound Ok Good sub) :
    Keeps (Ok b) (awaited sub) (Expr.All Good) := by
  refine Keeps.branch (Keeps.accept "await") ?_ (h.primary g)
  exact (h.primary g).bind fun e he => Keeps.pure (Expr.all_await.mpr he)

theorem Sound.power (g : Grades Ok Good) (h : Sound Ok Good sub) :
    Keeps (Ok b) (power sub) (Expr.All Good) := by
  refine (h.awaited g).bind fun base hbase => Keeps.branch (Keeps.accept "**") ?_ (Keeps.pure hbase)
  exact (h b .factor).bind fun e he => Keeps.pure (Expr.all_binary.mpr ⟨hbase, he⟩)

theorem Sound.factor (g : Grades Ok Good) (h : Sound Ok Good sub) :
    Keeps (Ok b) (factor sub) (Expr.All Good) := by
  refine (Keeps.oneOf signs).bind fun op _ => ?_
  cases op with
  | some op => exact (h b .factor).bind fun e he => Keeps.pure (Expr.all_unary.mpr he)
  | none => exact h.power g

theorem keeps_chain (ops : List (String × BinaryOp)) (h : Keeps P one (Expr.All Good)) :
    Keeps P (chain ops one) (Expr.All Good) := by
  refine h.bind fun first hfirst => Keeps.loop (fun left hleft => ?_) hfirst
  refine (Keeps.oneOf ops).bind fun op _ => ?_
  cases op with
  | some op =>
    refine h.bind fun e he => Keeps.pure ?_
    rintro _ ⟨⟩
    exact Expr.all_binary.mpr ⟨hleft, he⟩
  | none => exact Keeps.absent

theorem keeps_chains (tables : List (List (String × BinaryOp))) (h : Keeps P one (Expr.All Good)) :
    Keeps P (tables.foldl (fun p ops => chain ops p) one) (Expr.All Good) := by
  induction tables generalizing one with
  | nil => exact h
  | cons ops tables ih => exact ih (keeps_chain ops h)

theorem Sound.operand (g : Grades Ok Good) (h : Sound Ok Good sub) :
    Keeps (Ok b) (operand sub) (Expr.All Good) :=
  keeps_chains operators (h.factor g)

theorem keeps_relation : Keeps P relation fun _ => True := by
  refine Keeps.branch (Keeps.ahead _) ?_ (Keeps.branch (Keeps.accept "is") ?_ (Keeps.oneOf _))
  · exact (Keeps.expect _).bind fun _ _ => (Keeps.expect _).bind fun _ _ => Keeps.pure trivial
  · exact Keeps.branch (Keeps.accept "not") (Keeps.pure trivial) (Keeps.pure trivial)

theorem Sound.comparison (g : Grades Ok Good) (h : Sound Ok Good sub) :
    Keeps (Ok b) (comparison sub) (Expr.All Good) := by
  refine (h.operand g).bind fun first hfirst => ?_
  refine (Keeps.loop (Q := fun as => ∀ a ∈ as, a.2.All Good)
    (fun acc hacc => keeps_relation.bind fun op _ => ?_) (List.forall_mem_nil _)).bind
    fun rest hrest => ?_
  · cases op with
    | some op =>
      refine (h.operand g).bind fun e he => Keeps.pure ?_
      rintro _ ⟨⟩
      exact List.forall_mem_cons.mpr ⟨he, hacc⟩
    | none => exact Keeps.absent
  split
  · exact Keeps.pure hfirst
  · refine Keeps.pure (Expr.all_comparison.mpr ⟨hfirst, ?_⟩)
    exact List.forall_mem_map.mpr (forall_mem_reverse hrest)

theorem Sound.inversion (g : Grades Ok Good) (h : Sound Ok Good sub) :
    Keeps (Ok b) (inversion sub) (Expr.All Good) := by
  refine Keeps.branch (Keeps.accept "not") ?_ (h.comparison g)
  exact (h b .inversion).bind fun e he => Keeps.pure (Expr.all_unary.mpr he)

theorem keeps_joinedBy (word : String) (op : BoolOp) (h : Keeps P one (Expr.All Good)) :
    Keeps P (joinedBy word op one) (Expr.All Good) := by
  refine h.bind fun first hfirst =>
    (keeps_behind (Keeps.accept word) h (List.forall_mem_nil _)).bind fun rest hrest => ?_
  split
  · exact Keeps.pure hfirst
  · refine Keeps.pure (Expr.all_boolean.mpr ?_)
    exact List.forall_mem_cons.mpr ⟨hfirst, forall_mem_reverse hrest⟩

theorem Sound.disjunction (g : Grades Ok Good) (h : Sound Ok Good sub) :
    Keeps (Ok b) (disjunction sub) (Expr.All Good) :=
  keeps_joinedBy "or" .or (keeps_joinedBy "and" .and (h.inversion g))

theorem Sound.expression (g : Grades Ok Good) (h : Sound Ok Good sub) :
    Keeps (Ok b) (expression sub) (Expr.All Good) := by
  refine Keeps.branch (Keeps.accept "lambda") h.lambda ?_
  refine (h.disjunction g).bind fun body hbody =>
    Keeps.branch (Keeps.accept "if") ?_ (Keeps.pure hbody)
  exact (h.disjunction g).bind fun test htest => (Keeps.expect "else").bind fun _ _ =>
    (h b .expression).bind fun e he =>
      Keeps.pure (Expr.all_conditional.mpr ⟨htest, hbody, he⟩)

theorem Sound.rules (g : Grades Ok Good) (h : Sound Ok Good sub) : Sound Ok Good (rules sub) := by
  intro b goal
  cases goal with
  | expression => exact h.expression g
  | disjunction => exact h.disjunction g
  | inversion => exact h.inversion g
  | operand => exact h.operand g
  | factor => exact h.factor g
  | primary => exact h.primary g

theorem Grades.sound (g : Grades Ok Good) (n : Nat) : Sound Ok Good (rulesTo n) := by
  induction n with
  | zero => exact fun _ _ => Leads.failure
  | succ n ih => exact ih.rules g

end Literate.Script.Grammar
