import Literate.Proofs.Script.Grammar.Expr
import Literate.Script.Grammar.Pattern

/-! What the grammar of patterns keeps. A pattern uses the names with points in it, and what stands in
the fields of its texts. -/

namespace Literate.Script.Grammar

open Parse

variable {Ok : Bool → Supply} {Good : Landmark → Prop} {rules : Rules} {b : Bool} {P : Supply}
  {sub : Parse Outline}

theorem all_nil : (Outline.plain []).All Good := Outline.all_plain.mpr (List.forall_mem_nil _)

theorem all_singleton {o : Outline} (h : o.All Good) : (Outline.plain [o]).All Good :=
  Outline.all_plain.mpr (List.forall_mem_singleton.mpr h)

theorem keeps_capture (Good : Landmark → Prop) : Keeps P capture (Outline.All Good) := by
  refine (Keeps.ofKind .name).bind fun t _ => ?_
  split
  · exact Leads.failure
  refine (Keeps.ahead _).bind fun _ _ => (Keeps.ahead _).bind fun _ _ => (Keeps.ahead _).bind fun _ _ => ?_
  split
  · exact Leads.failure
  · exact Keeps.pure all_nil

theorem keeps_signedNumber : Keeps P signedNumber fun _ => True :=
  (Keeps.accept "-").bind fun _ _ => (Keeps.ofKind .number).bind fun _ _ => Keeps.lift fun _ _ => trivial

theorem keeps_numberPattern : Keeps P numberPattern (Outline.All Good) := by
  refine keeps_signedNumber.bind fun first _ => ?_
  refine (Keeps.ahead _).bind fun _ _ => (Keeps.ahead _).bind fun _ _ => ?_
  split
  · refine (Keeps.oneOf signs).bind fun _ _ => (Keeps.ofKind .number).bind fun _ _ => ?_
    refine (Keeps.lift fun _ _ => trivial).bind fun second _ => ?_
    split
    · exact Leads.failure_bind
    · exact Keeps.pure all_nil
  · exact Keeps.pure all_nil

theorem Sound.literalPattern (g : Grades Ok Good) (h : Sound Ok Good rules) :
    Keeps (Ok b) (literalPattern rules) (Outline.All Good) := by
  rintro (_ | ⟨t, ts⟩) o rest hts heq
  · cases heq
  have read (heq : (Grammar.atom rules (t :: ts)).map (fun r => (r.1.outline, r.2)) = some (o, rest)) :
      o.All Good ∧ (Ok b).Holds rest := by
    obtain ⟨⟨e, more⟩, he, heq⟩ := Option.map_eq_some_iff.mp heq
    cases heq
    exact h.atom g _ _ _ hts he
  unfold Grammar.literalPattern at heq
  dsimp only at heq
  split at heq
  · exact keeps_numberPattern _ _ _ hts heq
  · exact read heq
  · exact read heq
  · split at heq
    · exact keeps_numberPattern _ _ _ hts heq
    · cases heq
  · cases heq

theorem Grades.dotted (g : Grades Ok Good) : Keeps (Ok b) dotted fun r => r.1.All Good := by
  refine (Keeps.ofKind .name).bind fun t ⟨kind, ht⟩ => (Keeps.ahead _).bind fun long _ => ?_
  refine (Keeps.loop (fun e he => ?_) (g.all_ofName kind ht)).bind fun e he => Keeps.pure he
  refine Keeps.branch (Keeps.accept ".") (Keeps.identifier.bind fun id _ => Keeps.pure ?_) Keeps.absent
  rintro _ ⟨⟩
  exact Expr.all_member.mpr he

theorem keeps_starPattern (h : Keeps P sub (Outline.All Good)) :
    Keeps P (starPattern sub) (Outline.All Good) := by
  refine Keeps.branch (Keeps.accept "*") ((keeps_capture Good).attempt.bind fun o ho => ?_) h
  cases o with
  | some o => exact Keeps.pure (ho o rfl)
  | none =>
    refine (Keeps.ofKind .name).bind fun t _ => ?_
    split
    · exact Keeps.pure all_nil
    · exact Leads.failure

theorem keeps_patternsTo (close : String) (h : Keeps P sub (Outline.All Good)) :
    Keeps P (patternsTo close sub) fun os => ∀ o ∈ os, o.All Good :=
  Keeps.branch (Keeps.accept close) (Keeps.pure (List.forall_mem_nil _))
    ((Keeps.commas h).bind fun _ hr => (Keeps.expect close).bind fun _ _ => Keeps.pure hr)

theorem Sound.keyPattern (g : Grades Ok Good) (h : Sound Ok Good rules)
    (hsub : Keeps (Ok b) sub (Outline.All Good)) :
    Keeps (Ok b) (keyPattern rules sub) fun r => r.1.All Good ∧ r.2.All Good := by
  refine (h.literalPattern g).attempt.bind fun o ho => ?_
  have close {key : Outline} (hkey : key.All Good) : Keeps (Ok b) (do
      expect ":"
      return (key, ← sub)) fun r => r.1.All Good ∧ r.2.All Good :=
    (Keeps.expect ":").bind fun _ _ => hsub.bind fun o ho => Keeps.pure ⟨hkey, ho⟩
  cases o with
  | some o => exact close (ho o rfl)
  | none =>
    refine g.dotted.bind fun r hr => ?_
    dsimp only
    split
    · exact close hr
    · exact Leads.failure_bind

theorem Sound.dictPattern (g : Grades Ok Good) (h : Sound Ok Good rules)
    (hsub : Keeps (Ok b) sub (Outline.All Good)) :
    Keeps (Ok b) (dictPattern rules sub) (Outline.All Good) := by
  refine Keeps.branch (Keeps.accept _) (Keeps.pure all_nil) ?_
  have entry : Keeps (Ok b) (do
      if ← accept "**" then
        let _ ← capture
        return none
      else return some (← Grammar.keyPattern rules sub))
      fun r => ∀ x ∈ r, x.1.All Good ∧ x.2.All Good := by
    refine Keeps.branch (Keeps.accept "**") ?_ ?_
    · exact (keeps_capture Good).bind fun _ _ => Keeps.absent
    · refine (h.keyPattern g hsub).bind fun r hr => Keeps.pure ?_
      rintro _ ⟨⟩
      exact hr
  refine (Keeps.commas entry).bind fun r hr => (Keeps.expect _).bind fun _ _ => ?_
  dsimp only
  split
  · exact Leads.failure
  · have pairs : ∀ x ∈ r.1.filterMap id, x.1.All Good ∧ x.2.All Good :=
      List.forall_mem_filterMap.mpr fun x hx y hy => hr x hx y hy
    refine Keeps.pure (Outline.all_plain.mpr (List.forall_mem_append.mpr ⟨?_, ?_⟩))
    · exact List.forall_mem_map.mpr fun x hx => (pairs x hx).1
    · exact List.forall_mem_map.mpr fun x hx => (pairs x hx).2

theorem keeps_classPattern {cls : Expr} (hcls : cls.All Good) (h : Keeps P sub (Outline.All Good)) :
    Keeps P (classPattern sub cls) (Outline.All Good) := by
  refine Keeps.branch (Keeps.accept ")") (Keeps.pure (all_singleton hcls)) ?_
  have argument : Keeps P (do
      if ← nameAhead "=" then
        let _ ← identifier
        expect "="
        return (true, ← sub)
      else return (false, ← sub)) fun r => r.2.All Good := by
    refine Keeps.branch (Keeps.nameAhead "=") ?_ (h.bind fun o ho => Keeps.pure ho)
    exact Keeps.identifier.bind fun _ _ => (Keeps.expect "=").bind fun _ _ =>
      h.bind fun o ho => Keeps.pure ho
  refine (Keeps.commas argument).bind fun r hr => (Keeps.expect ")").bind fun _ _ => ?_
  split
  · exact Keeps.pure (Outline.all_plain.mpr
      (List.forall_mem_cons.mpr ⟨hcls, List.forall_mem_map.mpr hr⟩))
  · exact Leads.failure

theorem Sound.closedPattern (g : Grades Ok Good) (h : Sound Ok Good rules)
    (hsub : Keeps (Ok b) sub (Outline.All Good)) :
    Keeps (Ok b) (closedPattern rules sub) (Outline.All Good) := by
  refine Keeps.branch (Keeps.accept "(") ?_ (Keeps.branch (Keeps.accept "[") ?_
    (Keeps.branch (Keeps.accept _) (h.dictPattern g hsub) ?_))
  · refine Keeps.branch (Keeps.accept ")") (Keeps.pure all_nil) ?_
    refine (Keeps.ahead _).bind fun starry _ => (keeps_starPattern hsub).bind fun first hfirst => ?_
    refine Keeps.branch (Keeps.accept ",") ?_ ?_
    · exact (keeps_patternsTo ")" (keeps_starPattern hsub)).bind fun os hos => Keeps.pure
        (Outline.all_plain.mpr (List.forall_mem_cons.mpr ⟨hfirst, hos⟩))
    · refine (Keeps.expect ")").bind fun _ _ => ?_
      split
      · exact Leads.failure
      · exact Keeps.pure hfirst
  · exact (keeps_patternsTo "]" (keeps_starPattern hsub)).bind fun os hos =>
      Keeps.pure (Outline.all_plain.mpr hos)
  · refine (h.literalPattern g).attempt.bind fun o ho => ?_
    cases o with
    | some o => exact Keeps.pure (all_singleton (ho o rfl))
    | none =>
      refine (keeps_capture Good).attempt.bind fun o ho => ?_
      cases o with
      | some o => exact Keeps.pure (ho o rfl)
      | none =>
        refine Keeps.get.bind fun ts _ => ?_
        dsimp only
        split
        · exact (Keeps.ofKind .name).bind fun _ _ => Keeps.pure all_nil
        · refine g.dotted.bind fun r hr => ?_
          refine Keeps.branch (Keeps.accept "(") (keeps_classPattern hr hsub) ?_
          refine (Keeps.ahead _).bind fun _ _ => ?_
          split
          · exact Keeps.pure (all_singleton hr)
          · exact Leads.failure

theorem Sound.pattern (g : Grades Ok Good) (h : Sound Ok Good rules)
    (hsub : Keeps (Ok b) sub (Outline.All Good)) :
    Keeps (Ok b) (pattern rules sub) (Outline.All Good) := by
  refine (h.closedPattern g hsub).bind fun first hfirst => ?_
  refine (keeps_behind (Keeps.accept "|") (h.closedPattern g hsub) (List.forall_mem_nil _)).bind
    fun rest hrest => ?_
  have whole : (if rest.isEmpty then first else .plain (first :: rest.reverse)).All Good := by
    split
    · exact hfirst
    · exact Outline.all_plain.mpr (List.forall_mem_cons.mpr ⟨hfirst, forall_mem_reverse hrest⟩)
  refine Keeps.branch (Keeps.accept "as") ?_ (Keeps.pure whole)
  exact (keeps_capture Good).bind fun _ _ => Keeps.pure (all_singleton whole)

theorem Sound.patternTo (g : Grades Ok Good) (h : Sound Ok Good rules) (n : Nat) :
    Keeps (Ok b) (patternTo rules n) (Outline.All Good) := by
  induction n with
  | zero => exact Leads.failure
  | succ n ih => exact h.pattern g ih

theorem keeps_casePattern (h : Keeps P sub (Outline.All Good)) :
    Keeps P (casePattern sub) (Outline.All Good) := by
  refine (Keeps.ahead _).bind fun starry _ => (Keeps.commas (keeps_starPattern h)).bind fun r hr => ?_
  split
  · split
    · exact Leads.failure
    · exact Keeps.pure (hr _ (List.mem_singleton_self _))
  · exact Keeps.pure (Outline.all_plain.mpr hr)

end Literate.Script.Grammar
