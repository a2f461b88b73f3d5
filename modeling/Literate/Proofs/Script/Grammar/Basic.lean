import Literate.Script.Grammar.Basic

/-! What the parsers of a script keep. A property of the terminals to come that stays when the first of
them is taken holds of what a parser leaves, and what the parser gives is made of terminals that had it:
one rule for each way to put parsers together. -/

namespace Literate.Script.Parse

/-- a property of the terminals to come that stays when the first is taken -/
structure Supply where
  Holds : List Terminal → Prop
  tail : ∀ {t ts}, Holds (t :: ts) → Holds ts

/-- From terminals with `P` the parser gives a result with `Q`, and leaves terminals with `R`. -/
def Leads {α : Type} (P : List Terminal → Prop) (p : Parse α) (Q : α → Prop)
    (R : List Terminal → Prop) : Prop :=
  ∀ ts a rest, P ts → p ts = some (a, rest) → Q a ∧ R rest

/-- The parser gives a result with `Q`, and the terminals it leaves have what the others had. -/
abbrev Keeps {α : Type} (P : Supply) (p : Parse α) (Q : α → Prop) : Prop :=
  Leads P.Holds p Q P.Holds

/-- the terminal could have been the next one -/
def Supply.Offers (P : Supply) (t : Terminal) : Prop := ∃ ts, P.Holds (t :: ts)

theorem Supply.offers {P : Supply} {ts : List Terminal} (h : P.Holds ts) : ∀ t ∈ ts, P.Offers t := by
  induction ts with
  | nil => exact fun t ht => absurd ht List.not_mem_nil
  | cons t ts ih => exact List.forall_mem_cons.mpr ⟨⟨ts, h⟩, ih (P.tail h)⟩

theorem Supply.drop {P : Supply} {ts : List Terminal} (h : P.Holds ts) (n : Nat) :
    P.Holds (ts.drop n) := by
  induction n generalizing ts with
  | zero => exact h
  | succ n ih =>
    cases ts with
    | nil => exact h
    | cons t ts => exact ih (P.tail h)

variable {α β : Type} {P : Supply} {H R T : List Terminal → Prop} {Q : α → Prop} {S : β → Prop}
  {p : Parse α} {f : α → Parse β}

theorem forall_mem_reverse {as : List α} (h : ∀ a ∈ as, Q a) : ∀ a ∈ as.reverse, Q a :=
  fun a ha => h a (List.mem_reverse.mp ha)

theorem Leads.bind (hp : Leads H p Q R) (hf : ∀ a, Q a → Leads R (f a) S T) :
    Leads H (p >>= f) S T := by
  intro ts b rest hts h
  obtain ⟨⟨a, more⟩, hpts, h⟩ := Option.bind_eq_some_iff.mp h
  obtain ⟨ha, hmore⟩ := hp ts a more hts hpts
  exact hf a ha more b rest hmore h

theorem Leads.failure : Leads H (failure : Parse α) Q R := fun _ _ _ _ h => nomatch h

theorem Leads.failure_bind : Leads H (Alternative.failure >>= f) S R := fun _ _ _ _ h => nomatch h

theorem Keeps.pure {a : α} (h : Q a) : Keeps P (pure a) Q := by
  intro ts b rest hts heq
  cases heq
  exact ⟨h, hts⟩

theorem Keeps.map {g : α → β} (hp : Keeps P p Q) (hg : ∀ a, Q a → S (g a)) :
    Keeps P (g <$> p) S := by
  rw [← bind_pure_comp]
  exact hp.bind fun a ha => Keeps.pure (hg a ha)

theorem Keeps.present (hp : Keeps P p Q) : Keeps P (some <$> p) fun a => ∀ x ∈ a, Q x :=
  hp.map fun _ ha _ hx => Option.mem_some.mp hx ▸ ha

theorem Keeps.absent : Keeps P (Pure.pure none) fun a => ∀ x ∈ a, Q x :=
  Keeps.pure fun x hx => absurd hx (Option.not_mem_none x)

/-- A parser that gives a truth value chooses how to go on. -/
theorem Keeps.branch {c : Parse Bool} {p q : Parse α} (hc : Keeps P c fun _ => True)
    (hp : Keeps P p Q) (hq : Keeps P q Q) : Keeps P (do if ← c then p else q) Q := by
  refine hc.bind fun b _ => ?_
  cases b
  · exact hq
  · exact hp

/-- What is chosen so is gone on with in one way. -/
theorem Keeps.choose {c : Parse Bool} {p q : Parse α} (hc : Keeps P c fun _ => True)
    (hp : Keeps P p Q) (hq : Keeps P q Q) (hf : ∀ a, Q a → Keeps P (f a) S) :
    Keeps P (do
      let a ← if ← c then p else q
      f a) S :=
  Keeps.branch hc (hp.bind hf) (hq.bind hf)

/-- a result that may be there behind a word -/
theorem Keeps.optional {c : Parse Bool} (hc : Keeps P c fun _ => True) (hp : Keeps P p Q)
    {f : Option α → Parse β} (hf : ∀ a, (∀ x ∈ a, Q x) → Keeps P (f a) S) :
    Keeps P (do
      let a ← if ← c then some <$> p else Pure.pure none
      f a) S :=
  Keeps.choose hc hp.present Keeps.absent hf

theorem Keeps.lift {a : Option α} (h : ∀ x ∈ a, Q x) : Keeps P (lift a) Q := by
  intro ts x rest hts heq
  obtain ⟨y, hy, heq⟩ := Option.map_eq_some_iff.mp heq
  cases heq
  exact ⟨h x hy, hts⟩

theorem Keeps.get : Keeps P (get : Parse (List Terminal)) fun _ => True := by
  intro ts x rest hts heq
  cases heq
  exact ⟨trivial, hts⟩

theorem Keeps.attempt (hp : Keeps P p Q) : Keeps P (attempt p) (fun a => ∀ x ∈ a, Q x) := by
  intro ts a rest hts heq
  unfold Parse.attempt at heq
  split at heq
  · next x _ hpts =>
    cases heq
    obtain ⟨hx, hrest⟩ := hp ts x rest hts hpts
    exact ⟨fun y hy => Option.mem_some.mp hy ▸ hx, hrest⟩
  · cases heq
    exact ⟨fun y hy => absurd hy (Option.not_mem_none y), hts⟩

/-! Words and terminals taken from the front. -/

theorem Keeps.ahead (words : List String) : Keeps P (ahead words) fun _ => True := by
  intro ts b rest hts heq
  cases heq
  exact ⟨trivial, hts⟩

theorem Keeps.nameAhead (word : String) : Keeps P (nameAhead word) fun _ => True := by
  intro ts b rest hts heq
  unfold Parse.nameAhead at heq
  split at heq <;>
  · cases heq
    exact ⟨trivial, hts⟩

theorem Keeps.accept (word : String) : Keeps P (accept word) fun _ => True := by
  intro ts b rest hts heq
  unfold Parse.accept at heq
  split at heq
  · split at heq
    · cases heq
      exact ⟨trivial, P.tail hts⟩
    · cases heq
      exact ⟨trivial, hts⟩
  · cases heq
    exact ⟨trivial, hts⟩

theorem Keeps.expect (word : String) : Keeps P (expect word) fun _ => True := by
  refine (Keeps.accept word).bind fun b _ => ?_
  split
  · exact Keeps.pure trivial
  · exact Leads.failure

theorem Keeps.ofKind (kind : TerminalKind) :
    Keeps P (ofKind kind) fun t => t.kind = kind ∧ P.Offers t := by
  intro ts t rest hts heq
  unfold Parse.ofKind at heq
  split at heq
  · split at heq
    · next hkind =>
      cases heq
      exact ⟨⟨hkind, rest, hts⟩, P.tail hts⟩
    · cases heq
  · cases heq

theorem Keeps.identifier : Keeps P identifier fun _ => True :=
  (Keeps.ofKind .name).bind fun _ _ => Keeps.pure trivial

theorem Keeps.oneOf (table : List (String × α)) : Keeps P (oneOf table) fun _ => True := by
  intro ts a rest hts heq
  unfold Parse.oneOf at heq
  split at heq
  · split at heq
    · cases heq
      exact ⟨trivial, P.tail hts⟩
    · cases heq
      exact ⟨trivial, hts⟩
  · cases heq
    exact ⟨trivial, hts⟩

theorem Keeps.acceptAny (words : List String) : Keeps P (acceptAny words) fun _ => True :=
  (Keeps.oneOf _).bind fun _ _ => Keeps.pure trivial

/-! Repetition. -/

section

variable {step : α → Parse (Option α)} {a : α}

theorem Keeps.iterate (hstep : ∀ a, Q a → Keeps P (step a) fun b => ∀ x ∈ b, Q x) (n : Nat)
    (ha : Q a) : Keeps P (iterate step n a) Q := by
  induction n generalizing a with
  | zero => exact Keeps.pure ha
  | succ n ih =>
    refine (hstep a ha).bind fun b hb => ?_
    split
    · exact ih (hb _ rfl)
    · exact Keeps.pure ha

theorem Keeps.loop (hstep : ∀ a, Q a → Keeps P (step a) fun b => ∀ x ∈ b, Q x) (ha : Q a) :
    Keeps P (loop step a) Q := by
  refine (hstep a ha).bind fun b hb => ?_
  split
  · exact Keeps.get.bind fun ts _ => Keeps.iterate hstep ts.length (hb _ rfl)
  · exact Keeps.pure ha

end

theorem Keeps.many (hp : Keeps P p Q) : Keeps P (many p) fun as => ∀ a ∈ as, Q a := by
  refine (Keeps.loop (Q := fun as => ∀ a ∈ as, Q a) (fun as has => ?_) (List.forall_mem_nil _)).bind
    fun as has => Keeps.pure (forall_mem_reverse has)
  refine hp.attempt.bind fun a ha => Keeps.pure ?_
  intro bs hbs
  obtain ⟨x, hx, rfl⟩ := Option.map_eq_some_iff.mp hbs
  exact List.forall_mem_cons.mpr ⟨ha x hx, has⟩

theorem Keeps.separated (word : String) (hp : Keeps P p Q) :
    Keeps P (separated word p) fun r => ∀ a ∈ r.1, Q a := by
  refine hp.bind fun first hfirst => (Keeps.accept word).bind fun b _ => ?_
  split
  · refine (Keeps.loop (Q := fun r => ∀ a ∈ r.1, Q a) (fun r hr => ?_) (List.forall_mem_nil _)).bind
      fun r hr => Keeps.pure ?_
    · split
      · refine hp.attempt.bind fun a ha => ?_
        split
        · refine (Keeps.accept word).bind fun b _ => Keeps.pure ?_
          rintro _ ⟨⟩
          exact List.forall_mem_cons.mpr ⟨ha _ rfl, hr⟩
        · exact Keeps.pure fun x hx => nomatch hx
      · exact Keeps.pure fun x hx => nomatch hx
    · exact List.forall_mem_cons.mpr ⟨hfirst, forall_mem_reverse hr⟩
  · exact Keeps.pure (List.forall_mem_singleton.mpr hfirst)

theorem Keeps.commas (hp : Keeps P p Q) : Keeps P (commas p) fun r => ∀ a ∈ r.1, Q a :=
  hp.separated ","

theorem Keeps.strictCommas (hp : Keeps P p Q) :
    Keeps P (strictCommas p) fun as => ∀ a ∈ as, Q a := by
  refine hp.bind fun first hfirst =>
    (Keeps.loop (Q := fun as => ∀ a ∈ as, Q a) (fun as has => ?_) (List.forall_mem_nil _)).bind
      fun as has => Keeps.pure (List.forall_mem_cons.mpr ⟨hfirst, forall_mem_reverse has⟩)
  refine (Keeps.accept ",").bind fun b _ => ?_
  split
  · refine hp.bind fun a ha => Keeps.pure ?_
    rintro _ ⟨⟩
    exact List.forall_mem_cons.mpr ⟨ha, has⟩
  · exact Keeps.pure fun x hx => nomatch hx

end Literate.Script.Parse
