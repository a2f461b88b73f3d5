import Literate.Proofs.Basic
import Literate.Script.Highlight

/-! What the highlighting of a script makes of decorators, read off the lexemes in front. An at sign
is one of a decorator if a line of statements starts with it. It waits for a name, and the name that
comes first behind it has its class, be it right behind it or not. -/

namespace Literate.Script

/-- a line of statements may start behind it -/
def LexemeKind.leadsLine : LexemeKind → Bool
  | .newline | .indent | .dedent => true
  | _ => false

/-- comments, and line breaks that end no statement -/
def LexemeKind.isIdle : LexemeKind → Bool
  | .comment | .lineBreak => true
  | _ => false

/-- Nothing but comments and idle line breaks since a line of statements began. -/
def OpensLine (front : List Lexeme) : Prop :=
  ∃ above here, front = above ++ here ∧ (∀ m ∈ above.getLast?, m.kind.leadsLine = true) ∧
    ∀ m ∈ here, m.kind.isIdle = true

/-- an at sign at the start of a line, behind the lexemes in front -/
structure DecoratorSign (front : List Lexeme) (s : Lexeme) : Prop where
  kind : s.kind = .operator
  text : s.text = ['@']
  opens : OpensLine front

/-- No name since the last decorator sign. -/
def AwaitsName (front : List Lexeme) : Prop :=
  ∃ above s here, front = above ++ s :: here ∧ DecoratorSign above s ∧ ∀ m ∈ here, m.kind ≠ .name

/-- A decorator sign is what stands last. -/
def EndsWithSign (front : List Lexeme) : Prop :=
  ∃ above s, front = above ++ [s] ∧ DecoratorSign above s

/-- the name that stands last, if a name does -/
def nameBefore (front : List Lexeme) : Option String :=
  front.getLast?.bind fun l => if l.kind = .name then some (String.ofList l.text) else none

namespace Highlighter

/-- what is known behind some lexemes -/
def after (front : List Lexeme) : Highlighter := front.foldl next {}

end Highlighter

/-- the class of a lexeme behind those in front -/
def classBehind (front : List Lexeme) (l : Lexeme) : String := (Highlighter.after front).classOf l

/-- the token of a lexeme behind those in front -/
def tokenBehind (front : List Lexeme) (l : Lexeme) : Option Token :=
  if classBehind front l ≠ "" ∧ l.span.start ≠ l.span.stop then
    some { span := l.span, mark := { highlight := classBehind front l } }
  else none

variable {front back ls : List Lexeme} {l : Lexeme}

theorem opensLine_nil : OpensLine [] := ⟨[], [], rfl, by simp, by simp⟩

theorem opensLine_snoc : OpensLine (front ++ [l]) ↔
    l.kind.leadsLine = true ∨ (l.kind.isIdle = true ∧ OpensLine front) := by
  constructor
  · rintro ⟨above, here, h, leads, idle⟩
    rcases List.eq_nil_or_concat here with rfl | ⟨here, m, rfl⟩
    · rw [List.append_nil] at h
      exact .inl (leads l (by rw [← h, List.getLast?_concat]; rfl))
    · rw [List.concat_eq_append, ← List.append_assoc] at h
      obtain ⟨rfl, hlm⟩ := List.append_inj' h rfl
      cases hlm
      refine .inr ⟨idle l (by simp), above, here, rfl, leads, ?_⟩
      exact fun m hm => idle m (by simp [hm])
  · rintro (leads | ⟨idle, above, here, rfl, leads, rest⟩)
    · exact ⟨front ++ [l], [], by simp, by simpa using leads, by simp⟩
    · refine ⟨above, here ++ [l], by simp, leads, ?_⟩
      exact List.forall_mem_append.mpr ⟨rest, by simpa using idle⟩

theorem not_awaitsName_nil : ¬ AwaitsName [] := by
  rintro ⟨above, s, here, h, -⟩
  simp at h

theorem awaitsName_snoc : AwaitsName (front ++ [l]) ↔
    l.kind ≠ .name ∧ (AwaitsName front ∨ DecoratorSign front l) := by
  constructor
  · rintro ⟨above, s, here, h, sign, none⟩
    rcases snoc_eq_append_cons h with ⟨rfl, rfl, -⟩ | ⟨here, rfl, rfl⟩
    · exact ⟨by simp [sign.kind], .inr sign⟩
    · exact ⟨none l (by simp), .inl ⟨above, s, here, rfl, sign, fun m hm => none m (by simp [hm])⟩⟩
  · rintro ⟨other, ⟨above, s, here, rfl, sign, none⟩ | sign⟩
    · refine ⟨above, s, here ++ [l], by simp, sign, ?_⟩
      exact List.forall_mem_append.mpr ⟨none, by simpa using other⟩
    · exact ⟨front, l, [], rfl, sign, by simp⟩

theorem EndsWithSign.awaitsName (h : EndsWithSign front) : AwaitsName front := by
  obtain ⟨above, s, rfl, sign⟩ := h
  exact ⟨above, s, [], rfl, sign, by simp⟩

theorem endsWithSign_snoc : EndsWithSign (front ++ [l]) ↔ DecoratorSign front l := by
  constructor
  · rintro ⟨above, s, h, sign⟩
    rcases snoc_eq_append_cons h with ⟨rfl, rfl, -⟩ | ⟨here, last, -⟩
    · exact sign
    · simp at last
  · intro sign
    exact ⟨front, l, rfl, sign⟩

theorem nameBefore_snoc :
    nameBefore (front ++ [l]) = if l.kind = .name then some (String.ofList l.text) else none := by
  rw [nameBefore, List.getLast?_concat]
  rfl

namespace Highlighter

variable {h : Highlighter}

theorem after_snoc (front : List Lexeme) (l : Lexeme) :
    after (front ++ [l]) = (after front).next l := by
  rw [after, List.foldl_append]
  rfl

theorem tokens_append (h : Highlighter) (front back : List Lexeme) :
    h.tokens (front ++ back) = h.tokens front ++ (front.foldl next h).tokens back := by
  induction front generalizing h with
  | nil => rfl
  | cons l front ih =>
    rw [List.cons_append, tokens, tokens, ih]
    split <;> rfl

theorem lineStart_next (h : Highlighter) (l : Lexeme) :
    (h.next l).lineStart = (l.kind.leadsLine || (l.kind.isIdle && h.lineStart)) := by
  rw [next]
  cases l.kind <;> rfl

theorem decorator_next (h : Highlighter) (l : Lexeme) : (h.next l).decorator = true ↔
    l.kind ≠ .name ∧ (h.decorator = true ∨ h.opensDecorator l = true) := by
  rw [next, ite_eq_iff]
  simp

theorem opensDecorator_iff (h : Highlighter) (l : Lexeme) : h.opensDecorator l = true ↔
    l.kind = .operator ∧ l.text = ['@'] ∧ h.lineStart = true := by
  simp [opensDecorator, and_assoc]

theorem lineStart_after (front : List Lexeme) :
    (after front).lineStart = true ↔ OpensLine front := by
  -- from the end, as both sides ask for the last lexeme first
  induction front using List.reverseRecOn with
  | nil => exact iff_of_true rfl opensLine_nil
  | append_singleton front l ih =>
    rw [after_snoc, lineStart_next, opensLine_snoc, Bool.or_eq_true, Bool.and_eq_true, ih]

theorem opensDecorator_after : (after front).opensDecorator l = true ↔ DecoratorSign front l := by
  rw [opensDecorator_iff, lineStart_after]
  exact ⟨fun ⟨kind, text, opens⟩ => ⟨kind, text, opens⟩, fun ⟨kind, text, opens⟩ => ⟨kind, text, opens⟩⟩

theorem decorator_after (front : List Lexeme) :
    (after front).decorator = true ↔ AwaitsName front := by
  induction front using List.reverseRecOn with
  | nil => exact iff_of_false Bool.false_ne_true not_awaitsName_nil
  | append_singleton front l ih =>
    rw [after_snoc, decorator_next, awaitsName_snoc, ih, opensDecorator_after]

theorem before_after (front : List Lexeme) : (after front).before = nameBefore front := by
  rcases List.eq_nil_or_concat front with rfl | ⟨front, l, rfl⟩
  · rfl
  · rw [List.concat_eq_append, after_snoc, nameBefore_snoc]
    rfl

end Highlighter

theorem tokens_snoc (front : List Lexeme) (l : Lexeme) :
    Highlighter.tokens {} (front ++ [l]) =
      Highlighter.tokens {} front ++ (tokenBehind front l).toList := by
  rw [Highlighter.tokens_append, ← Highlighter.after, tokenBehind, Highlighter.tokens, classBehind]
  split <;> rfl

theorem classOfName_ne_decorator (name : String) (before : Option String) :
    classOfName name before ≠ "decorator" := by
  unfold classOfName
  split_ifs <;> decide

theorem classOfName_reserved {name : String} {before : Option String}
    (reserved : reservedWords.contains name = true) (function : before ≠ some "def")
    (type : before ≠ some "class") : classOfName name before = "keyword" := by
  rw [classOfName, if_neg function, if_neg type, if_pos reserved]

instance (front : List Lexeme) (l : Lexeme) : Decidable (DecoratorSign front l) :=
  decidable_of_iff _ Highlighter.opensDecorator_after

instance (front : List Lexeme) : Decidable (AwaitsName front) :=
  decidable_of_iff _ (Highlighter.decorator_after front)

theorem classBehind_operator (h : l.kind = .operator) :
    classBehind front l = if DecoratorSign front l then "decorator" else "operator" := by
  rw [classBehind, Highlighter.classOf, h]
  simp only [Highlighter.opensDecorator_after]

theorem classBehind_operator_eq_decorator (h : l.kind = .operator) :
    classBehind front l = "decorator" ↔ DecoratorSign front l := by
  rw [classBehind_operator h]
  split
  · next sign => exact iff_of_true rfl sign
  · next other => exact iff_of_false (by decide) other

theorem classBehind_name (h : l.kind = .name) : classBehind front l =
    if AwaitsName front then "decorator"
    else classOfName (String.ofList l.text) (nameBefore front) := by
  rw [classBehind, Highlighter.classOf, h, ← Highlighter.before_after]
  simp only [Highlighter.decorator_after]

theorem classBehind_name_eq_decorator (h : l.kind = .name) :
    classBehind front l = "decorator" ↔ AwaitsName front := by
  rw [classBehind_name h]
  split
  · next waits => exact iff_of_true rfl waits
  · next free => exact iff_of_false (classOfName_ne_decorator _ _) free

/-- Of every stream of lexemes, whatever stands in it: an at sign has the class of decorators if it is
the first of its line but for comments, and a name has it if no name stands between it and such a sign.
All other names have their own class, so reserved words that do not follow `def` or `class` are
keywords. The names of this class are just those right behind a sign if and only if each name that comes
first behind a sign stands right behind one. -/
theorem highlight_decorators (ls : List Lexeme) :
    (∀ front l back, ls = front ++ l :: back →
      Highlighter.tokens {} ls = Highlighter.tokens {} front ++ (tokenBehind front l).toList ++
        (Highlighter.after (front ++ [l])).tokens back ∧
      (l.kind = .operator →
        (classBehind front l = "decorator" ↔ DecoratorSign front l) ∧
        (¬ DecoratorSign front l → classBehind front l = "operator")) ∧
      (l.kind = .name →
        (classBehind front l = "decorator" ↔ AwaitsName front) ∧
        (¬ AwaitsName front →
          classBehind front l = classOfName (String.ofList l.text) (nameBefore front) ∧
          (reservedWords.contains (String.ofList l.text) → nameBefore front ≠ some "def" →
            nameBefore front ≠ some "class" → classBehind front l = "keyword")))) ∧
    ((∀ front l back, ls = front ++ l :: back → l.kind = .name →
        (classBehind front l = "decorator" ↔ EndsWithSign front)) ↔
      ∀ front l back, ls = front ++ l :: back → l.kind = .name →
        AwaitsName front → EndsWithSign front) := by
  constructor
  · intro front l back h
    refine ⟨?_, fun hl => ⟨classBehind_operator_eq_decorator hl, fun other => ?_⟩,
      fun hl => ⟨classBehind_name_eq_decorator hl, fun free => ?_⟩⟩
    · rw [h, ← List.singleton_append, ← List.append_assoc, Highlighter.tokens_append, tokens_snoc]
      rfl
    · rw [classBehind_operator hl, if_neg other]
    · rw [classBehind_name hl, if_neg free]
      exact ⟨rfl, classOfName_reserved⟩
  · refine forall₃_congr fun front l back => forall₂_congr fun _ hl => ?_
    rw [classBehind_name_eq_decorator hl]
    exact ⟨Iff.mp, fun h => ⟨h, EndsWithSign.awaitsName⟩⟩

/-- The first name behind the sign stands in brackets. It is a reserved word, and it has the class of
decorators. -/
theorem highlight_lambda_in_brackets :
    ∃ front l back, (lex "@(lambda f: f)\ndef g(): pass\n").items = front ++ l :: back ∧
      l.kind = .name ∧ String.ofList l.text = "lambda" ∧ reservedWords.contains "lambda" = true ∧
      nameBefore front = none ∧ ¬ EndsWithSign front ∧ classBehind front l = "decorator" ∧
      ⟨⟨⟨0, 2⟩, ⟨0, 8⟩⟩, { highlight := "decorator" }⟩ ∈
        (highlight "@(lambda f: f)\ndef g(): pass\n").1 := by
  let sign : Lexeme := ⟨.operator, ['@'], ⟨⟨0, 0⟩, ⟨0, 1⟩⟩, true⟩
  let bracket : Lexeme := ⟨.operator, ['('], ⟨⟨0, 1⟩, ⟨0, 2⟩⟩, false⟩
  let word : Lexeme := ⟨.name, "lambda".toList, ⟨⟨0, 2⟩, ⟨0, 8⟩⟩, false⟩
  refine ⟨[sign] ++ [bracket], word, (lex "@(lambda f: f)\ndef g(): pass\n").items.drop 3,
    by decide +kernel, rfl, rfl, by decide, rfl, ?_, by decide +kernel, by decide +kernel⟩
  rw [endsWithSign_snoc]
  exact fun h => absurd h.text (by decide)

end Literate.Script
