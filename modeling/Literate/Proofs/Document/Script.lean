import Literate.Producer
import Literate.Proofs.Assembly.Conservation
import Literate.Proofs.Script.Stream
import Literate.Proofs.Tree.Highlight

/-! Documents from a script that is highlighted and searched for comments by its lexemes. Both read
one stream, so a token is in front of a comment, behind it, or one of the lexemes that the comment is
made of, and nothing is lost, also where the stream stops early. -/

namespace Literate

theorem Spaced.cases {α : Type} {lines : Buffer} {f : α → Span} {as : List α} (h : Spaced lines f as)
    {a b : α} (ha : a ∈ as) (hb : b ∈ as) :
    f a = f b ∨ (f a).stop ≤ (f b).start ∨ (f b).stop ≤ (f a).start := by
  induction as with
  | nil => exact absurd ha List.not_mem_nil
  | cons d as ih =>
    have behind := (List.pairwise_cons.mp h.ordered).1
    rcases List.mem_cons.mp ha with rfl | ha'
    · rcases List.mem_cons.mp hb with rfl | hb'
      · exact .inl rfl
      · exact .inr (.inl (behind b hb'))
    · rcases List.mem_cons.mp hb with rfl | hb'
      · exact .inr (.inr (behind a ha'))
      · exact ih h.of_cons ha' hb'

/-- Each token is apart from a comment or in it, and so is each segment. -/
theorem Grid.compatible_of_tokens {ts : List Token} {cs : List Comment}
    (h : ∀ t ∈ ts, ∀ c ∈ cs, t.span.Apart c.span ∨ c.span.Contains t.span) :
    Compatible (segments ts) cs := by
  refine compatible_of_apart_or_inside fun s hs c hc => ?_
  obtain ⟨-, hne, -⟩ := mem_segments.mp hs
  obtain ⟨t, ht⟩ := List.exists_mem_of_ne_nil _ hne
  rw [covering, List.mem_filter, decide_eq_true_eq] at ht
  obtain ⟨htok, hstart, hstop⟩ := ht
  rcases h t (mem_tokens.mp htok).1 c hc with (hap | hap) | ⟨h₁, h₂⟩
  · exact .inl (.inl (hstop.trans hap))
  · exact .inl (.inr (hap.trans hstart))
  · exact .inr ⟨h₁.trans hstart, hstop.trans h₂⟩

/-- the warning of an assembly that is stuck -/
def Notice.isStalled : Notice → Bool
  | stalled .. => true
  | _ => false

namespace Script

/-- the comments of a stream -/
def commentsOf (language : String) (ls : List Lexeme) : List Comment :=
  RawComment.group language (RawComment.ofLexemes ls)

/-- the segments that the highlighting of a stream asks for -/
def segmentsOf (ls : List Lexeme) : List Segment :=
  partition (sortTokens (Highlighter.tokens {} ls))

variable {lines : Buffer} {ls : List Lexeme} {language : String}

/-- Only what shows has a class. -/
theorem shows_of_classOf {h : Highlighter} {l : Lexeme} (hc : h.classOf l ≠ "") :
    l.kind.shows = true := by
  rw [Highlighter.classOf] at hc
  cases hk : l.kind
  case name | operator | string | number | comment => rfl
  all_goals
    rw [hk] at hc
    exact absurd rfl hc

/-- A token has the span of a lexeme that shows. -/
theorem mem_tokens {h : Highlighter} {t : Token} (ht : t ∈ h.tokens ls) :
    ∃ l ∈ shown ls, t.span = l.span := by
  induction ls generalizing h with
  | nil => exact absurd ht List.not_mem_nil
  | cons l ls ih =>
    have behind (ht : t ∈ (h.next l).tokens ls) : ∃ k ∈ shown (l :: ls), t.span = k.span := by
      obtain ⟨k, hk, hspan⟩ := ih ht
      exact ⟨k, (List.sublist_cons_self l ls).filter _ |>.subset hk, hspan⟩
    rw [Highlighter.tokens] at ht
    split at ht
    · next hc =>
      rcases List.mem_cons.mp ht with rfl | ht
      · exact ⟨l, by simp [shown_cons, shows_of_classOf hc.1], rfl⟩
      · exact behind ht
    · exact behind ht

/-- Comments that stand alone show. -/
theorem alone_sublist (ls : List Lexeme) :
    (ls.filter fun l => l.kind = .comment && l.alone).Sublist (shown ls) := by
  refine List.monotone_filter_right _ fun l hl => ?_
  rw [Bool.and_eq_true, decide_eq_true_eq] at hl
  rw [hl.1]
  rfl

theorem mem_ofLexemes {c : RawComment} (hc : c ∈ RawComment.ofLexemes ls) :
    ∃ l ∈ shown ls, c.span = l.span := by
  obtain ⟨l, hl, rfl⟩ := List.mem_map.mp hc
  exact ⟨l, (alone_sublist ls).subset hl, rfl⟩

theorem spaced_ofLexemes (h : Spaced lines Lexeme.span (shown ls)) :
    Spaced lines RawComment.span (RawComment.ofLexemes ls) := by
  constructor
  · intro c hc
    obtain ⟨l, hl, hspan⟩ := mem_ofLexemes hc
    exact hspan ▸ h.within l hl
  · exact List.pairwise_map.mpr (h.ordered.sublist (alone_sublist ls))

/-- A token and a comment of one stream: the token is apart from the comment, or in it. -/
theorem apart_or_inside (h : Spaced lines Lexeme.span (shown ls)) {t : Token} {c : Comment}
    (ht : t ∈ Highlighter.tokens {} ls) (hc : c ∈ commentsOf language ls) :
    t.span.Apart c.span ∨ c.span.Contains t.span := by
  obtain ⟨-, hends⟩ := RawComment.spaced_group language (spaced_ofLexemes h)
  obtain ⟨⟨r, hr, hstart⟩, r', hr', hstop⟩ := hends c hc
  obtain ⟨l, hl, hspan⟩ := mem_tokens ht
  obtain ⟨m, hm, hm'⟩ := mem_ofLexemes hr
  obtain ⟨n, hn, hn'⟩ := mem_ofLexemes hr'
  rw [Span.Apart, Span.Contains, hstart, hstop, hspan, hm', hn']
  -- in front of the first lexeme of the comment, behind the last one, or from the one to the other
  have after_first : m.span.start ≤ l.span.start ∨ l.span.stop ≤ m.span.start := by
    rcases h.cases hl hm with heq | hle | hle
    · exact .inl (heq ▸ le_rfl)
    · exact .inr hle
    · exact .inl ((h.within m hm).valid.trans hle)
  have before_last : l.span.stop ≤ n.span.stop ∨ n.span.stop ≤ l.span.start := by
    rcases h.cases hl hn with heq | hle | hle
    · exact .inl (heq ▸ le_rfl)
    · exact .inl (hle.trans (h.within n hn).valid)
    · exact .inr hle
  rcases after_first with hstart | hstop
  · rcases before_last with hstop | hstart'
    · exact .inr ⟨hstart, hstop⟩
    · exact .inl (.inr hstart')
  · exact .inl (.inl hstop)

theorem spaced_commentsOf (h : Spaced lines Lexeme.span (shown ls)) (language : String) :
    Spaced lines Comment.span (commentsOf language ls) :=
  (RawComment.spaced_group language (spaced_ofLexemes h)).1

/-- No comment of a stream is dropped. -/
theorem keepComments_stream (h : Spaced lines Lexeme.span (shown ls)) (language : String) :
    keepComments (commentsOf language ls) = (commentsOf language ls, []) :=
  keepComments_of_spaced (spaced_commentsOf h language)

/-- The segments and the comments of a stream. -/
theorem ordered_stream (h : Spaced lines Lexeme.span (shown ls)) (language : String) :
    Ordered lines (segmentsOf ls) (commentsOf language ls) := by
  have hc := spaced_commentsOf h language
  rw [segmentsOf, Grid.partition_eq]
  refine Grid.ordered_segments (fun t ht => ?_) hc.within hc.ordered
  obtain ⟨l, hl, hspan⟩ := mem_tokens ht
  exact hspan ▸ h.within l hl

/-- Nothing of a stream is lost. -/
theorem assemble_stream (hne : lines ≠ []) (h : Spaced lines Lexeme.span (shown ls))
    (language : String) :
    Lossless lines (commentsOf language ls)
      (assemble lines (segmentsOf ls) (commentsOf language ls)) := by
  refine (assemble_lossless_iff hne (ordered_stream h language)).mpr ?_
  rw [segmentsOf, Grid.partition_eq]
  exact Grid.compatible_of_tokens fun t ht c hc => apart_or_inside h ht hc

end Script

section

variable {grammars : Grammars} {source : String} {l : Language.Known}

open Script

/-- All comments are kept. Where the stream stops early there are warnings, in front of those of the
assembly. -/
theorem buildDocument_script (grammars : Grammars) (source name : String) {l : Language.Known}
    (hl : Language.isPython l.val = true) :
    ∃ ms, (∀ n ∈ ms, n.isStalled = false) ∧
      buildDocument grammars source name [.lexemes] { language := some l } =
        (.ok (assembleDocument (Buffer.ofText source) (segmentsOf (lex source).items)
            (commentsOf l.val (lex source).items) name).1,
          ms ++ (assembleDocument (Buffer.ofText source) (segmentsOf (lex source).items)
            (commentsOf l.val (lex source).items) name).2) := by
  have kept := keepComments_stream (spaced_lex source) l.val
  let why := (lex source).interruption.toList
  let found := (RawComment.ofLexemes (lex source).items).length
  let shaded := (Highlighter.tokens {} (lex source).items).length
  have tokens : Producer.gather grammars source [.lexemes] =
      (.ok (Highlighter.tokens {} (lex source).items), why.map (.highlightingStopped shaded)) := by
    simp [Producer.gather, Producer.tokens, highlight, why, shaded]
  have comments : Prose.comments { language := some l } grammars source =
      .ok (commentsOf l.val (lex source).items, why.map (.commentsStopped found)) := by
    simp [Prose.comments, extractComments, hl, commentsOf, why, found]
  refine ⟨why.map (.commentsStopped found) ++ why.map (.highlightingStopped shaded), ?_, ?_⟩
  · intro n hn
    rcases List.mem_append.mp hn with hn | hn
    · obtain ⟨_, -, rfl⟩ := List.mem_map.mp hn
      rfl
    · obtain ⟨_, -, rfl⟩ := List.mem_map.mp hn
      rfl
  · rw [buildDocument, tokens, comments]
    simp only [kept, segmentsOf, List.append_nil]

/-- A script in Python. Of every stream of lexemes that lie in the buffer one behind the other, each
token is apart from each comment or in it, all comments are kept, and the assembly loses nothing; and
such is the stream of the script. So its document is built, all comments are prose, the listings have
all other text that is not blank, and there is no warning of an assembly that is stuck. -/
theorem buildDocument_script_lossless (grammars : Grammars) (source name : String)
    {l : Language.Known} (hl : Language.isPython l.val = true) :
    (∀ ls, Spaced (Buffer.ofText source) Lexeme.span (shown ls) →
      (∀ t ∈ Highlighter.tokens {} ls, ∀ c ∈ commentsOf l.val ls,
        t.span.Apart c.span ∨ c.span.Contains t.span) ∧
      keepComments (commentsOf l.val ls) = (commentsOf l.val ls, []) ∧
      Lossless (Buffer.ofText source) (commentsOf l.val ls)
        (assemble (Buffer.ofText source) (segmentsOf ls) (commentsOf l.val ls))) ∧
    Spaced (Buffer.ofText source) Lexeme.span (shown (lex source).items) ∧
    ∃ d ns, buildDocument grammars source name [.lexemes] { language := some l } = (.ok d, ns) ∧
      Lossless (Buffer.ofText source) (commentsOf l.val (lex source).items)
        (d.blocks, ns.filter Notice.isStalled) := by
  have hne := Buffer.ofText_ne_nil source
  have hlex := spaced_lex source
  obtain ⟨ms, hms, hbuild⟩ := buildDocument_script grammars source name hl
  have whole := assemble_stream hne hlex l.val
  refine ⟨fun ls h => ⟨fun t ht c hc => apart_or_inside h ht hc, keepComments_stream h l.val,
    assemble_stream hne h l.val⟩, hlex, _, _, hbuild, ?_, whole.prose, whole.code⟩
  have silent : (assembleDocument (Buffer.ofText source) (segmentsOf (lex source).items)
      (commentsOf l.val (lex source).items) name).2 = [] := whole.notices
  rw [silent, List.append_nil, List.filter_eq_nil_iff]
  exact fun n hn => by simp [hms n hn]

end

/-- A comment of two lines, a comment behind code, a number sign in a string, and a bracket that is
still open at the end. -/
theorem buildDocument_script_open_bracket :
    ∃ d ns, buildDocument {} "# a\n# b\nx = ('#' # c\n" "f" [.lexemes]
        { language := some ⟨"py", by decide⟩ } = (.ok d, ns) ∧
      Lossless (Buffer.ofText "# a\n# b\nx = ('#' # c\n") [⟨⟨⟨0, 0⟩, ⟨1, 3⟩⟩, "a\nb"⟩]
        (d.blocks, ns.filter Notice.isStalled) := by
  have found : Script.commentsOf "py" (Script.lex "# a\n# b\nx = ('#' # c\n").items =
      [⟨⟨⟨0, 0⟩, ⟨1, 3⟩⟩, "a\nb"⟩] := by cbv
  exact found ▸ (@buildDocument_script_lossless {} "# a\n# b\nx = ('#' # c\n" "f"
    ⟨"py", by decide⟩ (by decide)).2.2

end Literate
