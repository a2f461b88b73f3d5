import Literate.Proofs.Comment.Order
import Literate.Proofs.Document.Origin
import Literate.Proofs.Render.Whole

/-! Where halves of surrogate pairs come into a document: by the tokens and the comments that are made
elsewhere, and by the texts that document definitions. Everything else is made of characters. -/

namespace Literate

namespace Mark

theorem whole_empty : Mark.Whole {} := ⟨whole_nil, whole_nil, by simp⟩

theorem Whole.add {a b : Mark} (ha : a.Whole) (hb : b.Whole) : (a.add b).Whole where
  symbol := by
    rw [Mark.add]
    dsimp only
    split_ifs
    exacts [ha.symbol, hb.symbol]
  highlight := by
    rw [Mark.add]
    dsimp only
    split_ifs
    exacts [ha.highlight, hb.highlight]
  doc w hw := (List.mem_append.mp hw).elim (ha.doc w) (hb.doc w)

theorem whole_merge {as : List Mark} (h : ∀ a ∈ as, a.Whole) : (merge as).Whole :=
  List.foldlRecOn as add whole_empty fun _ hb a ha => hb.add (h a ha)

theorem whole_class (c : String) : Mark.Whole { highlight := c } :=
  ⟨whole_nil, whole_codes c, by simp⟩

end Mark

theorem Grid.whole_of_mem_partition {ts : List Token} (h : ∀ t ∈ ts, t.mark.Whole) :
    ∀ x ∈ partition (sortTokens ts), x.mark.Whole := by
  intro x hx
  rw [Grid.partition_eq] at hx
  obtain ⟨c, -, hc⟩ := List.mem_filterMap.mp hx
  rw [segment?] at hc
  split at hc
  · cases hc
  · cases hc
    refine Mark.whole_merge (List.forall_mem_map.mpr fun t ht => h t ?_)
    exact (mem_tokens.mp (List.mem_of_mem_filter ht)).1

theorem whole_assembleDocument (lines : Buffer) (xs : List Segment) (cs : List Comment)
    (name : String) (hx : ∀ x ∈ xs, x.mark.Whole) (hc : ∀ c ∈ cs, Whole c.content) :
    (assembleDocument lines xs cs name).1.Whole := by
  intro b hb
  change b ∈ (assembleUpTo lines lines.last xs cs).1 at hb
  cases b with
  | code rs =>
    intro r hr
    cases r with
    | text t => trivial
    | annotated t x d =>
      obtain ⟨ys, hys, hd⟩ := decorated_blocks lines lines.last xs cs
      have among : Run.annotated t x d ∈ decorated (assembleUpTo lines lines.last xs cs).1 :=
        List.mem_flatMap.mpr ⟨_, hb, List.mem_filter.mpr ⟨hr, rfl⟩⟩
      rw [hd] at among
      obtain ⟨y, hy, hrun⟩ := List.mem_map.mp among
      cases hrun
      exact hx _ (hys.subset hy)
  | prose s =>
    have among : s ∈ proseOf (assembleUpTo lines lines.last xs cs).1 :=
      List.mem_filterMap.mpr ⟨_, hb, rfl⟩
    obtain ⟨c, hmem, rfl⟩ := List.mem_map.mp ((proseOf_blocks lines lines.last xs cs).subset among)
    exact hc c hmem

namespace Script

variable {s : Wording}

theorem whole_expandTabs (h : Literate.Whole s) : Literate.Whole (expandTabs s) := by
  have from_column (column : Nat) : Literate.Whole (expandTabs.go column s) := by
    induction s generalizing column with
    | nil => exact whole_nil
    | cons c s ih =>
      obtain ⟨hc, hs⟩ := whole_cons.mp h
      rw [expandTabs.go]
      split_ifs
      · refine whole_append.mpr ⟨fun d hd => ?_, ih hs _⟩
        rw [List.eq_of_mem_replicate hd]
        rfl
      · exact whole_cons.mpr ⟨hc, ih hs _⟩
      · exact whole_cons.mpr ⟨hc, ih hs _⟩
  exact from_column 0

theorem whole_cleanDoc (h : Literate.Whole s) : Literate.Whole (cleanDoc s) := by
  have lines : ∀ l ∈ Text.splitAt (.char '\n') (expandTabs s), Literate.Whole l := fun l hl =>
    (whole_expandTabs h).subset (Text.subset_of_mem_splitAt hl)
  -- lines are shortened and left out
  rw [cleanDoc]
  refine (whole_codes _).joinWith fun l hl => ?_
  have kept := List.dropWhile_subset _
    (List.mem_reverse.mp (List.dropWhile_subset _ (List.mem_reverse.mp hl)))
  split at kept
  · exact absurd kept List.not_mem_nil
  · next first rest hlines =>
    rw [hlines] at lines
    obtain ⟨hfirst, hrest⟩ := List.forall_mem_cons.mp lines
    rcases List.mem_cons.mp kept with rfl | kept
    · exact hfirst.subset (List.dropWhile_subset _)
    · obtain ⟨m, hm, rfl⟩ := List.mem_map.mp kept
      exact (hrest m hm).subset (List.drop_subset _ m)

/-- no code point of the text that documents a definition is a half -/
def Definition.Whole (d : Definition) : Prop := Literate.Whole ((d.doc.getD []).map Code.ofNat)

theorem Definition.whole_docText {d : Definition} {doc : List Wording} (hd : d.Whole)
    (h : d.docText = .ok doc) : ∀ w ∈ doc, Literate.Whole w := by
  rw [docText] at h
  obtain ⟨signature, -, h⟩ := bind_eq_ok.mp h
  cases h
  refine List.forall_mem_cons.mpr ⟨whole_codes signature, ?_⟩
  split
  · simp
  · exact List.forall_mem_singleton.mpr (whole_cleanDoc hd)

/-- no definition of a script is documented by a text with halves -/
def DocumentedWhole (source : String) : Prop :=
  ∀ o, Outline.ofSource source = .ok o → ∀ x ∈ o.sites, x.definition.Whole

theorem whole_symbols {source : String} {ts : List Token} (hsource : DocumentedWhole source)
    (h : symbols source = .ok ts) : ∀ t ∈ ts, t.mark.Whole := by
  unfold symbols at h
  split at h
  · cases h
  · next o ho =>
    obtain ⟨ls, refs, rfl, hls, hrefs⟩ := symbolsOf_eq_ok.mp h
    have located : ∀ l ∈ ls, ∀ w ∈ l.doc, Literate.Whole w := by
      intro l hl
      obtain ⟨x, hx, found⟩ := exists_of_mem_right hls hl
      exact Definition.whole_docText (hsource o ho x (List.mem_of_mem_filter hx)) found.doc
    refine List.forall_mem_append.mpr ⟨List.forall_mem_map.mpr fun l hl => ?_, fun t ht => ?_⟩
    · exact ⟨whole_codes _, whole_nil, located l hl⟩
    · obtain ⟨u, -, refers⟩ := exists_of_mem_right hrefs ht
      obtain ⟨l, outermost, hmark⟩ := refers.target
      rw [hmark]
      exact ⟨whole_codes _, whole_nil, located l outermost.mem⟩

theorem Highlighter.whole_tokens {h : Highlighter} {ls : List Lexeme} :
    ∀ t ∈ h.tokens ls, t.mark.Whole := by
  induction ls generalizing h with
  | nil => simp [tokens]
  | cons l ls ih =>
    rw [tokens]
    split_ifs
    · exact List.forall_mem_cons.mpr ⟨Mark.whole_class _, ih⟩
    · exact ih

end Script

namespace Producer

variable {grammars : Grammars} {source : String} {p : Producer} {ts : List Token} {ns : List Notice}

/-- What a producer makes of a source holds no halves. -/
def Whole (source : String) : Producer → Prop
  | symbols => Script.DocumentedWhole source
  | elsewhere _ (.ok ts) => ∀ t ∈ ts, t.mark.Whole
  | _ => True

theorem whole_tokens (hp : p.Whole source) (h : p.tokens grammars source = .ok (ts, ns)) :
    ∀ t ∈ ts, t.mark.Whole := by
  cases p with
  | lexemes =>
    have found : Script.highlight source = (ts, ns) := Except.ok.inj h
    have tokens : Script.Highlighter.tokens {} (Script.lex source).items = ts := congrArg Prod.fst found
    exact tokens ▸ Script.Highlighter.whole_tokens
  | symbols =>
    rw [tokens] at h
    split at h
    · next found =>
      cases h
      exact Script.whole_symbols hp found
    · cases h
  | tree l =>
    rw [tokens] at h
    split at h
    · cases h
      exact List.forall_mem_map.mpr fun _ _ => Mark.whole_class _
    · cases h
  | elsewhere label found =>
    cases found with
    | ok us =>
      cases h
      exact hp
    | error reason => cases h

end Producer

/-- no halves in the strings of a file with annotations -/
structure AnnotationFile.Whole (f : AnnotationFile) : Prop where
  tokens : ∀ t ∈ f.tokenList, t.mark.Whole
  comments : ∀ c ∈ f.commentList, Literate.Whole c.content

theorem RawComment.whole_group (language : String) (cs : List RawComment) :
    ∀ c ∈ group language cs, Whole c.content :=
  List.forall_mem_map.mpr fun _ _ => whole_codes _

theorem whole_extractComments {grammars : Grammars} {language source : String} {cs : List Comment}
    {ns : List Notice} (h : extractComments grammars language source = .ok (cs, ns)) :
    ∀ c ∈ cs, Whole c.content := by
  unfold extractComments at h
  split at h
  · cases h
    exact RawComment.whole_group _ _
  · split at h
    · cases h
    · cases h
      exact RawComment.whole_group _ _

theorem Prose.whole_comments {prose : Prose} {grammars : Grammars} {source : String}
    {found : List Comment × List Notice} (hprose : ∀ c ∈ prose.extra, Whole c.content)
    (h : prose.comments grammars source = .ok found) : ∀ c ∈ found.1, Whole c.content := by
  unfold comments at h
  split at h
  · cases h
    exact hprose
  · split at h
    · next extracted =>
      cases h
      exact List.forall_mem_append.mpr ⟨whole_extractComments extracted, hprose⟩
    · cases h

/-- A document without halves, where none come from elsewhere or from docstrings. -/
theorem whole_buildDocument {grammars : Grammars} {source name : String} {ps : List Producer}
    {prose : Prose} {d : Document} (hps : ∀ p ∈ ps, p.Whole source)
    (hprose : ∀ c ∈ prose.extra, Whole c.content)
    (h : (buildDocument grammars source name ps prose).1 = .ok d) : d.Whole := by
  rw [buildDocument_eq] at h
  obtain ⟨found, hfound, h⟩ := bind_eq_ok.mp h
  obtain ⟨ts, htokens, h⟩ := bind_eq_ok.mp h
  cases h
  refine whole_assembleDocument _ _ _ _ (Grid.whole_of_mem_partition fun t ht => ?_) fun c hc => ?_
  · obtain ⟨p, hp, us, ns, made, ht⟩ := Producer.exists_of_mem_gather htokens ht
    exact Producer.whole_tokens (hps p hp) made t ht
  · exact prose.whole_comments hprose hfound c (keepComments_subset _ hc)

end Literate
