import Literate.Producer
import Literate.Proofs.Assembly.Parallel
import Literate.Proofs.Partition.Reorder

/-! Producers in another order. They find the same tokens in another order, so the document is the same
but for what wins, and comes first, among tokens that cover the very same text. -/

namespace Literate

namespace Grid

variable {ts us : List Token}

/-- Both classes are empty or none is, so that a run is decorated the same way. -/
theorem Alike.decoration {a b : Segment} (h : Alike ts us a b) :
    Decoration.ofMark a.mark = Decoration.ofMark b.mark := by
  have empty_iff : a.mark.highlight = [] ↔ b.mark.highlight = [] := by
    rw [h.left, h.right]
    simp only [Mark.total, Mark.lastFull_eq_empty, List.mem_map, forall_exists_index, and_imp,
      forall_apply_eq_imp_iff₂]
    constructor
    · intro hs t ht
      exact hs t (h.told.perm.mem_iff.mpr ht)
    · intro hs t ht
      exact hs t (h.told.perm.mem_iff.mp ht)
  unfold Decoration.ofMark
  simp only [h.isDefinition, h.isReference, ne_eq, empty_iff]

theorem faithful_alike (ts us : List Token) : Segment.Faithful (Alike ts us) :=
  ⟨fun _ _ h => h.span, fun _ _ h => h.decoration⟩

end Grid

namespace Producer

variable {grammars : Grammars} {source : String} {p : Producer} {ps qs : List Producer}
  {ts : List Token} {ns : List Notice}

theorem gather_eq_ok_cons : gather grammars source (p :: ps) = (.ok ts, ns) ↔
    ∃ found ms rest ks, p.tokens grammars source = .ok (found, ms) ∧
      gather grammars source ps = (.ok rest, ks) ∧ ts = found ++ rest ∧ ns = ms ++ ks := by
  rw [gather]
  generalize gather grammars source ps = r
  obtain ⟨rest, ks⟩ := r
  cases p.tokens grammars source with
  | error e => simp
  | ok found =>
    cases rest with
    | error e => simp
    | ok rest =>
      obtain ⟨found, ms⟩ := found
      simp only [Prod.mk.injEq, Except.ok.injEq]
      constructor
      · rintro ⟨rfl, rfl⟩
        exact ⟨found, ms, rest, ks, ⟨rfl, rfl⟩, ⟨rfl, rfl⟩, rfl, rfl⟩
      · rintro ⟨_, _, _, _, ⟨rfl, rfl⟩, ⟨rfl, rfl⟩, rfl, rfl⟩
        exact ⟨rfl, rfl⟩

/-- In another order the producers find the same, in another order. -/
theorem gather_of_perm (h : ps.Perm qs) (hp : gather grammars source ps = (.ok ts, ns)) :
    ∃ us ms, gather grammars source qs = (.ok us, ms) ∧ ts.Perm us ∧ ns.Perm ms := by
  induction h generalizing ts ns with
  | nil => exact ⟨ts, ns, hp, .refl _, .refl _⟩
  | cons p _ ih =>
    obtain ⟨found, ms, rest, ks, htokens, hrest, rfl, rfl⟩ := gather_eq_ok_cons.mp hp
    obtain ⟨rest', ks', hrest', tokens, notices⟩ := ih hrest
    exact ⟨found ++ rest', ms ++ ks',
      gather_eq_ok_cons.mpr ⟨found, ms, rest', ks', htokens, hrest', rfl, rfl⟩,
      tokens.append_left found, notices.append_left ms⟩
  | swap p q ps =>
    obtain ⟨found, ms, rest, ks, htokens, hrest, rfl, rfl⟩ := gather_eq_ok_cons.mp hp
    obtain ⟨found', ms', rest', ks', htokens', hrest', rfl, rfl⟩ := gather_eq_ok_cons.mp hrest
    refine ⟨found' ++ (found ++ rest'), ms' ++ (ms ++ ks'), ?_, ?_, ?_⟩
    · have behind := gather_eq_ok_cons.mpr ⟨found, ms, rest', ks', htokens, hrest', rfl, rfl⟩
      exact gather_eq_ok_cons.mpr ⟨found', ms', _, _, htokens', behind, rfl, rfl⟩
    · rw [← List.append_assoc, ← List.append_assoc]
      exact List.perm_append_comm.append_right rest'
    · rw [← List.append_assoc, ← List.append_assoc]
      exact List.perm_append_comm.append_right ks'
  | trans _ _ ih₁ ih₂ =>
    obtain ⟨us, ms, hu, tokens, notices⟩ := ih₁ hp
    obtain ⟨vs, ks, hv, tokens', notices'⟩ := ih₂ hu
    exact ⟨vs, ks, hv, tokens.trans tokens', notices.trans notices'⟩

end Producer

section

variable {grammars : Grammars} {source name : String} {ps qs : List Producer} {prose : Prose}
  {d : Document} {ns : List Notice}

theorem buildDocument_eq_ok : buildDocument grammars source name ps prose = (.ok d, ns) ↔
    ∃ ts ks cs ms, Producer.gather grammars source ps = (.ok ts, ks) ∧
      prose.comments grammars source = .ok (cs, ms) ∧
      d = (assembleDocument (Buffer.ofText source) (partition (sortTokens ts)) (keepComments cs).1
        name).1 ∧
      ns = ms ++ ks ++ (keepComments cs).2 ++
        (assembleDocument (Buffer.ofText source) (partition (sortTokens ts)) (keepComments cs).1
          name).2 := by
  rw [buildDocument]
  generalize Producer.gather grammars source ps = r
  obtain ⟨ts, ks⟩ := r
  cases prose.comments grammars source with
  | error e => simp
  | ok found =>
    cases ts with
    | error e => simp
    | ok ts =>
      obtain ⟨cs, ms⟩ := found
      simp only [Prod.mk.injEq, Except.ok.injEq]
      constructor
      · rintro ⟨rfl, rfl⟩
        exact ⟨ts, ks, cs, ms, ⟨rfl, rfl⟩, ⟨rfl, rfl⟩, rfl, rfl⟩
      · rintro ⟨_, _, _, _, ⟨rfl, rfl⟩, ⟨rfl, rfl⟩, rfl, rfl⟩
        exact ⟨rfl, rfl⟩

/-- Producers in another order give a document with the same texts, in which segments differ at most by
what the tokens of one span are told apart by; with the ties kept it is the same document. -/
theorem buildDocument_of_perm (h : ps.Perm qs)
    (hb : buildDocument grammars source name ps prose = (.ok d, ns)) :
    ∃ ts us d' ns', (Producer.gather grammars source ps).1 = .ok ts ∧
      (Producer.gather grammars source qs).1 = .ok us ∧ ts.Perm us ∧
      buildDocument grammars source name qs prose = (.ok d', ns') ∧
      List.Forall₂ (Block.Match (Grid.Alike ts us)) d.blocks d'.blocks ∧ d'.source = d.source ∧
      d'.lineCount = d.lineCount ∧ ns.Perm ns' ∧ (KeepsTies ts us → d' = d) := by
  obtain ⟨ts, ks, cs, ms, hgather, hprose, rfl, rfl⟩ := buildDocument_eq_ok.mp hb
  obtain ⟨us, ks', hgather', tokens, notices⟩ := Producer.gather_of_perm h hgather
  obtain ⟨alike, same⟩ := partition_of_perm tokens
  obtain ⟨blocks, stalls⟩ := assemble_match (Grid.faithful_alike ts us) (Buffer.ofText source) alike
    (keepComments cs).1
  refine ⟨ts, us, _, _, congrArg Prod.fst hgather, congrArg Prod.fst hgather', tokens,
    buildDocument_eq_ok.mpr ⟨us, ks', cs, ms, hgather', hprose, rfl, rfl⟩, blocks, rfl, rfl, ?_, ?_⟩
  · rw [assembleDocument, assembleDocument, ← stalls]
    exact ((notices.append_left ms).append_right _).append_right _
  · intro ties
    rw [same ties]

end

/-- The order of tokens decides nothing but ties: in another order they make the same segments, up to
what wins and comes first among tokens of one span. So the producers of a document may come in any
order. -/
theorem order_of_tokens :
    (∀ ts us : List Token, ts.Perm us →
      List.Forall₂ (Grid.Alike ts us) (partition (sortTokens ts)) (partition (sortTokens us)) ∧
        (KeepsTies ts us → partition (sortTokens ts) = partition (sortTokens us))) ∧
    ∀ grammars source name ps qs prose d ns, ps.Perm qs →
      buildDocument grammars source name ps prose = (.ok d, ns) →
      ∃ ts us d' ns', (Producer.gather grammars source ps).1 = .ok ts ∧
        (Producer.gather grammars source qs).1 = .ok us ∧ ts.Perm us ∧
        buildDocument grammars source name qs prose = (.ok d', ns') ∧
        List.Forall₂ (Block.Match (Grid.Alike ts us)) d.blocks d'.blocks ∧ d'.source = d.source ∧
        d'.lineCount = d.lineCount ∧ ns.Perm ns' ∧ (KeepsTies ts us → d' = d) := by
  constructor
  · intro ts us h
    exact partition_of_perm h
  · intro grammars source name ps qs prose d ns h hb
    exact buildDocument_of_perm h hb

/-! Two tokens on one span, and an empty one inside of it. -/

namespace Ties

def first : Token := ⟨⟨⟨0, 0⟩, ⟨0, 2⟩⟩, { symbol := "a", doc := ["x"] }⟩

def second : Token := ⟨⟨⟨0, 0⟩, ⟨0, 2⟩⟩, { symbol := "b", doc := ["y"] }⟩

def cut : Token := ⟨⟨⟨0, 1⟩, ⟨0, 1⟩⟩, {}⟩

/-- both halves of the span, with one mark -/
def halves (m : Mark) : List Segment := [⟨⟨⟨0, 0⟩, ⟨0, 1⟩⟩, m⟩, ⟨⟨⟨0, 1⟩, ⟨0, 2⟩⟩, m⟩]

theorem keepsTies_cut : KeepsTies [cut, first, second] [first, cut, second] := by
  intro s hs
  have hcut : cut.span ≠ s := by
    rintro rfl
    exact lt_irrefl _ hs
  simp [List.filter_cons, hcut]

end Ties

open Ties in
/-- Where the two change places the other symbol wins and the documentation turns round; where only the
empty one moves nothing changes. -/
theorem order_of_tokens_tied :
    [cut, first, second].Perm [second, cut, first] ∧
    List.Forall₂ (Grid.Alike [cut, first, second] [second, cut, first])
      (halves { symbol := "b", doc := ["x", "y"] }) (halves { symbol := "a", doc := ["y", "x"] }) ∧
    partition (sortTokens [cut, first, second]) = halves { symbol := "b", doc := ["x", "y"] } ∧
    partition (sortTokens [cut, first, second]) = partition (sortTokens [first, cut, second]) ∧
    ∃ d' ns', buildDocument {} "ab" "f" [.elsewhere "r" (.ok [second]), .elsewhere "l" (.ok [first])] {} =
        (.ok d', ns') ∧
      List.Forall₂ (Block.Match (Grid.Alike [first, second] [second, first]))
        [.code [.annotated "ab" ⟨⟨⟨0, 0⟩, ⟨0, 2⟩⟩, { symbol := "b", doc := ["x", "y"] }⟩ .plain]]
        d'.blocks := by
  have perm : [cut, first, second].Perm [second, cut, first] := by decide
  have left : partition (sortTokens [cut, first, second]) =
      halves { symbol := "b", doc := ["x", "y"] } := by cbv
  have right : partition (sortTokens [second, cut, first]) =
      halves { symbol := "a", doc := ["y", "x"] } := by cbv
  obtain ⟨alike, -⟩ := order_of_tokens.1 _ _ perm
  obtain ⟨-, same⟩ := order_of_tokens.1 [cut, first, second] [first, cut, second] (by decide)
  have built : buildDocument {} "ab" "f"
      [.elsewhere "l" (.ok [first]), .elsewhere "r" (.ok [second])] {} =
      (.ok ⟨[.code [.annotated "ab" ⟨⟨⟨0, 0⟩, ⟨0, 2⟩⟩, { symbol := "b", doc := ["x", "y"] }⟩ .plain]],
        "f", 1⟩, []) := by cbv
  obtain ⟨ts, us, d', ns', hts, hus, -, hd, blocks, -⟩ :=
    order_of_tokens.2 _ _ _ _ _ _ _ _ (List.Perm.swap _ _ []) built
  obtain rfl := Except.ok.inj hts
  obtain rfl := Except.ok.inj hus
  exact ⟨perm, left ▸ right ▸ alike, left, same keepsTies_cut, d', ns', hd, blocks⟩

end Literate
