import Literate.Comment.Group
import Literate.Proofs.Tree.Site

/-! The comments found in a well-formed tree: each has its text in the buffer, and they follow one
another, before and after they are grouped. None of them is in the way of another. -/

namespace Literate

/-- spans of the buffer one behind the other -/
structure Spaced {α : Type} (lines : Buffer) (f : α → Span) (as : List α) : Prop where
  within : ∀ a ∈ as, lines.Within (f a)
  ordered : as.Pairwise fun a b => (f a).stop ≤ (f b).start

theorem Spaced.of_cons {α : Type} {lines : Buffer} {f : α → Span} {a : α} {as : List α}
    (h : Spaced lines f (a :: as)) : Spaced lines f as :=
  ⟨fun b hb => h.within b (by simp [hb]), (List.pairwise_cons.mp h.ordered).2⟩

namespace RawComment

variable {source : String} {p : Parsed} {t : Tree}

/-- A comment starts with its node and stops with it or before, and its text is that of its span. -/
theorem ofNode_spec (h : p.Reads source) (ht : t.Sited source.toList) :
    (ofNode p t).span.start = (p.span t).start ∧ p.lines.Within (ofNode p t).span ∧
      (ofNode p t).span.stop ≤ (p.span t).stop ∧
      (ofNode p t).text = p.lines.slice (ofNode p t).span := by
  have hin := h.within ht
  have htext := h.text ht
  unfold ofNode
  simp only
  split
  · exact ⟨rfl, hin, le_rfl, htext⟩
  · obtain ⟨k, hk⟩ := Text.dropTail_prefix (fun c => c == '\r' || c == '\n') (p.text t)
    generalize Text.dropTail (fun c => c == '\r' || c == '\n') (p.text t) = bare at hk ⊢
    have hflat : p.lines.Flat := h.lines ▸ Buffer.flat_ofText source
    have hlen := congrArg List.length hk
    rw [htext, Buffer.length_slice hin.start hin.stop hin.valid, List.length_append] at hlen
    have hle := (Buffer.offset_le_iff hin.start hin.stop).mpr hin.valid
    have hend := Buffer.offset_le_length hin.stop
    -- where the text without its line breaks stops
    obtain ⟨q, hq, hoff⟩ := Buffer.exists_position hin.start.ne_nil
      (i := p.lines.offset (p.span t).start + bare.length) (by omega)
    have hsq : (p.span t).start ≤ q := by
      rw [← Buffer.offset_le_iff hin.start hq]
      omega
    have hqe : q ≤ (p.span t).stop := by
      rw [← Buffer.offset_le_iff hq hin.stop]
      omega
    have slice_eq : p.lines.slice ⟨(p.span t).start, q⟩ = bare := by
      have cut := Buffer.slice_append hin.start hq hin.stop hsq hqe
      have hl := Buffer.length_slice hin.start hq hsq
      have same : p.lines.slice ⟨(p.span t).start, q⟩ ++ p.lines.slice ⟨q, (p.span t).stop⟩ =
          bare ++ k := by
        rw [cut, hk, htext]
      exact (List.append_inj same (by omega)).1
    have stop_eq := Buffer.stop_of_slice hflat hin.start hq hsq
    rw [slice_eq] at stop_eq
    have span_start : (p.span t).start = p.position t.info.start := rfl
    rw [← span_start, ← stop_eq]
    exact ⟨rfl, ⟨hin.start, hq, hsq⟩, hqe, slice_eq.symm⟩

theorem spaced_ofTree (h : p.Reads source) (hw : p.root.WellFormed source.toList) :
    Spaced p.lines RawComment.span (ofTree p) := by
  have sited : ∀ t ∈ p.root.nodes Tree.commentKinds, t.Sited source.toList := fun t ht =>
    (hw.queue.visit t ht).1.sited
  constructor
  · intro c hc
    obtain ⟨t, ht, rfl⟩ := List.mem_map.mp hc
    exact (ofNode_spec h (sited t (List.mem_filter.mp ht).1)).2.1
  · have alone : ((p.root.nodes Tree.commentKinds).filter fun t =>
        t.isComment && startsLine p.bytes t.info.bytes.first).Sublist
          ((p.root.nodes Tree.commentKinds).filter Tree.isComment) :=
      List.monotone_filter_right _ fun t ht => (Bool.and_eq_true_iff.mp ht).1
    have nodes := hw.queue.comments_ordered.sublist alone
    rw [ofTree, List.pairwise_map]
    refine nodes.imp_of_mem fun {t u} ht hu htu => ?_
    have ht := sited t (List.mem_filter.mp ht).1
    have hu := sited u (List.mem_filter.mp hu).1
    obtain ⟨-, -, hstop, -⟩ := ofNode_spec h ht
    obtain ⟨hstart, -, -, -⟩ := ofNode_spec h hu
    exact hstart ▸ hstop.trans (h.stop_le_start ht hu htu)

/-- A group starts and stops where comments do. -/
theorem ends_cons {language : String} {c : RawComment} {g : Group} {gs : List Group}
    (hg : g ∈ cons language c gs) :
    (g.span.start = c.span.start ∨ ∃ k ∈ gs, g.span.start = k.span.start) ∧
      (g.span.stop = c.span.stop ∨ ∃ k ∈ gs, g.span.stop = k.span.stop) := by
  unfold cons at hg
  split at hg
  · rw [List.mem_singleton.mp hg]
    exact ⟨.inl rfl, .inl rfl⟩
  · next k ks =>
    simp only at hg
    split at hg
    · rcases List.mem_cons.mp hg with rfl | hg
      · exact ⟨.inl rfl, .inr ⟨k, by simp, rfl⟩⟩
      · exact ⟨.inr ⟨g, by simp [hg], rfl⟩, .inr ⟨g, by simp [hg], rfl⟩⟩
    · rcases List.mem_cons.mp hg with rfl | hg
      · exact ⟨.inl rfl, .inl rfl⟩
      · exact ⟨.inr ⟨g, hg, rfl⟩, .inr ⟨g, hg, rfl⟩⟩

theorem spaced_cons {lines : Buffer} {language : String} {c : RawComment} {gs : List Group}
    (hc : lines.Within c.span) (hgs : Spaced lines Group.span gs)
    (hle : ∀ g ∈ gs, c.span.stop ≤ g.span.start) :
    Spaced lines Group.span (cons language c gs) := by
  unfold cons
  split
  · exact ⟨by simpa using hc, List.pairwise_singleton _ _⟩
  · next g gs =>
    have hg := hgs.within g (by simp)
    have hord := List.pairwise_cons.mp hgs.ordered
    simp only
    split
    · refine ⟨fun k hk => ?_, List.pairwise_cons.mpr ⟨hord.1, hord.2⟩⟩
      rcases List.mem_cons.mp hk with rfl | hk
      · exact ⟨hc.start, hg.stop, (hc.valid.trans (hle g (by simp))).trans hg.valid⟩
      · exact hgs.within k (by simp [hk])
    · refine ⟨fun k hk => ?_, List.pairwise_cons.mpr ⟨hle, hgs.ordered⟩⟩
      rcases List.mem_cons.mp hk with rfl | hk
      · exact hc
      · exact hgs.within k hk

/-- Grouping keeps the order, and makes no new ends. -/
theorem spaced_foldr {lines : Buffer} (language : String) {cs : List RawComment}
    (h : Spaced lines RawComment.span cs) :
    Spaced lines Group.span (cs.foldr (cons language) []) ∧
      ∀ g ∈ cs.foldr (cons language) [], (∃ c ∈ cs, g.span.start = c.span.start) ∧
        ∃ c ∈ cs, g.span.stop = c.span.stop := by
  induction cs with
  | nil => exact ⟨⟨by simp, List.Pairwise.nil⟩, by simp⟩
  | cons c cs ih =>
    obtain ⟨hgs, hends⟩ := ih h.of_cons
    rw [List.foldr_cons]
    constructor
    · refine spaced_cons (h.within c (by simp)) hgs fun g hg => ?_
      obtain ⟨⟨d, hd, hstart⟩, -⟩ := hends g hg
      exact hstart ▸ (List.pairwise_cons.mp h.ordered).1 d hd
    · intro g hg
      obtain ⟨hstart, hstop⟩ := ends_cons hg
      constructor
      · rcases hstart with hstart | ⟨k, hk, hstart⟩
        · exact ⟨c, by simp, hstart⟩
        · obtain ⟨⟨d, hd, hk⟩, -⟩ := hends k hk
          exact ⟨d, by simp [hd], hstart.trans hk⟩
      · rcases hstop with hstop | ⟨k, hk, hstop⟩
        · exact ⟨c, by simp, hstop⟩
        · obtain ⟨-, d, hd, hk⟩ := hends k hk
          exact ⟨d, by simp [hd], hstop.trans hk⟩

theorem spaced_group {lines : Buffer} (language : String) {cs : List RawComment}
    (h : Spaced lines RawComment.span cs) :
    Spaced lines Comment.span (group language cs) ∧
      ∀ c ∈ group language cs, (∃ r ∈ cs, c.span.start = r.span.start) ∧
        ∃ r ∈ cs, c.span.stop = r.span.stop := by
  obtain ⟨hgs, hends⟩ := spaced_foldr language h
  unfold group
  refine ⟨⟨fun c hc => ?_, ?_⟩, fun c hc => ?_⟩
  · obtain ⟨g, hg, rfl⟩ := List.mem_map.mp hc
    exact hgs.within g hg
  · exact List.pairwise_map.mpr hgs.ordered
  · obtain ⟨g, hg, rfl⟩ := List.mem_map.mp hc
    exact hends g hg

end RawComment

theorem keepComments_go {p : Position} {cs : List Comment} (hp : ∀ c ∈ cs, p ≤ c.span.start)
    (h : cs.Pairwise fun a b => a.span.stop ≤ b.span.start) :
    keepComments.go (some p) cs = (cs, []) := by
  induction cs generalizing p with
  | nil => rfl
  | cons c cs ih =>
    rw [List.pairwise_cons] at h
    rw [keepComments.go, if_neg (hp c (by simp)).not_gt, ih h.1 h.2]
    rfl

theorem keepComments_go_sublist (p : Option Position) (cs : List Comment) :
    (keepComments.go p cs).1.Sublist cs := by
  induction cs generalizing p with
  | nil => exact List.Sublist.slnil
  | cons c cs ih =>
    have kept : (keepComments.keep c (keepComments.go (some c.span.stop) cs)).1.Sublist (c :: cs) :=
      (ih _).cons_cons c
    cases p with
    | none => exact kept
    | some p =>
      rw [keepComments.go]
      split
      · exact (ih _).cons c
      · exact kept

/-- What is kept are some of the comments. -/
theorem keepComments_subset (cs : List Comment) : (keepComments cs).1 ⊆ cs := by
  intro c hc
  exact (sortComments_perm cs).subset ((keepComments_go_sublist none _).subset hc)

/-- Comments in order, each behind the one before it, are all kept. -/
theorem keepComments_of_sorted {cs : List Comment}
    (hs : cs.Pairwise fun a b => a.span.start ≤ b.span.start)
    (h : cs.Pairwise fun a b => a.span.stop ≤ b.span.start) : keepComments cs = (cs, []) := by
  have sorted : sortComments cs = cs := List.mergeSort_of_pairwise (hs.imp decide_eq_true)
  rw [keepComments, sorted]
  cases cs with
  | nil => rfl
  | cons c cs =>
    have hord := List.pairwise_cons.mp h
    rw [keepComments.go, keepComments_go hord.1 hord.2]
    rfl

theorem keepComments_of_spaced {lines : Buffer} {cs : List Comment}
    (h : Spaced lines Comment.span cs) : keepComments cs = (cs, []) := by
  refine keepComments_of_sorted (h.ordered.imp_of_mem fun {a b} ha _ hab => ?_) h.ordered
  exact (h.within a ha).valid.trans hab

end Literate
