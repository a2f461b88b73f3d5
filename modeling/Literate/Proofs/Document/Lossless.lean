import Literate.Producer
import Literate.Proofs.Assembly.Conservation
import Literate.Proofs.Comment.Order
import Literate.Proofs.Tree.Highlight

/-! Documents from a tree that is highlighted and searched for comments. Two walks over one tree
give the tokens and the comments, and nothing is lost as long as they agree on where a comment ends.
They do not agree on a comment that takes its line break along, or that stands inside a string. -/

namespace Literate

namespace Parsed

/-- the nodes that become comments -/
def commentNodes (p : Parsed) : List Tree :=
  (p.root.nodes Tree.commentKinds).filter fun t =>
    t.isComment && startsLine p.bytes t.info.bytes.first

/-- the comments in the language -/
def comments (p : Parsed) (language : String) : List Comment :=
  RawComment.group language (RawComment.ofTree p)

/-- the segments that the highlighting asks for -/
def segments (p : Parsed) : List Segment := partition (sortTokens (Tree.highlight p))

variable {source : String} {p : Parsed}

theorem Reads.ordered (h : p.Reads source) (hw : p.root.WellFormed source.toList)
    (language : String) : Ordered p.lines p.segments (p.comments language) := by
  obtain ⟨hc, -⟩ := RawComment.spaced_group language (RawComment.spaced_ofTree h hw)
  rw [segments, Grid.partition_eq]
  exact Grid.ordered_segments (fun t ht => (Tree.within_highlight h hw t ht).1) hc.within hc.ordered

/-- A node that does not end in a line break is a comment as it stands. -/
theorem span_ofNode {u : Tree} (hu : ∀ c ∈ (p.text u).getLast?, c ≠ '\r' ∧ c ≠ '\n') :
    (RawComment.ofNode p u).span = p.span u := by
  have bare : Text.dropTail (fun c => c == '\r' || c == '\n') (p.text u) = p.text u := by
    cases hr : (p.text u).reverse with
    | nil => rw [Text.dropTail, hr, List.reverse_eq_nil_iff.mp hr]; rfl
    | cons c cs =>
      have hlast : (p.text u).getLast? = some c := by rw [List.getLast?_eq_head?_reverse, hr]; rfl
      obtain ⟨h₁, h₂⟩ := hu c hlast
      rw [Text.dropTail, hr, List.dropWhile_cons_of_neg (by simp [h₁, h₂]), ← hr,
        List.reverse_reverse]
  rw [RawComment.ofNode]
  simp only [if_pos bare]

/-- Where every comment is highlighted, line break or not, no segment reaches over its ends. -/
theorem Reads.compatible (h : p.Reads source) (hw : p.root.WellFormed source.toList)
    (language : String)
    (hc : ∀ u ∈ p.commentNodes, (u, "comment") ∈ Tree.classified {} [p.root] ∧
      ∀ c ∈ (p.text u).getLast?, c ≠ '\r' ∧ c ≠ '\n') :
    Compatible p.segments (p.comments language) := by
  obtain ⟨-, hends⟩ := RawComment.spaced_group language (RawComment.spaced_ofTree h hw)
  have points : ∀ r ∈ RawComment.ofTree p,
      r.span.start ∈ Grid.points (Grid.tokens (Tree.highlight p)) ∧
        r.span.stop ∈ Grid.points (Grid.tokens (Tree.highlight p)) := by
    intro r hr
    obtain ⟨u, hu, rfl⟩ := List.mem_map.mp hr
    obtain ⟨hmem, htext⟩ := hc u hu
    rw [span_ofNode htext]
    exact Tree.points_of_classified h hw hmem
  rw [segments, Grid.partition_eq]
  apply Grid.compatible_of_points
  intro c hm
  obtain ⟨⟨r, hr, hstart⟩, r', hr', hstop⟩ := hends c hm
  rw [hstart, hstop]
  exact ⟨(points r hr).1, (points r' hr').2⟩

end Parsed

section

variable {grammars : Grammars} {source : String} {l : Language.Known} {p : Parsed}

/-- All comments are kept, and the only warnings are those of the assembly. -/
theorem buildDocument_tree (name : String) (hl : Language.isPython l.val = false)
    (hp : Parsed.ofSource grammars l.val source = .ok p) (hw : p.root.WellFormed source.toList) :
    buildDocument grammars source name [.tree l] { language := some l } =
      (.ok (assembleDocument p.lines p.segments (p.comments l.val) name).1,
        (assembleDocument p.lines p.segments (p.comments l.val) name).2) := by
  have h := Parsed.reads_of_ofSource hp
  obtain ⟨hc, -⟩ := RawComment.spaced_group l.val (RawComment.spaced_ofTree h hw)
  have tokens : Producer.gather grammars source [.tree l] = (.ok (Tree.highlight p), []) := by
    simp [Producer.gather, Producer.tokens, hp]
  have comments : Prose.comments { language := some l } grammars source =
      .ok (p.comments l.val, []) := by
    simp [Prose.comments, extractComments, hl, hp, Parsed.comments]
  rw [buildDocument, tokens, comments]
  simp only [Parsed.comments, keepComments_of_spaced hc, ← h.lines, Parsed.segments,
    List.nil_append]

/-- A source in a language other than Python and its well-formed tree: the document loses nothing
exactly when each segment of the highlighting is apart from all comments or lies under them. So it
is when every node that becomes a comment is highlighted as one and does not end in a line break. -/
theorem buildDocument_lossless_iff (name : String) (hl : Language.isPython l.val = false)
    (hp : Parsed.ofSource grammars l.val source = .ok p) (hw : p.root.WellFormed source.toList) :
    ∃ d ns, buildDocument grammars source name [.tree l] { language := some l } = (.ok d, ns) ∧
      (Lossless p.lines (p.comments l.val) (d.blocks, ns) ↔
        Compatible p.segments (p.comments l.val)) ∧
      ((∀ u ∈ p.commentNodes, (u, "comment") ∈ Tree.classified {} [p.root] ∧
          ∀ c ∈ (p.text u).getLast?, c ≠ '\r' ∧ c ≠ '\n') →
        Lossless p.lines (p.comments l.val) (d.blocks, ns)) := by
  have h := Parsed.reads_of_ofSource hp
  have hne : p.lines ≠ [] := h.lines ▸ Buffer.ofText_ne_nil source
  have ordered := h.ordered hw l.val
  have lossless := assemble_lossless_iff hne ordered
  refine ⟨_, _, buildDocument_tree name hl hp hw, lossless, fun hc => ?_⟩
  exact lossless.mpr (h.compatible hw l.val hc)

end

/-! A line comment with a name on the next line, in a tree where the comment covers the first `j`
characters: five without its line break, six with it. -/

namespace Sample

def source : String := "/// a\nx\n"

def comment (j : Nat) : Tree :=
  .node ⟨"line_comment", true, ⟨0, j⟩, ⟨0, 0⟩, Point.after ⟨0, 0⟩ (source.toList.take j), none⟩ []

def name : Tree := .node ⟨"identifier", true, ⟨6, 7⟩, ⟨1, 0⟩, ⟨1, 1⟩, none⟩ []

def root (j : Nat) : Tree :=
  .node ⟨"source_file", true, ⟨0, 8⟩, ⟨0, 0⟩, ⟨2, 0⟩, none⟩ [comment j, name]

def grammars (j : Nat) : Grammars := { trees := [("rust", root j)] }

def rust : Language.Known := ⟨"rust", by decide⟩

def parsed (j : Nat) : Parsed := ⟨Utf8.encode source.toList, Buffer.ofText source, root j⟩

variable {j : Nat}

theorem ofSource_eq (j : Nat) : Parsed.ofSource (grammars j) rust.val source = .ok (parsed j) := rfl

theorem sited_comment (hj : j = 5 ∨ j = 6) : (comment j).Sited source.toList :=
  ⟨0, j, by rcases hj with rfl | rfl <;> decide⟩

theorem wellFormed (hj : j = 5 ∨ j = 6) : (root j).WellFormed source.toList := by
  have hr : (root j).Sited source.toList := ⟨0, 8, by rcases hj with rfl | rfl <;> decide⟩
  have hn : name.Sited source.toList := ⟨6, 7, by decide⟩
  refine .node hr ?_ ?_ ?_
  · rcases hj with rfl | rfl <;> decide
  · rcases hj with rfl | rfl <;> decide
  · intro c hm
    rcases List.mem_pair.mp hm with rfl | rfl
    · exact .leaf (sited_comment hj)
    · exact .leaf hn

theorem commentNodes_eq (hj : j = 5 ∨ j = 6) : (parsed j).commentNodes = [comment j] := by
  have nodes : (root j).nodes Tree.commentKinds = [root j, comment j, name] := by
    simp [Tree.nodes, Tree.visit, root, Tree.commentKinds, Tree.info, Tree.children, comment, name]
  rw [Parsed.commentNodes, parsed, nodes]
  rcases hj with rfl | rfl <;> rfl

theorem classified_eq (hj : j = 5 ∨ j = 6) :
    Tree.classified {} [root j] = [(comment j, "comment")] := by
  have h₁ : Tree.classOf {} (root j) = "" := by rcases hj with rfl | rfl <;> decide
  have h₂ : Tree.classOf {} (comment j) = "comment" := rfl
  have h₃ : Tree.classOf {} name = "" := by decide
  have hlt : (comment j).info.bytes.first < (comment j).info.bytes.stop := by
    rcases hj with rfl | rfl <;> decide
  have declares : Tree.declare {} (root j) = {} ∧ Tree.declare {} (comment j) = {} ∧
      Tree.declare {} name = {} := ⟨rfl, rfl, rfl⟩
  have children : (root j).children = [comment j, name] ∧ name.children = [] := ⟨rfl, rfl⟩
  simp [Tree.classified, h₁, h₂, h₃, hlt, declares, children, Tree.isWhole]

theorem text_eq (hj : j = 5 ∨ j = 6) : (parsed j).text (comment j) = source.toList.take j := by
  rw [(Parsed.reads_of_ofSource (ofSource_eq j)).text (sited_comment hj)]
  rcases hj with rfl | rfl <;> decide

theorem comments_eq : (parsed 6).comments rust.val = [⟨⟨⟨0, 0⟩, ⟨0, 5⟩⟩, "/ a"⟩] := by
  have node : RawComment.ofNode (parsed 6) (comment 6) = ⟨⟨⟨0, 0⟩, ⟨0, 5⟩⟩, "/// a".toList⟩ := by
    rw [RawComment.ofNode, text_eq (.inr rfl)]
    decide
  have found : RawComment.ofTree (parsed 6) = [⟨⟨⟨0, 0⟩, ⟨0, 5⟩⟩, "/// a".toList⟩] := by
    rw [← node]
    exact congrArg (List.map (RawComment.ofNode (parsed 6))) (commentNodes_eq (.inr rfl))
  rw [Parsed.comments, found]
  decide

theorem segments_eq : (parsed 6).segments = [⟨⟨⟨0, 0⟩, ⟨1, 0⟩⟩, { highlight := "comment" }⟩] := by
  have tokens : Tree.highlight (parsed 6) = [⟨⟨⟨0, 0⟩, ⟨1, 0⟩⟩, { highlight := "comment" }⟩] := by
    rw [Tree.highlight, parsed, classified_eq (.inr rfl)]
    decide
  rw [Parsed.segments, tokens]
  cbv

end Sample

open Sample

/-- Without its line break the comment and the name are both there. -/
theorem buildDocument_bare_comment :
    ∃ d ns, buildDocument (grammars 5) source "f" [.tree rust] { language := some rust } =
        (.ok d, ns) ∧
      Lossless (parsed 5).lines ((parsed 5).comments rust.val) (d.blocks, ns) := by
  obtain ⟨d, ns, hb, -, hl⟩ :=
    buildDocument_lossless_iff "f" (by decide) (ofSource_eq 5) (wellFormed (.inl rfl))
  refine ⟨d, ns, hb, hl fun u hu => ?_⟩
  rw [commentNodes_eq (.inl rfl), List.mem_singleton] at hu
  have last : (source.toList.take 5).getLast? = some 'a' := rfl
  rw [hu, text_eq (.inl rfl), last, parsed, classified_eq (.inl rfl)]
  refine ⟨List.mem_singleton_self _, fun c hc => ?_⟩
  obtain rfl := Option.mem_some_iff.mp hc
  decide

/-- With its line break the comment swallows the name: the comment stops in front of the line break
and its highlighting behind it, and the assembly is stuck to the end. -/
theorem buildDocument_line_break :
    Language.isPython rust.val = false ∧ (root 6).WellFormed source.toList ∧
    buildDocument (grammars 6) source "f" [.tree rust] { language := some rust } =
      (.ok ⟨[.prose "/ a"], "f", 3⟩,
        [.stalled ⟨0, 5⟩ (some ⟨0, 0⟩) none, .stalled ⟨1, 0⟩ (some ⟨0, 0⟩) none,
          .stalled ⟨1, 1⟩ (some ⟨0, 0⟩) none]) ∧
    Text.full (listing [.prose "/ a"]) = [] ∧
    Text.full ((parsed 6).lines.outside (((parsed 6).comments rust.val).map Comment.span)) =
        ['x'] := by
  refine ⟨by decide, wellFormed (.inr rfl), ?_, rfl, ?_⟩
  · rw [buildDocument_tree "f" (by decide) (ofSource_eq 6) (wellFormed (.inr rfl)), comments_eq,
      segments_eq]
    rfl
  · rw [comments_eq]
    decide

end Literate
