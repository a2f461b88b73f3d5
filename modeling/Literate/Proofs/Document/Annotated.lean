import Literate.Producer
import Literate.Proofs.AnnotationFile.Natural
import Literate.Proofs.Assembly.Forward
import Literate.Proofs.Comment.Order
import Literate.Proofs.Partition.Coverage

/-! Documents from an annotation file alone. The file may name any places, also such as the source does
not have. Nothing of the source is read twice as long as no comment leads back in the text and no two
of the places lie past the end of one line; without either of that, text can come twice. -/

namespace Literate

namespace AnnotationFile

/-- the places that the file names: the ends of the tokens that do not run backward, and of the comments
that are kept -/
def places (f : AnnotationFile) : List Position :=
  Grid.ends (Grid.tokens f.tokenList) ++
    (keepComments f.commentList).1.flatMap fun c => [c.span.start, c.span.stop]

variable {v : Json} {f : AnnotationFile}

theorem natural_of_mem_places (h : ofJson v = .ok f) : ∀ p ∈ f.places, p.Natural := by
  obtain ⟨ht, hc⟩ := natural_of_ofJson h
  intro p hp
  rcases List.mem_append.mp hp with hp | hp
  · exact Grid.natural_ends ht p hp
  · obtain ⟨c, hm, hp⟩ := List.mem_flatMap.mp hp
    have hspan := hc c (keepComments_subset _ hm)
    rcases (by simpa using hp : p = c.span.start ∨ p = c.span.stop) with rfl | rfl
    · exact hspan.1
    · exact hspan.2

theorem forward {lines : Buffer} (h : ofJson v = .ok f)
    (hback : ∀ c ∈ (keepComments f.commentList).1,
      lines.clamp c.span.start ≤ lines.clamp c.span.stop)
    (hnear : ∀ p ∈ f.places, ∀ q ∈ f.places, p < q → ¬ lines.Astray ⟨p, q⟩) :
    Assembly.Forward lines f.places (partition (sortTokens f.tokenList))
      (keepComments f.commentList).1 where
  natural := natural_of_mem_places h
  near := hnear
  segment := by
    intro x hx
    rw [Grid.partition_eq] at hx
    obtain ⟨hstart, hstop, hlt⟩ := Grid.ends_of_segment hx
    exact ⟨List.mem_append_left _ hstart, List.mem_append_left _ hstop, hlt⟩
  comment := by
    intro c hc
    exact ⟨List.mem_append_right _ (List.mem_flatMap.mpr ⟨c, hc, by simp⟩),
      List.mem_append_right _ (List.mem_flatMap.mpr ⟨c, hc, by simp⟩), hback c hc⟩

end AnnotationFile

/-- A document from annotations alone. -/
theorem buildDocument_elsewhere (grammars : Grammars) (source name label : String)
    (f : AnnotationFile) :
    ∃ d ns, buildDocument grammars source name [.elsewhere label (.ok f.tokenList)]
        { extra := f.commentList } = (.ok d, ns) ∧
      d.blocks = (assemble (Buffer.ofText source) (partition (sortTokens f.tokenList))
        (keepComments f.commentList).1).1 := by
  refine ⟨_, _, rfl, ?_⟩
  simp only [List.append_nil]
  rfl

/-- Any accepted file whose coordinates are integers: a document is built, and if no comment that is kept
leads back in the text, and no two of the places in the file lie past the end of one line, then its
listings are found in the source in order, nothing twice. -/
theorem buildDocument_listing_sublist (grammars : Grammars) (source name label : String) {v : Json}
    {f : AnnotationFile} (h : AnnotationFile.ofJson v = .ok f) (_ : f.Integral)
    (hback : ∀ c ∈ (keepComments f.commentList).1,
      (Buffer.ofText source).clamp c.span.start ≤ (Buffer.ofText source).clamp c.span.stop)
    (hnear : ∀ p ∈ f.places, ∀ q ∈ f.places, p < q → ¬ (Buffer.ofText source).Astray ⟨p, q⟩) :
    ∃ d ns, buildDocument grammars source name [.elsewhere label (.ok f.tokenList)]
        { extra := f.commentList } = (.ok d, ns) ∧
      (listing d.blocks).Sublist source.toList ∧ (listing d.blocks).length ≤ source.length := by
  obtain ⟨d, ns, hb, hd⟩ := buildDocument_elsewhere grammars source name label f
  have found := (AnnotationFile.forward h hback hnear).listing_sublist (Buffer.ofText_ne_nil source)
  rw [Buffer.whole_ofText, ← hd] at found
  refine ⟨d, ns, hb, found, ?_⟩
  rw [← String.length_toList]
  exact found.length_le

/-- A token that reaches past the end of its line, one past the end of the source, and a comment that
ends there. -/
theorem buildDocument_listing_sublist_outside :
    ∃ v f, AnnotationFile.ofJson v = .ok f ∧ f.Integral ∧
      f.places = [⟨0, 1⟩, ⟨0, 9⟩, ⟨5, 0⟩, ⟨5, 2⟩, ⟨1, 0⟩, ⟨7, 3⟩] ∧
      ∃ d ns, buildDocument {} "ab\nc" "f" [.elsewhere "l" (.ok f.tokenList)]
          { extra := f.commentList } = (.ok d, ns) ∧
        (listing d.blocks).Sublist "ab\nc".toList := by
  have accepted : AnnotationFile.ofJson (.object
      [("tokens", .array [.object [("range", .array [.int 0, .int 1, .int 9])],
        .object [("range", .array [.int 5, .int 0, .int 2])]]),
      ("comments", .array [.object [("content", .string "c"),
        ("range", .array [.int 1, .int 0, .int 7, .int 3])]])]) =
      .ok { tokens := [(⟨.int 0, .int 1, .int 0, .int 9⟩, {}), (⟨.int 5, .int 0, .int 5, .int 2⟩, {})],
            comments := [(⟨.int 1, .int 0, .int 7, .int 3⟩, "c")] } := by rfl
  set f : AnnotationFile := { tokens := _, comments := _ } with hf
  have integral : f.Integral := by decide
  have kept : (keepComments f.commentList).1 = [⟨⟨⟨1, 0⟩, ⟨7, 3⟩⟩, "c"⟩] := by cbv
  have places : f.places = [⟨0, 1⟩, ⟨0, 9⟩, ⟨5, 0⟩, ⟨5, 2⟩, ⟨1, 0⟩, ⟨7, 3⟩] := by cbv
  obtain ⟨d, ns, hb, hs, -⟩ := buildDocument_listing_sublist {} "ab\nc" "f" "l" accepted integral
    (by rw [kept]; decide) (by rw [places]; decide)
  exact ⟨_, f, accepted, integral, places, d, ns, hb, hs⟩

/-- A token past the end of a line gives that line once more, and so does a comment that leads back. -/
theorem listing_repeated :
    (∃ v f d ns, AnnotationFile.ofJson v = .ok f ∧
      buildDocument {} "ab\nc" "f" [.elsewhere "l" (.ok f.tokenList)] { extra := f.commentList } =
        (.ok d, ns) ∧
      listing d.blocks = "abab\nc".toList ∧ ¬ (listing d.blocks).Sublist "ab\nc".toList) ∧
    ∃ v f d ns, AnnotationFile.ofJson v = .ok f ∧
      buildDocument {} "ab" "f" [.elsewhere "l" (.ok f.tokenList)] { extra := f.commentList } =
        (.ok d, ns) ∧
      listing d.blocks = "abab".toList ∧ ¬ (listing d.blocks).Sublist "ab".toList := by
  constructor
  · refine ⟨.object [("tokens", .array [.object [("range", .array [.int 0, .int 3, .int 5])]])],
      { tokens := [(⟨.int 0, .int 3, .int 0, .int 5⟩, {})] },
      ⟨[.code [.text "ab", .annotated "ab" ⟨⟨⟨0, 3⟩, ⟨0, 5⟩⟩, {}⟩ .plain, .text "\nc"]], "f", 2⟩, [],
      by rfl, by cbv, by decide, by decide⟩
  · refine ⟨.object [("comments", .array [.object [("content", .string "c"),
        ("range", .array [.int 0, .int 2, .int 0, .int 0])]])],
      { comments := [(⟨.int 0, .int 2, .int 0, .int 0⟩, "c")] },
      ⟨[.code [.text "ab"], .prose "c", .code [.text "ab"]], "f", 1⟩, [],
      by rfl, by cbv, by decide, by decide⟩

end Literate
