import Literate.Render.Blocks
import Literate.Proofs.Assembly.Shape
import Literate.Proofs.Partition.Coverage
import Literate.Proofs.Schema.Meaning

/-! What the schema for documents asks of a document, and that every document which is assembled keeps
to it: listings have runs, and the segments in them start and stop where tokens do. Comments may lie
anywhere, since a document does not say where its prose comes from. -/

namespace Literate

/-- The segment that a run decorates counts from zero. -/
def Run.Placed : Run → Prop
  | .text _ => True
  | .annotated _ x _ => x.span.Natural

/-- a document that has a text -/
structure Document.Presentable (d : Document) : Prop where
  count : 0 ≤ d.lineCount
  listing : ∀ rs, .code rs ∈ d.blocks → rs ≠ [] ∧ ∀ r ∈ rs, r.Placed

namespace Blocks

theorem accepts_string (s : Wording) : Schema.accepts [.type .string] (.string s) = true := rfl

theorem accepts_count_iff {n : Int} :
    Schema.accepts [.type .integer, .minimum 0] (.int n) = true ↔ 0 ≤ n := by
  rw [Schema.accepts_iff]
  simp [Rule.Asks, JsonType.has, Rule.belowMinimum]

theorem accepts_position_iff {p : Position} :
    positionSchema.accepts (position p) = true ↔ p.Natural := by
  rw [position, positionSchema, Schema.accepts_closed_iff]
  simp [List.lookup, accepts_count_iff, Position.Natural]

theorem accepts_span_iff {s : Span} :
    Schema.accepts [.type .object, .required ["start", "end"],
      .properties [("start", positionSchema), ("end", positionSchema)]] (span s) = true ↔
      s.Natural := by
  rw [span, Schema.accepts_object_iff]
  simp [List.lookup, accepts_position_iff, Span.Natural]

theorem accepts_decoration (d : Decoration) :
    Schema.accepts [.among (Decoration.all.map Decoration.name)] (.string d.name) = true := by
  cases d <;> rfl

theorem accepts_doc (ss : List Wording) :
    Schema.accepts [.type .array, .items [.type .string]] (.array (ss.map Json.string)) = true := by
  rw [Schema.accepts_array_iff, List.forall_mem_map]
  exact fun s _ => accepts_string s

theorem accepts_run_iff {r : Run} : runSchema.accepts (run r) = true ↔ r.Placed := by
  cases r with
  | text s =>
    have type : Schema.accepts [.among ["text", "annotated"]] (.string "text") = true := rfl
    rw [run, runSchema, Schema.accepts_object_iff]
    simp [List.lookup, type, accepts_string, Run.Placed]
  | annotated s x d =>
    have type : Schema.accepts [.among ["text", "annotated"]] (.string "annotated") = true := rfl
    rw [run, runSchema, Schema.accepts_object_iff]
    simp [List.lookup, type, accepts_string, accepts_doc, accepts_decoration, accepts_span_iff,
      Run.Placed]

theorem accepts_code_iff {b : Block} :
    codeSchema.accepts (block b) = true ↔ ∃ rs, b = .code rs ∧ rs ≠ [] ∧ ∀ r ∈ rs, r.Placed := by
  cases b with
  | code rs =>
    have type : Schema.accepts [.const "code"] (.string "code") = true := rfl
    rw [block, codeSchema, Schema.accepts_closed_iff]
    simp [List.lookup, type, Schema.accepts_filled_iff, accepts_run_iff, Nat.one_le_iff_ne_zero]
  | prose s => simp [block, codeSchema, Schema.accepts_closed_iff, List.lookup]

theorem accepts_prose_iff {b : Block} :
    proseSchema.accepts (block b) = true ↔ ∃ s, b = .prose s := by
  cases b with
  | code rs => simp [block, proseSchema, Schema.accepts_closed_iff, List.lookup]
  | prose s =>
    have type : Schema.accepts [.const "prose"] (.string "prose") = true := rfl
    rw [block, proseSchema, Schema.accepts_closed_iff]
    simp [List.lookup, type, accepts_string]

/-- No block is both a listing and prose to the schema. -/
theorem countP_accepts_iff {b : Block} :
    [codeSchema, proseSchema].countP (fun s => s.accepts (block b)) = 1 ↔
      ∀ rs, b = .code rs → rs ≠ [] ∧ ∀ r ∈ rs, r.Placed := by
  cases b with
  | code rs =>
    have prose : proseSchema.accepts (block (.code rs)) = false := by
      rw [Bool.eq_false_iff, ne_eq, accepts_prose_iff]
      simp
    simp [List.countP_cons, prose, accepts_code_iff]
  | prose s =>
    have code : codeSchema.accepts (block (.prose s)) = false := by
      rw [Bool.eq_false_iff, ne_eq, accepts_code_iff]
      simp
    simp [code, accepts_prose_iff]

/-- The value of a document is accepted when the document is presentable. -/
theorem accepts_document_iff {d : Document} :
    schema.accepts (document d) = true ↔ d.Presentable := by
  have parts : schema.accepts (document d) = true ↔ 0 ≤ d.lineCount ∧
      Schema.accepts [.type .array, .items [.oneOf [codeSchema, proseSchema]]]
        (.array (d.blocks.map block)) = true := by
    rw [document, schema, Schema.accepts_object_iff]
    simp [List.lookup, accepts_string, accepts_count_iff]
  rw [parts, Schema.accepts_array_iff, List.forall_mem_map]
  simp only [Schema.accepts_oneOf_iff, countP_accepts_iff]
  constructor
  · rintro ⟨hcount, hblocks⟩
    exact ⟨hcount, fun rs hrs => hblocks _ hrs rs rfl⟩
  · rintro ⟨hcount, hlisting⟩
    exact ⟨hcount, fun b hb rs hrs => hlisting rs (hrs ▸ hb)⟩

theorem render_eq_ok_iff {d : Document} {text : Wording} :
    render d = .ok text ↔ d.Presentable ∧ text = (document d).text ++ codes "\n" := by
  rw [← accepts_document_iff, ← Schema.report?_eq_none_iff, render]
  cases schema.report? (document d) <;> simp [eq_comm]

end Blocks

theorem Run.placed_of_mem_decorated {bs : List Block} (h : ∀ r ∈ decorated bs, r.Placed)
    {rs : List Run} (hrs : .code rs ∈ bs) : ∀ r ∈ rs, r.Placed := by
  intro r hr
  cases r with
  | text t => trivial
  | annotated t x d =>
    apply h
    exact List.mem_flatMap.mpr ⟨.code rs, hrs, List.mem_filter.mpr ⟨hr, rfl⟩⟩

/-- Listings of an assembly have runs, and runs are as far from zero as the segments are. -/
theorem presentable_assembleDocument (lines : Buffer) (xs : List Segment) (cs : List Comment)
    (name : String) (hx : ∀ x ∈ xs, x.span.Natural) :
    (assembleDocument lines xs cs name).1.Presentable where
  count := Int.natCast_nonneg _
  listing := by
    intro rs hrs
    refine ⟨(woven_of_mem_blocks lines lines.last xs cs hrs).1, ?_⟩
    apply Run.placed_of_mem_decorated _ hrs
    obtain ⟨ys, hys, hd⟩ := decorated_blocks lines lines.last xs cs
    intro r hr
    change r ∈ decorated (assembleUpTo lines lines.last xs cs).1 at hr
    rw [hd] at hr
    obtain ⟨x, hmem, rfl⟩ := List.mem_map.mp hr
    exact hx x (hys.subset hmem)

theorem Grid.natural_of_mem_partition {ts : List Token} (h : ∀ t ∈ ts, t.span.Natural) :
    ∀ x ∈ partition (sortTokens ts), x.span.Natural := by
  intro x hx
  rw [Grid.partition_eq] at hx
  obtain ⟨hstart, hstop, -⟩ := Grid.ends_of_segment hx
  exact ⟨Grid.natural_ends h _ hstart, Grid.natural_ends h _ hstop⟩

/-- Whatever tokens there are, as long as they count from zero, and whatever comments: the document
that is assembled from them is accepted, with runs in each listing and each block as one of a listing
and prose, and has a text. -/
theorem render_assembleDocument (source name : String) (ts : List Token) (cs : List Comment)
    (h : ∀ t ∈ ts, t.span.Natural) :
    let d := (assembleDocument (Buffer.ofText source) (partition (sortTokens ts))
      (keepComments cs).1 name).1
    d.Presentable ∧ Blocks.schema.accepts (Blocks.document d) = true ∧
      (∀ b ∈ d.blocks, [Blocks.codeSchema, Blocks.proseSchema].countP
        (fun s => s.accepts (Blocks.block b)) = 1) ∧
      Blocks.render d = .ok ((Blocks.document d).text ++ codes "\n") := by
  intro d
  have presentable : d.Presentable := presentable_assembleDocument (Buffer.ofText source) _
    (keepComments cs).1 name (Grid.natural_of_mem_partition h)
  refine ⟨presentable, Blocks.accepts_document_iff.mpr presentable, ?_,
    Blocks.render_eq_ok_iff.mpr ⟨presentable, rfl⟩⟩
  intro b hb
  rw [Blocks.countP_accepts_iff]
  rintro rs rfl
  exact presentable.listing rs hb

/-- Tokens that overlap behind the source, one that runs backward, and a comment out there. -/
theorem render_assembleDocument_outside :
    ∃ d, d.blocks = [.code [.text "a", .annotated "b" ⟨⟨⟨0, 1⟩, ⟨0, 3⟩⟩, { symbol := "x" }⟩ .plain,
        .annotated "\nc" ⟨⟨⟨0, 3⟩, ⟨2, 5⟩⟩, { symbol := "y" }⟩ .plain,
        .annotated "" ⟨⟨⟨2, 5⟩, ⟨7, 3⟩⟩, { symbol := "x" }⟩ .plain], .prose "p"] ∧
      Blocks.render d = .ok ((Blocks.document d).text ++ codes "\n") := by
  obtain ⟨-, -, -, rendered⟩ := render_assembleDocument "ab\nc" "f"
    [⟨⟨⟨0, 1⟩, ⟨7, 3⟩⟩, { symbol := "x" }⟩, ⟨⟨⟨0, 3⟩, ⟨2, 5⟩⟩, { symbol := "y" }⟩,
      ⟨⟨⟨0, 5⟩, ⟨0, 2⟩⟩, {}⟩]
    [⟨⟨⟨7, 3⟩, ⟨9, 4⟩⟩, "p"⟩] (by decide)
  exact ⟨_, by cbv, rendered⟩

end Literate
