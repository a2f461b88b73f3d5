import Literate.Proofs.Script.Outline

/-! What all landmarks of a script have in common: a property of those of its parts. -/

namespace Literate.Script

namespace Outline

mutual

theorem lineage_snd : ∀ (o : Outline) (above : List Landmark),
    (o.lineage above).map Prod.snd = o.nodes
  | node l cs, above => by
    rw [nodes, lineage, lineage, List.map_cons, List.map_cons, lineages_snd cs, lineages_snd cs]

theorem lineages_snd : ∀ (os : List Outline) (above : List Landmark),
    (lineages above os).map Prod.snd = os.flatMap nodes
  | [], _ => rfl
  | o :: os, above => by
    rw [lineages, List.map_append, lineage_snd o, lineages_snd os, List.flatMap_cons]

end

theorem nodes_node (l : Landmark) (cs : List Outline) : (node l cs).nodes = l :: cs.flatMap nodes := by
  rw [nodes, lineage, List.map_cons, lineages_snd]

/-- All definitions and uses inside have the property. -/
def All (Good : Landmark → Prop) (o : Outline) : Prop := ∀ l ∈ o.nodes, l ≠ .plain → Good l

variable {Good : Landmark → Prop} {l : Landmark} {cs : List Outline}

theorem all_node : (node l cs).All Good ↔ (l ≠ .plain → Good l) ∧ ∀ c ∈ cs, c.All Good := by
  rw [All, nodes_node, List.forall_mem_cons]
  simp only [List.mem_flatMap, All]
  exact and_congr_right fun _ => ⟨fun h c hc l hl => h l ⟨c, hc, hl⟩, fun h l ⟨c, hc, hl⟩ => h c hc l hl⟩

theorem all_plain : (plain cs).All Good ↔ ∀ c ∈ cs, c.All Good :=
  all_node.trans (and_iff_right fun h => absurd rfl h)

theorem All.site {o : Outline} {s : Site} (h : o.All Good) (hs : s ∈ o.sites) :
    Good (.definition s.definition) := by
  obtain ⟨⟨above, l⟩, hl, heq⟩ := List.mem_filterMap.mp hs
  unfold Site.of? at heq
  split at heq
  · next heq' =>
    cases heq
    cases heq'
    exact h _ (List.mem_map_of_mem hl) nofun
  · cases heq

theorem All.mention {o : Outline} {u : Mention} (h : o.All Good) (hu : u ∈ o.mentions) :
    Good (.use u.name u.start u.stop) := by
  obtain ⟨l, hl, heq⟩ := List.mem_filterMap.mp (o.mentions_perm.mem_iff.mp hu)
  unfold Mention.of? at heq
  split at heq
  · cases heq
    exact h _ hl nofun
  · cases heq

end Outline

/-! The parts of expressions. -/

variable {Good : Landmark → Prop}

/-- All uses inside have the property. -/
def Expr.All (Good : Landmark → Prop) (e : Expr) : Prop := e.outline.All Good

def Entry.All (Good : Landmark → Prop) : Entry → Prop
  | pair k v => k.All Good ∧ v.All Good
  | spread v => v.All Good

def Keyword.All (Good : Landmark → Prop) : Keyword → Prop
  | mk _ e => e.All Good

def Clause.All (Good : Landmark → Prop) : Clause → Prop
  | mk _ t s cs => t.All Good ∧ s.All Good ∧ ∀ c ∈ cs, c.All Good

def Param.All (Good : Landmark → Prop) : Param → Prop
  | mk _ note default => (∀ e ∈ note, e.All Good) ∧ ∀ e ∈ default, e.All Good

def Params.All (Good : Landmark → Prop) : Params → Prop
  | mk leading plain rest named others => (∀ p ∈ leading, p.All Good) ∧ (∀ p ∈ plain, p.All Good) ∧
    (∀ p ∈ rest, p.All Good) ∧ (∀ p ∈ named, p.All Good) ∧ ∀ p ∈ others, p.All Good

theorem forall_outlines {es : List Expr} :
    (∀ o ∈ outlines es, o.All Good) ↔ ∀ e ∈ es, e.All Good := by
  induction es with
  | nil => simp [outlines]
  | cons e es ih => rw [outlines, List.forall_mem_cons, List.forall_mem_cons, ih, Expr.All]

theorem forall_outlineOf {e : Option Expr} :
    (∀ o ∈ outlineOf e, o.All Good) ↔ ∀ x ∈ e, x.All Good := by
  cases e with
  | none => simp [outlineOf]
  | some e => simp [outlineOf, Expr.All]

theorem forall_entryOutlines {es : List Entry} :
    (∀ o ∈ keyOutlines es ++ valueOutlines es, o.All Good) ↔ ∀ e ∈ es, e.All Good := by
  rw [List.forall_mem_append]
  induction es with
  | nil => simp [keyOutlines, valueOutlines]
  | cons e es ih =>
    rw [List.forall_mem_cons, ← ih]
    cases e with
    | pair k v =>
      rw [keyOutlines, valueOutlines, List.forall_mem_cons, List.forall_mem_cons, Entry.All,
        Expr.All, Expr.All]
      tauto
    | spread v =>
      rw [keyOutlines, valueOutlines, List.forall_mem_cons, Entry.All, Expr.All]
      tauto

theorem forall_keywordOutlines {ks : List Keyword} :
    (∀ o ∈ keywordOutlines ks, o.All Good) ↔ ∀ k ∈ ks, k.All Good := by
  induction ks with
  | nil => simp [keywordOutlines]
  | cons k ks ih =>
    obtain ⟨name, e⟩ := k
    rw [keywordOutlines, List.forall_mem_cons, List.forall_mem_cons, ih, Outline.all_plain,
      List.forall_mem_singleton, Keyword.All, Expr.All]

theorem forall_clauseOutlines {cs : List Clause} :
    (∀ o ∈ clauseOutlines cs, o.All Good) ↔ ∀ c ∈ cs, c.All Good := by
  induction cs with
  | nil => simp [clauseOutlines]
  | cons c cs ih =>
    obtain ⟨isAsync, t, s, ifs⟩ := c
    rw [clauseOutlines, List.forall_mem_cons, List.forall_mem_cons, ih, Outline.all_plain,
      List.forall_mem_cons, List.forall_mem_cons, forall_outlines, Clause.All, Expr.All, Expr.All]

theorem forall_paramOutlines {ps : List Param} :
    (∀ o ∈ paramOutlines ps ++ defaultOutlines ps, o.All Good) ↔ ∀ p ∈ ps, p.All Good := by
  rw [List.forall_mem_append]
  induction ps with
  | nil => simp [paramOutlines, defaultOutlines]
  | cons p ps ih =>
    obtain ⟨name, note, default⟩ := p
    rw [paramOutlines, defaultOutlines, List.forall_mem_cons, List.forall_mem_append,
      List.forall_mem_cons, ← ih, Outline.all_plain, forall_outlineOf, forall_outlineOf, Param.All]
    tauto

namespace Expr

variable {e a b t : Expr} {es : List Expr} {id : String} {use : Use} {start stop : Point}

/-- Only a name that is read is a use. -/
theorem all_name : (name id use start stop).All Good ↔ (use = .load → Good (.use id start stop)) := by
  refine Outline.all_node.trans ?_
  split
  · next load => simp [load]
  · next other => simp [other]

theorem all_constant {v : Constant} : (constant v).All Good :=
  Outline.all_plain.mpr (List.forall_mem_nil _)

theorem all_joined : (joined es).All Good ↔ ∀ e ∈ es, e.All Good :=
  Outline.all_plain.trans forall_outlines

theorem all_field {f : Option Expr} {letter : Option Char} :
    (field e letter f).All Good ↔ e.All Good ∧ ∀ x ∈ f, x.All Good :=
  Outline.all_plain.trans <| List.forall_mem_cons.trans <| and_congr_right fun _ => forall_outlineOf

theorem all_tuple : (tuple es).All Good ↔ ∀ e ∈ es, e.All Good :=
  Outline.all_plain.trans forall_outlines

theorem all_list : (list es).All Good ↔ ∀ e ∈ es, e.All Good :=
  Outline.all_plain.trans forall_outlines

theorem all_set : (set es).All Good ↔ ∀ e ∈ es, e.All Good :=
  Outline.all_plain.trans forall_outlines

theorem all_dict {es : List Entry} : (dict es).All Good ↔ ∀ e ∈ es, e.All Good :=
  Outline.all_plain.trans forall_entryOutlines

theorem all_boolean {op : BoolOp} : (boolean op es).All Good ↔ ∀ e ∈ es, e.All Good :=
  Outline.all_plain.trans forall_outlines

theorem all_binary {op : BinaryOp} : (binary op a b).All Good ↔ a.All Good ∧ b.All Good :=
  Outline.all_plain.trans <| List.forall_mem_cons.trans <| and_congr_right fun _ =>
    List.forall_mem_singleton

theorem all_unary {op : UnaryOp} : (unary op e).All Good ↔ e.All Good :=
  Outline.all_plain.trans List.forall_mem_singleton

theorem all_comparison {ops : List CompareOp} :
    (comparison e ops es).All Good ↔ e.All Good ∧ ∀ e ∈ es, e.All Good :=
  Outline.all_plain.trans <| List.forall_mem_cons.trans <| and_congr_right fun _ => forall_outlines

theorem all_call {ks : List Keyword} : (call e es ks).All Good ↔
    e.All Good ∧ (∀ a ∈ es, a.All Good) ∧ ∀ k ∈ ks, k.All Good :=
  Outline.all_plain.trans <| List.forall_mem_cons.trans <| and_congr_right fun _ =>
    List.forall_mem_append.trans (and_congr forall_outlines forall_keywordOutlines)

theorem all_member : (member e id).All Good ↔ e.All Good :=
  Outline.all_plain.trans List.forall_mem_singleton

theorem all_subscript : (subscript a b).All Good ↔ a.All Good ∧ b.All Good :=
  Outline.all_plain.trans <| List.forall_mem_cons.trans <| and_congr_right fun _ =>
    List.forall_mem_singleton

theorem all_slice {a b c : Option Expr} : (slice a b c).All Good ↔
    ((∀ x ∈ a, x.All Good) ∧ ∀ x ∈ b, x.All Good) ∧ ∀ x ∈ c, x.All Good :=
  Outline.all_plain.trans <| List.forall_mem_append.trans <|
    and_congr (List.forall_mem_append.trans (and_congr forall_outlineOf forall_outlineOf))
      forall_outlineOf

theorem all_starred : (starred e).All Good ↔ e.All Good :=
  Outline.all_plain.trans List.forall_mem_singleton

theorem all_conditional :
    (conditional t a b).All Good ↔ t.All Good ∧ a.All Good ∧ b.All Good :=
  Outline.all_plain.trans <| List.forall_mem_cons.trans <| and_congr_right fun _ =>
    List.forall_mem_cons.trans <| and_congr_right fun _ => List.forall_mem_singleton

theorem all_comprehension {shape : Shape} {cs : List Clause} :
    (comprehension shape e cs).All Good ↔ e.All Good ∧ ∀ c ∈ cs, c.All Good :=
  Outline.all_plain.trans <| List.forall_mem_cons.trans <| and_congr_right fun _ =>
    forall_clauseOutlines

theorem all_mapping {cs : List Clause} :
    (mapping a b cs).All Good ↔ a.All Good ∧ b.All Good ∧ ∀ c ∈ cs, c.All Good :=
  Outline.all_plain.trans <| List.forall_mem_cons.trans <| and_congr_right fun _ =>
    List.forall_mem_cons.trans <| and_congr_right fun _ => forall_clauseOutlines

theorem all_await : (await e).All Good ↔ e.All Good :=
  Outline.all_plain.trans List.forall_mem_singleton

theorem all_yield {e : Option Expr} : (yield e).All Good ↔ ∀ x ∈ e, x.All Good :=
  Outline.all_plain.trans forall_outlineOf

theorem all_delegate : (delegate e).All Good ↔ e.All Good :=
  Outline.all_plain.trans List.forall_mem_singleton

theorem all_walrus : (walrus t e).All Good ↔ t.All Good ∧ e.All Good :=
  Outline.all_plain.trans <| List.forall_mem_cons.trans <| and_congr_right fun _ =>
    List.forall_mem_singleton

theorem all_lambda {ps : Params} :
    (lambda ps e).All Good ↔ ps.outline.All Good ∧ e.All Good :=
  Outline.all_plain.trans <| List.forall_mem_cons.trans <| and_congr_right fun _ =>
    List.forall_mem_singleton

end Expr

theorem Params.all_outline {ps : Params} (h : ps.All Good) : ps.outline.All Good := by
  obtain ⟨leading, plain, rest, named, others⟩ := ps
  obtain ⟨hleading, hplain, hrest, hnamed, hothers⟩ := h
  have one (p : Option Param) (hp : ∀ q ∈ p, q.All Good) : ∀ o ∈ paramOutline p, o.All Good := by
    cases p with
    | none => exact List.forall_mem_nil _
    | some p =>
      obtain ⟨id, note, default⟩ := p
      exact List.forall_mem_singleton.mpr
        (Outline.all_plain.mpr (forall_outlineOf.mpr (hp _ rfl).1))
  have leading := List.forall_mem_append.mp (forall_paramOutlines.mpr hleading)
  have plain := List.forall_mem_append.mp (forall_paramOutlines.mpr hplain)
  have named := List.forall_mem_append.mp (forall_paramOutlines.mpr hnamed)
  refine Outline.all_plain.mpr ?_
  simp only [List.forall_mem_append]
  exact ⟨⟨⟨⟨⟨⟨⟨leading.1, plain.1⟩, one rest hrest⟩, named.1⟩, named.2⟩, one others hothers⟩,
    leading.2⟩, plain.2⟩

/-! What becomes of an expression that a value is given to: what stands inside of it stays. -/

namespace Expr

mutual

theorem All.stored : ∀ {e x : Expr}, e.All Good → e.stored = some x → x.All Good
  | .name .., _, _, rfl => all_name.mpr nofun
  | .member .., _, h, rfl => h
  | .subscript .., _, h, rfl => h
  | .tuple es, _, h, hx => by
    obtain ⟨xs, hxs, rfl⟩ := Option.map_eq_some_iff.mp hx
    exact all_tuple.mpr (All.storedAll (all_tuple.mp h) hxs)
  | .list es, _, h, hx => by
    obtain ⟨xs, hxs, rfl⟩ := Option.map_eq_some_iff.mp hx
    exact all_list.mpr (All.storedAll (all_list.mp h) hxs)
  | .starred e, _, h, hx => by
    obtain ⟨y, hy, rfl⟩ := Option.map_eq_some_iff.mp hx
    exact all_starred.mpr (All.stored (all_starred.mp h) hy)

theorem All.storedAll : ∀ {es xs : List Expr}, (∀ e ∈ es, e.All Good) → storedAll es = some xs →
    ∀ x ∈ xs, x.All Good
  | [], _, _, rfl => List.forall_mem_nil _
  | e :: es, _, h, hxs => by
    rw [List.forall_mem_cons] at h
    obtain ⟨y, hy, hxs⟩ := Option.bind_eq_some_iff.mp hxs
    obtain ⟨ys, hys, hxs⟩ := Option.bind_eq_some_iff.mp hxs
    cases hxs
    exact List.forall_mem_cons.mpr ⟨All.stored h.1 hy, All.storedAll h.2 hys⟩

end

mutual

theorem All.deleted : ∀ {e x : Expr}, e.All Good → e.deleted = some x → x.All Good
  | .name .., _, _, rfl => all_name.mpr nofun
  | .member .., _, h, rfl => h
  | .subscript .., _, h, rfl => h
  | .tuple es, _, h, hx => by
    obtain ⟨xs, hxs, rfl⟩ := Option.map_eq_some_iff.mp hx
    exact all_tuple.mpr (All.deletedAll (all_tuple.mp h) hxs)
  | .list es, _, h, hx => by
    obtain ⟨xs, hxs, rfl⟩ := Option.map_eq_some_iff.mp hx
    exact all_list.mpr (All.deletedAll (all_list.mp h) hxs)

theorem All.deletedAll : ∀ {es xs : List Expr}, (∀ e ∈ es, e.All Good) → deletedAll es = some xs →
    ∀ x ∈ xs, x.All Good
  | [], _, _, rfl => List.forall_mem_nil _
  | e :: es, _, h, hxs => by
    rw [List.forall_mem_cons] at h
    obtain ⟨y, hy, hxs⟩ := Option.bind_eq_some_iff.mp hxs
    obtain ⟨ys, hys, hxs⟩ := Option.bind_eq_some_iff.mp hxs
    cases hxs
    exact List.forall_mem_cons.mpr ⟨All.deleted h.1 hy, All.deletedAll h.2 hys⟩

end

theorem All.single : ∀ {e x : Expr}, e.All Good → e.single = some x → x.All Good
  | .name .., _, _, rfl => all_name.mpr nofun
  | .member .., _, h, rfl => h
  | .subscript .., _, h, rfl => h

end Expr

end Literate.Script
