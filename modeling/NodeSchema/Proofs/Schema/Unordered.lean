import NodeSchema.Proofs.Schema.Omitted
import NodeSchema.Proofs.Schema.Rebuilding

/-!
# In which order fields are supplied

A builder can be given its fields in two ways: as arguments, in the order of
the build parameters, or by their names, and then it takes them in the order
of the kind.  So the nodes in which the other fields are filled differ, and
they go on to differ at every step.  They differ in nothing but the order of
their fields, though.  A default that does not look at the order makes the
same of both, and in the end the fields are put in order.

* `Record.Agree` — two records with the same tag and the same entries behind
  the same names;
* `Default.Unordered` — a default that makes the same of nodes that agree;
* `Builder.fill_agree` — nodes that agree are filled alike, or fail alike;
* `Builder.WellFormed.construct_agree` — fields may be supplied in any order;
* `Schema.Reachable.positions_and_names_agree` — as arguments or by name.
-/

namespace NodeSchema

/-- Two records have the same tag, and each name leads to the same in both. -/
structure Record.Agree {α : Type} (r r' : Record α) : Prop where
  tag : r.tag = r'.tag
  get? : ∀ name, r.get? name = r'.get? name

/-- A default that does not look at the order of fields: it makes the same of
nodes that agree.  No node has two fields of the same name. -/
def Default.Unordered (d : Default) : Prop :=
  ∀ m n : Node, m.names.Nodup → n.names.Nodup → m.Agree n → d.produce m = d.produce n

/-- A default that looks at nothing but the values of some fields does not
look at their order. -/
theorem Default.Reads.unordered {d : Default} {names : List String} (reads : d.Reads names) :
    d.Unordered :=
  fun m n _ _ agree => reads m n fun name _ => agree.get? name

namespace Record

variable {α : Type} {r r' : Record α} {name : String}

theorem Agree.has (agree : r.Agree r') (name : String) : r.has name = r'.has name := by
  rw [Record.has, Record.has, agree.get?]

theorem Agree.set (agree : r.Agree r') (name : String) (value : α) :
    (r.set name value).Agree (r'.set name value) where
  tag := agree.tag
  get? other := by rw [get?_set, get?_set, agree.get?]

theorem Agree.arrange (agree : r.Agree r') (order : List String) :
    (r.arrange order).Agree (r'.arrange order) where
  tag := agree.tag
  get? name := by rw [get?_arrange, get?_arrange, agree.get?]

/-- Records that agree and have their entries in the same order are the
same. -/
theorem Agree.eq (agree : r.Agree r') (names : r.names = r'.names) (distinct : r.names.Nodup) :
    r = r' :=
  ext_get? agree.tag names distinct fun name _ => agree.get? name

end Record

namespace Builder

variable {b : Builder} {node node' : Node} {fields : List Field}
  {given given' : List (String × Value)}

/-- **Filling.**  Nodes that agree are filled alike: they fail with the same
error, or they agree when they are filled. -/
theorem fill_agree (kind : String)
    (unordered : ∀ f ∈ fields, ∀ d, f.default = some d → d.Unordered)
    (distinct : node.names.Nodup) (distinct' : node'.names.Nodup) (agree : node.Agree node') :
    (∃ error, fill kind node fields = .error error ∧ fill kind node' fields = .error error) ∨
      ∃ filled filled', fill kind node fields = .ok filled ∧
        fill kind node' fields = .ok filled' ∧ filled.Agree filled' := by
  induction fields generalizing node node' with
  | nil => exact .inr ⟨node, node', rfl, rfl, agree⟩
  | cons field rest ih =>
    have later := fun f listed => unordered f (List.mem_cons_of_mem field listed)
    rw [fill, fill, ← agree.has field.name]
    by_cases present : node.has field.name = true
    · rw [if_pos present, if_pos present]
      exact ih later distinct distinct' agree
    · rw [if_neg present, if_neg present]
      rcases has : field.default with - | d
      · exact .inl ⟨_, rfl, rfl⟩
      · -- the default makes the same of both, so that they agree with it as well
        have same : d.produce node' = d.produce node :=
          (unordered field List.mem_cons_self d has node node' distinct distinct' agree).symm
        dsimp only
        rw [same]
        exact ih later (Record.nodup_set distinct _ _) (Record.nodup_set distinct' _ _)
          (agree.set field.name _)

/-- What is given to a builder are fields of its kind, none of them twice. -/
structure Supplies (b : Builder) (given : List (String × Value)) : Prop where
  once : (given.map (·.1)).Nodup
  among : given.map (·.1) ⊆ Field.names b.fields

/-- A builder starts with what it is given, in the order in which it is
given. -/
theorem Supplies.setAll (supplies : b.Supplies given) :
    (Record.tagged b.kind).setAll given = ⟨some b.kind, given⟩ :=
  Record.setAll_of_new supplies.once

/-- **Fields may be supplied in any order.** -/
theorem WellFormed.construct_agree (wf : b.WellFormed)
    (unordered : ∀ f ∈ b.fields, ∀ d, f.default = some d → d.Unordered)
    (supplies : b.Supplies given) (supplies' : b.Supplies given')
    (same : ∀ name, given.lookup name = given'.lookup name) (s : Schema) (limit : Nat) :
    b.construct s limit given = b.construct s limit given' := by
  have distinct : ((Record.tagged b.kind).setAll given).names.Nodup := by
    rw [supplies.setAll]
    exact supplies.once
  have distinct' : ((Record.tagged b.kind).setAll given').names.Nodup := by
    rw [supplies'.setAll]
    exact supplies'.once
  have agree : ((Record.tagged b.kind).setAll given).Agree
      ((Record.tagged b.kind).setAll given') := by
    rw [supplies.setAll, supplies'.setAll]
    exact ⟨rfl, same⟩
  rcases fill_agree b.kind unordered distinct distinct' agree with
    ⟨error, fails, fails'⟩ | ⟨filled, filled', done, done', agree⟩
  · rw [construct, construct, fails, fails']
  · have names := (assembles_of_fill wf.fields supplies.once supplies.among done).names
    have names' := (assembles_of_fill wf.fields supplies'.once supplies'.among done').names
    -- the fields are in the order of the kind now, so that nothing is left to differ in
    have arranged : filled.arrange (Field.names b.fields) =
        filled'.arrange (Field.names b.fields) :=
      (agree.arrange _).eq (names.trans names'.symm) (names.symm ▸ wf.fields)
    rw [construct_of_fill done, construct_of_fill done', arranged]

/-- What a builder takes from another node are fields of its kind. -/
theorem WellFormed.supplies_taken (wf : b.WellFormed) (source : Node) :
    b.Supplies (b.fields.filterMap fun field => (source.get? field.name).map fun value =>
      (field.name, value)) where
  once := (names_taken source b.fields).nodup wf.fields
  among := (names_taken source b.fields).subset

/-- So are arguments. -/
theorem WellFormed.supplies_arguments (wf : b.WellFormed) {arguments : List Value}
    (fit : arguments.length = b.parameters.length) : b.Supplies (b.parameters.zip arguments) := by
  have names : (b.parameters.zip arguments).map (·.1) = b.parameters :=
    List.map_fst_zip (Nat.le_of_eq fit.symm)
  exact ⟨names.symm ▸ wf.parameters, names.symm ▸ wf.among⟩

/-- What is taken from another node are its fields that are fields of the
kind. -/
theorem WellFormed.lookup_taken (wf : b.WellFormed) (source : Node) (name : String) :
    (b.fields.filterMap fun field => (source.get? field.name).map fun value =>
        (field.name, value)).lookup name =
      if name ∈ Field.names b.fields then source.get? name else none := by
  have taken := get?_taken (Record.tagged b.kind) source b.fields name
  have nothing : (Record.tagged b.kind : Node).get? name = none := rfl
  rwa [(wf.supplies_taken source).setAll, nothing, Option.or_none] at taken

/-- **Arguments and fields** of the same names make the same. -/
theorem WellFormed.build_eq_fromFields (wf : b.WellFormed)
    (unordered : ∀ f ∈ b.fields, ∀ d, f.default = some d → d.Unordered) {arguments : List Value}
    (fit : arguments.length = b.parameters.length) {source : Node}
    (holds : ∀ f ∈ b.fields, source.get? f.name = (b.parameters.zip arguments).lookup f.name)
    (s : Schema) (limit : Nat) : b.build s limit arguments = b.fromFields s limit source := by
  have supplies := wf.supplies_arguments fit
  rw [build, if_pos fit]
  apply wf.construct_agree unordered supplies (wf.supplies_taken source)
  intro name
  rw [wf.lookup_taken source]
  by_cases listed : name ∈ Field.names b.fields
  · obtain ⟨f, member, rfl⟩ := List.mem_map.mp listed
    rw [if_pos listed, holds f member]
  · -- what is no field is no parameter either
    rw [if_neg listed, List.lookup_eq_none_iff]
    intro entry member
    have among : entry.1 ∈ Field.names b.fields :=
      supplies.among (List.mem_map_of_mem member)
    exact bne_iff_ne.mpr fun same => listed (same ▸ among)

end Builder

namespace Schema

variable {s : Schema} {kind : String}

/-- **Positions and names agree.**  After any requests, take a builder that is
handed out, none of whose defaults looks at the order of fields, and one
argument for each build parameter.  Take any node, with any tag or none, that
has the arguments in the fields that the parameters name, in any order, and no
other field of the kind.  From the arguments and from the node the builder
makes the same: the same node, or the same error; and neither returns if the
other does not. -/
theorem Reachable.positions_and_names_agree (reachable : s.Reachable) {b : Builder}
    (handed : (s.builder kind).2.2 = .ok b)
    (unordered : ∀ f ∈ b.fields, ∀ d, f.default = some d → d.Unordered) {arguments : List Value}
    (fit : arguments.length = b.parameters.length) {source : Node}
    (holds : ∀ f ∈ b.fields, source.get? f.name = (b.parameters.zip arguments).lookup f.name) :
    ∀ t limit, b.build t limit arguments = b.fromFields t limit source :=
  (reachable.builder_wellFormed handed).build_eq_fromFields unordered fit holds

/-- A rule that lists where a span begins and ends, and what it is. -/
def ends : Default :=
  .computed fun node =>
    .array [(node.get? "from").getD .null, (node.get? "to").getD .null,
      .string (node.tag.getD "none")]

theorem ends_unordered : ends.Unordered := by
  intro m n _ _ agree
  simp only [ends, Default.produce, agree.get?, agree.tag]

/-- Spans are made from where they end and where they begin, in this order. -/
def spans : Schema :=
  [.define "Span", .declare "Span" (.field (.required "from" .string)),
    .declare "Span" (.field (.optional "ends" (.arrayOf .string) ends)),
    .declare "Span" (.parameters ["to", "from"]),
    .declare "Span" (.field (.required "to" .string))].foldl after .empty

/-- The builder of spans. -/
def spanBuilder : Builder :=
  ⟨"Span", ["to", "from"], [.required "from" .string, .optional "ends" (.arrayOf .string) ends,
    .required "to" .string]⟩

/-- A node with another tag that begins somewhere, has a colour, and ends
somewhere. -/
def stretch (start stop : Value) : Node :=
  ⟨some "Road", [("from", start), ("colour", .string "red"), ("to", stop)]⟩

/-- From a road the same span is made as from its two ends, the far one
first; and if it begins nowhere, the same error is reported. -/
theorem road_spanned :
    spans.Reachable ∧ (spans.builder "Span").2.2 = .ok spanBuilder ∧
      (∀ f ∈ spanBuilder.fields, ∀ d, f.default = some d → d.Unordered) ∧
      spanBuilder.build spans 0 [.string "b", .string "a"] =
        spanBuilder.fromFields spans 0 (stretch (.string "a") (.string "b")) ∧
      spanBuilder.fromFields spans 0 (stretch (.string "a") (.string "b")) =
        some (.ok ⟨some "Span", [("from", .string "a"),
          ("ends", .array [.string "a", .string "b", .string "Span"]), ("to", .string "b")]⟩) ∧
      spanBuilder.build spans 0 [.string "b", .null] =
        spanBuilder.fromFields spans 0 (stretch .null (.string "b")) ∧
      spanBuilder.fromFields spans 0 (stretch .null (.string "b")) =
        some (.error (.violation "Span" "from" "string" "null" (.expected "string" "null"))) := by
  have reachable : spans.Reachable := Reachable.empty.foldl _
  have coherent := reachable.coherent
  have handed : (spans.builder "Span").2.2 = .ok spanBuilder := by
    have resolved : spans.shape "Span" =
        .ok ⟨spanBuilder.fields, ["Span"], some ["to", "from"]⟩ :=
      coherent.shape_ok_iff.mpr ⟨_, [], rfl, rfl, rfl⟩
    rw [coherent.builder_answer]
    exact builderOf_ok_iff.mpr ⟨_, ["to", "from"], resolved, rfl, rfl⟩
  have unordered : ∀ f ∈ spanBuilder.fields, ∀ d, f.default = some d → d.Unordered := by
    simp [spanBuilder, Field.required, Field.optional, ends_unordered]
  have holds : ∀ start stop : Value, ∀ f ∈ spanBuilder.fields,
      (stretch start stop).get? f.name =
        (spanBuilder.parameters.zip [stop, start]).lookup f.name := by
    intro start stop f listed
    simp only [spanBuilder, List.mem_cons, List.not_mem_nil, or_false] at listed
    rcases listed with rfl | rfl | rfl <;> rfl
  exact ⟨reachable, handed, unordered,
    reachable.positions_and_names_agree handed unordered rfl (holds _ _) spans 0, rfl,
    reachable.positions_and_names_agree handed unordered rfl (holds _ _) spans 0, rfl⟩

end Schema

end NodeSchema
