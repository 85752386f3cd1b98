import NodeSchema.Proofs.Schema.Answers
import NodeSchema.Proofs.Schema.Construction
import NodeSchema.Proofs.Schema.Limits
import NodeSchema.Proofs.Schema.Linearization

/-!
# Omitted fields

A field that a node does not have is filled by its default.  Three parts of
the program do so, and show the default three different nodes.  A builder
shows it a node that has the tag of its kind, the fields of its kind as far as
they are filled, and no others.  A check of a node without a tag, and the
question for the value of one field, show it the node as it was handed over.

The three agree if no default looks at more than the fields that have to be
supplied: those are the same in all three nodes, and no default changes them.

* `Default.Reads` — what a default looks at;
* `Shape.Steady` — the defaults of a kind look at nothing but what has to be
  supplied;
* `Builder.fillsAs` — what filling does, in terms of the node handed over;
* `Builder.judge_in_step` — judging what was filled goes in step with
  checking what was handed over;
* `Coherent.fromFields_in_step`, `Coherent.fromFields_ok` — a builder and a
  check give the same verdict, on the same values;
* `Coherent.fieldValue_eq` — which are the values that single fields have;
* `Schema.Feeds`, `Coherent.steady` — how steadiness shows in the
  declarations.
-/

namespace NodeSchema

/-- The record with the same entries and another tag, or none. -/
def Record.retag {α : Type} (r : Record α) (tag : Option String) : Record α := ⟨tag, r.entries⟩

@[simp] theorem Record.get?_retag {α : Type} (r : Record α) (tag : Option String) (name : String) :
    (r.retag tag).get? name = r.get? name := rfl

/-- A default that looks at nothing of a node but the values of some
fields. -/
def Default.Reads (d : Default) (names : List String) : Prop :=
  ∀ m n : Node, (∀ name ∈ names, m.get? name = n.get? name) → d.produce m = d.produce n

theorem Default.reads_constant (value : Value) (names : List String) :
    (Default.constant value).Reads names :=
  fun _ _ _ => rfl

/-- What follows a chain of names from a node looks at the first of them. -/
theorem Default.reads_copied (name : String) (rest : List String) (fallback : Value) :
    (Default.copied (name :: rest) fallback).Reads [name] := by
  intro m n agree
  have first := agree name List.mem_cons_self
  have along : m.path? (name :: rest) = n.path? (name :: rest) := by
    cases rest with
    | nil => exact first
    | cons next rest =>
      have onward : ∀ r : Node, r.path? (name :: next :: rest) = (do
          let inner ← (← r.get? name).node?
          inner.path? (next :: rest)) := fun r => rfl
      rw [onward, onward, first]
  rw [Default.copied, Default.produce, Default.produce, along]

theorem Default.Reads.mono {d : Default} {names more : List String} (reads : d.Reads names)
    (listed : names ⊆ more) : d.Reads more :=
  fun m n agree => reads m n fun name member => agree name (listed member)

namespace Field

/-- The names of the fields that have to be supplied. -/
def supplied (fields : List Field) : List String := names (fields.filter (·.default.isNone))

theorem mem_supplied {f : Field} {fields : List Field} (listed : f ∈ fields)
    (needed : f.default = none) : f.name ∈ supplied fields := by
  apply name_mem_names
  rw [List.mem_filter, needed]
  exact ⟨listed, rfl⟩

/-- Where names are distinct, a field with a default is none that has to be
supplied. -/
theorem not_mem_supplied {f : Field} {fields : List Field} (distinct : (names fields).Nodup)
    (listed : f ∈ fields) {d : Default} (has : f.default = some d) : f.name ∉ supplied fields := by
  intro member
  obtain ⟨g, filtered, same⟩ := List.mem_map.mp member
  obtain ⟨other, needed⟩ := List.mem_filter.mp filtered
  have found := find?_of_mem distinct other
  rw [same, find?_of_mem distinct listed] at found
  obtain rfl := Option.some.inj found
  rw [has] at needed
  cases needed

/-- What a field is judged by in two nodes that look alike to its default. -/
theorem reading_congr {f : Field} {names : List String} {m n : Node}
    (reads : ∀ d, f.default = some d → d.Reads names) (own : m.get? f.name = n.get? f.name)
    (agree : ∀ name ∈ names, m.get? name = n.get? name) : f.reading m = f.reading n := by
  rw [reading, reading, own]
  rcases has : f.default with - | d
  · rfl
  · rw [Option.map_some, Option.map_some, reads d has m n agree]

end Field

/-- No default of the kind looks at anything but the fields that have to be
supplied. -/
def Shape.Steady (shape : Shape) : Prop :=
  ∀ f ∈ shape.fields, ∀ d, f.default = some d → d.Reads (Field.supplied shape.fields)

namespace Builder

variable {kind : String} {node source : Node} {fields : List Field} {names : List String}

/-- Filling gives each field what it is judged by in `source` and changes
nothing else, or it fails because a field has nothing to be judged by. -/
def FillsAs (kind : String) (node source : Node) (fields : List Field) : Prop :=
  (∃ filled, fill kind node fields = .ok filled ∧
      (∀ f ∈ fields, filled.get? f.name = f.reading source) ∧
      ∀ name ∉ Field.names fields, filled.get? name = node.get? name) ∨
    (∃ error, fill kind node fields = .error error) ∧ ∃ f ∈ fields, f.reading source = none

/-- One field is filled and nothing else changes; then the rest. -/
theorem FillsAs.cons {field : Field} {next : Node} (new : field.name ∉ Field.names fields)
    (goes : fill kind node (field :: fields) = fill kind next fields)
    (here : next.get? field.name = field.reading source)
    (others : ∀ name, name ≠ field.name → next.get? name = node.get? name)
    (rest : FillsAs kind next source fields) : FillsAs kind node source (field :: fields) := by
  rw [FillsAs, goes]
  rcases rest with ⟨filled, done, readings, keeps⟩ | ⟨fails, f, listed, absent⟩
  · refine .inl ⟨filled, done, fun f listed => ?_, fun name unlisted => ?_⟩
    · rcases List.mem_cons.mp listed with rfl | listed
      · rw [keeps f.name new, here]
      · exact readings f listed
    · have differs : name ≠ field.name := fun same => unlisted (same ▸ List.mem_cons_self)
      rw [keeps name fun listed => unlisted (List.mem_cons_of_mem _ listed), others name differs]
  · exact .inr ⟨fails, f, List.mem_cons_of_mem field listed, absent⟩

/-- **Filling.**  Any node that agrees with `source` on the fields that are to
be filled, and on those that their defaults look at, is filled as `source` is
read. -/
theorem fillsAs (reads : ∀ f ∈ fields, ∀ d, f.default = some d → d.Reads names ∧ f.name ∉ names)
    (distinct : (Field.names fields).Nodup)
    (own : ∀ f ∈ fields, node.get? f.name = source.get? f.name)
    (agree : ∀ name ∈ names, node.get? name = source.get? name) :
    FillsAs kind node source fields := by
  induction fields generalizing node with
  | nil =>
    refine .inl ⟨node, rfl, fun f listed => ?_, fun name _ => rfl⟩
    cases listed
  | cons field rest ih =>
    obtain ⟨new, distinct⟩ := List.nodup_cons.mp distinct
    have later : ∀ f ∈ rest, f.name ≠ field.name := by
      intro f listed same
      have repeated := Field.name_mem_names listed
      rw [same] at repeated
      exact new repeated
    have reads' := fun f listed => reads f (List.mem_cons_of_mem field listed)
    have own' := fun f listed => own f (List.mem_cons_of_mem field listed)
    rcases there : node.get? field.name with - | value
    · have absent : node.has field.name = false := by rw [Record.has, there]; rfl
      have missing : source.get? field.name = none := by
        rw [← own field List.mem_cons_self, there]
      rcases has : field.default with - | d
      · have fails : ∃ error, fill kind node (field :: rest) = .error error := by
          rw [fill, absent, has]
          exact ⟨_, rfl⟩
        refine .inr ⟨fails, field, List.mem_cons_self, ?_⟩
        rw [Field.reading, missing, has]
        rfl
      · obtain ⟨looks, apart⟩ := reads field List.mem_cons_self d has
        let next := node.set field.name (d.produce node)
        have others : ∀ name, name ≠ field.name → next.get? name = node.get? name := by
          intro name differs
          rw [Record.get?_set, if_neg differs]
        have filled : FillsAs kind next source rest := by
          apply ih reads' distinct
          · intro f listed
            rw [others f.name (later f listed), own' f listed]
          · intro name member
            rw [others name fun same => apart (same.subst member), agree name member]
        refine .cons new ?_ ?_ others filled
        · rw [fill, absent, has]
          rfl
        · rw [Record.get?_set, if_pos rfl, Field.reading, missing, has, looks node source agree]
          rfl
    · have present : node.has field.name = true := by rw [Record.has, there]; rfl
      refine .cons new ?_ ?_ (fun name _ => rfl) (ih reads' distinct own' agree)
      · rw [fill, present]
        rfl
      · rw [Field.reading, ← own field List.mem_cons_self, there]
        rfl

/-- **Judging goes in step with checking**, if the fields of the one node are
what those of the other are judged by. -/
theorem judge_in_step (s : Schema) (limit : Nat) (kind owner : String)
    (same : ∀ f ∈ fields, ∃ value, node.get? f.name = some value ∧ f.reading source = some value) :
    (judge s limit kind node fields).map Except.toBool =
      (Schema.checkFields (s.checkKind limit) .shallow owner source fields).map Except.toBool := by
  induction fields with
  | nil => rfl
  | cons field rest ih =>
    obtain ⟨value, present, read⟩ := same field List.mem_cons_self
    have rest_in_step := ih fun f listed => same f (List.mem_cons_of_mem field listed)
    rw [judge, Schema.checkFields, ← Field.reading, read, present]
    dsimp only
    rw [Schema.check]
    rcases field.constraint.check (s.checkKind limit) .shallow value with - | (mismatch | done)
    · rfl
    · rfl
    · exact rest_in_step

/-- The fields that are taken from another node. -/
theorem get?_taken (r source : Node) (fields : List Field) (name : String) :
    (r.setAll (fields.filterMap fun field =>
        (source.get? field.name).map fun value => (field.name, value))).get? name =
      if name ∈ Field.names fields then (source.get? name).or (r.get? name) else r.get? name := by
  induction fields generalizing r with
  | nil => rfl
  | cons field rest ih =>
    rcases has : source.get? field.name with - | value
    · rw [List.filterMap_cons_none (by rw [has]; rfl), ih]
      by_cases same : name = field.name
      · simp [same, has]
      · simp [same]
    · rw [List.filterMap_cons_some (by rw [has]; rfl)]
      show ((r.set field.name value).setAll _).get? name = _
      rw [ih, Record.get?_set]
      by_cases same : name = field.name
      · simp [same, has]
      · simp [same]

/-- **A builder sees what a check sees.**  Of the fields of a node a builder
makes one in which each field has what it is judged by in the node without
its tag, and judges that one; or it refuses, and some field has nothing to be
judged by. -/
theorem fromFields_cases (b : Builder) (source : Node)
    (distinct : (Field.names b.fields).Nodup)
    (steady : ∀ f ∈ b.fields, ∀ d, f.default = some d → d.Reads (Field.supplied b.fields)) :
    (∃ made : Node, (∀ f ∈ b.fields, ∃ value, made.get? f.name = some value ∧
          f.reading (source.retag none) = some value) ∧
        ∀ s limit, b.fromFields s limit source =
          (judge s limit b.kind made b.fields).map fun verdict => verdict.map fun () => made) ∨
      (∃ error, ∀ s limit, b.fromFields s limit source = some (.error error)) ∧
        ∃ f ∈ b.fields, f.reading (source.retag none) = none := by
  let start := (Record.tagged b.kind).setAll (b.fields.filterMap fun field =>
    (source.get? field.name).map fun value => (field.name, value))
  have own : ∀ name ∈ Field.names b.fields, start.get? name = source.get? name := by
    intro name listed
    have nothing : (Record.tagged b.kind).get? name = (none : Option Value) := rfl
    rw [get?_taken, if_pos listed, nothing, Option.or_none]
  have among : Field.supplied b.fields ⊆ Field.names b.fields := by
    intro name member
    obtain ⟨f, filtered, rfl⟩ := List.mem_map.mp member
    exact Field.name_mem_names (List.mem_of_mem_filter filtered)
  have reads : ∀ f ∈ b.fields, ∀ d, f.default = some d →
      d.Reads (Field.supplied b.fields) ∧ f.name ∉ Field.supplied b.fields :=
    fun f listed d has => ⟨steady f listed d has, Field.not_mem_supplied distinct listed has⟩
  have fills : FillsAs b.kind start (source.retag none) b.fields := by
    apply fillsAs reads distinct
    · exact fun f listed => own f.name (Field.name_mem_names listed)
    · exact fun name member => own name (among member)
  rcases fills with ⟨filled, done, readings, -⟩ | ⟨⟨error, fails⟩, f, listed, absent⟩
  · refine .inl ⟨filled.arrange (b.fields.map (·.name)), fun f listed => ?_, fun s limit => ?_⟩
    · obtain ⟨-, -, fills⟩ := fill_ok done
      obtain ⟨value, present⟩ := Option.isSome_iff_exists.mp (fills f listed)
      rw [Record.get?_arrange]
      exact ⟨value, present, (readings f listed).symm.trans present⟩
    · rw [fromFields, construct, done]
      dsimp only
      rcases judge s limit b.kind _ b.fields with - | verdict <;> rfl
  · refine .inr ⟨⟨error, fun s limit => ?_⟩, f, listed, absent⟩
    rw [fromFields, construct, fails]

end Builder

/-- A computation that succeeds has a result. -/
theorem toBool_eq_true_iff {α ε : Type} {x : Except ε α} :
    x.toBool = true ↔ ∃ a, x = .ok a := by
  cases x with
  | error e => simp [Except.toBool]
  | ok a => simp [Except.toBool]

namespace Schema

variable {s : Schema} {kind : String} {shape : Shape} {limit : Nat} {source node : Node}
  {parameters : List String}

/-- The check of a node without a tag is one of its fields. -/
theorem checkKind_loose (resolved : s.shape kind = .ok shape) (limit : Nat) (source : Node) :
    s.checkKind (limit + 1) kind (.node (source.retag none)) .shallow =
      checkFields (s.checkKind limit) .shallow kind (source.retag none) shape.fields :=
  checkKind_judged (contains_of_shapeBelow resolved) (.untagged rfl resolved) limit

/-- Each field of a node without a tag that passes has something to be judged
by. -/
theorem readings_of_checkKind (resolved : s.shape kind = .ok shape)
    (passed : s.checkKind limit kind (.node (source.retag none)) .shallow = some (.ok ())) :
    ∀ f ∈ shape.fields, f.reading (source.retag none) ≠ none := by
  intro f listed absent
  have accepted : s.Accepts .shallow (.kind kind) (.node (source.retag none)) :=
    checkKind_decides limit kind _ _ passed
  obtain ⟨value, read, -⟩ := accepted.acceptsField (.untagged rfl resolved) f listed
  rw [absent] at read
  cases read

/-- **A builder answers as a check does.**  Whenever the check of a node
without its tag returns, so does the builder that is given the fields of the
node, and succeeds exactly if the check does. -/
theorem Coherent.fromFields_in_step (coherent : s.Coherent) (resolved : s.shape kind = .ok shape)
    (steady : shape.Steady) {verdict : Verdict}
    (returns : s.checkKind limit kind (.node (source.retag none)) .shallow = some verdict) :
    ∃ result, (Builder.mk kind parameters shape.fields).fromFields s limit source = some result ∧
      result.toBool = verdict.toBool := by
  have distinct := coherent.nodup_fieldNames resolved
  rcases Builder.fromFields_cases ⟨kind, parameters, shape.fields⟩ source distinct steady with
    ⟨made, readings, answer⟩ | ⟨⟨error, answer⟩, f, listed, absent⟩
  · -- the builder checks as deeply as the check of the kind with one level more
    have more := checkKind_succ limit kind _ verdict returns
    rw [checkKind_loose resolved] at more
    have step := Builder.judge_in_step s limit kind kind readings
    rw [more] at step
    obtain ⟨judged, judges, same⟩ := Option.map_eq_some_iff.mp step
    refine ⟨judged.map fun () => made, ?_, ?_⟩
    · rw [answer, judges]
      rfl
    · rw [← same]
      rcases judged with mismatch | done <;> rfl
  · refine ⟨.error error, answer s limit, ?_⟩
    cases verdict with
    | ok => exact absurd absent (readings_of_checkKind resolved returns f listed)
    | error mismatch => rfl

/-- **What a builder makes.**  If a builder takes the fields of a node, the
check of the node without its tag passes, and each field of what is made is
what the check judged the field by. -/
theorem Coherent.fromFields_ok (coherent : s.Coherent) (resolved : s.shape kind = .ok shape)
    (steady : shape.Steady)
    (made : (Builder.mk kind parameters shape.fields).fromFields s limit source = some (.ok node)) :
    s.checkKind (limit + 1) kind (.node (source.retag none)) .shallow = some (.ok ()) ∧
      ∀ f ∈ shape.fields, ∃ value, node.get? f.name = some value ∧
        f.reading (source.retag none) = some value := by
  have distinct := coherent.nodup_fieldNames resolved
  rcases Builder.fromFields_cases ⟨kind, parameters, shape.fields⟩ source distinct steady with
    ⟨filled, readings, answer⟩ | ⟨⟨error, answer⟩, -⟩
  · rw [answer] at made
    obtain ⟨verdict, judges, done⟩ := Option.map_eq_some_iff.mp made
    cases verdict with
    | error error => cases done
    | ok =>
      obtain rfl : filled = node := Except.ok.inj done
      have step := Builder.judge_in_step s limit kind kind readings
      rw [judges] at step
      obtain ⟨verdict, checked, passes⟩ := Option.map_eq_some_iff.mp step.symm
      obtain ⟨⟨⟩, rfl⟩ := toBool_eq_true_iff.mp passes
      rw [checkKind_loose resolved]
      exact ⟨checked, readings⟩
  · rw [answer] at made
    cases made

/-- The value of a field of a node with the tag of its kind is what the field
is judged by. -/
theorem Coherent.fieldValue_eq (coherent : s.Coherent) (resolved : s.shape kind = .ok shape)
    (tagged : node.tag = some kind) {f : Field} (listed : f ∈ shape.fields) :
    s.fieldValue node f.name = f.reading node := by
  have found : shape.field? f.name = some f :=
    Field.find?_of_mem (coherent.nodup_fieldNames resolved) listed
  rw [fieldValue, Field.reading]
  rcases node.get? f.name with - | value
  · simp only [tagged, resolved, found, Except.toOption, Option.bind_eq_bind, Option.bind_some]
    rcases f.default with - | d <;> rfl
  · rfl

/-- A kind declares a field called `name`, and no kind declares one of that
name with a default. -/
def supplies (s : Schema) (kind name : String) : Bool :=
  (s.find? kind).any (fun k => (Field.names k.fields).contains name) &&
    s.kinds.all fun k => k.fields.all fun f => f.name != name || f.default.isNone

/-- Whatever a default looks at is supplied by the kind that declares it. -/
def Feeds (s : Schema) (kind : String) (default : Option Default) : Prop :=
  ∀ d, default = some d → ∃ names, d.Reads names ∧ ∀ name ∈ names, s.supplies kind name = true

@[simp] theorem feeds_none (s : Schema) (kind : String) : s.Feeds kind none := by
  intro d has
  cases has

@[simp] theorem feeds_constant (s : Schema) (kind : String) (value : Value) :
    s.Feeds kind (some (.constant value)) := by
  intro d has
  obtain rfl := Option.some.inj has
  refine ⟨[], Default.reads_constant value [], fun name member => ?_⟩
  cases member

/-- A default that looks at one field which its kind supplies. -/
theorem feeds_of_reads {d : Default} {name : String} (reads : d.Reads [name])
    (supplied : s.supplies kind name = true) : s.Feeds kind (some d) := by
  intro d' has
  obtain rfl := Option.some.inj has
  refine ⟨[name], reads, fun other member => ?_⟩
  rw [List.mem_singleton.mp member]
  exact supplied

/-- What is supplied at or above a kind has to be supplied to it. -/
theorem Coherent.mem_supplied (coherent : s.Coherent) (resolved : s.shape kind = .ok shape)
    {other name : String} (reach : s.Reaches kind other) (supplied : s.supplies other name = true) :
    name ∈ Field.supplied shape.fields := by
  obtain ⟨declared, bare⟩ := Bool.and_eq_true_iff.mp supplied
  have declared : ∃ k, s.find? other = some k ∧ name ∈ Field.names k.fields := by
    simpa [Option.any_eq_true] using declared
  have bare : ∀ k ∈ s.kinds, ∀ f ∈ k.fields, f.name = name → f.default = none := by
    simpa [or_iff_not_imp_left] using bare
  obtain ⟨k, found, own⟩ := declared
  have effective := (coherent.mem_fieldNames_iff resolved).mpr ⟨other, k, reach, found, own⟩
  obtain ⟨f, listed, rfl⟩ := List.mem_map.mp effective
  obtain ⟨declaring, member, own⟩ := coherent.declares_field resolved f listed
  exact Field.mem_supplied listed (bare declaring member f own rfl)

/-- **Steadiness shows in the declarations.**  The kinds of a schema are
steady if each default that is declared looks at nothing but what its kind
supplies. -/
theorem Coherent.steady (coherent : s.Coherent)
    (each : s.AllDefaults fun kind _ default => s.Feeds kind default)
    (resolved : s.shape kind = .ok shape) : shape.Steady := by
  intro f listed d has
  obtain ⟨other, k, reach, found, own⟩ := coherent.declared_above resolved f listed
  obtain ⟨names, reads, supplied⟩ := each k (mem_of_find? found) f own d has
  apply reads.mono
  intro name member
  have here := supplied name member
  rw [name_of_find? found] at here
  exact coherent.mem_supplied resolved reach here

end Schema

end NodeSchema
