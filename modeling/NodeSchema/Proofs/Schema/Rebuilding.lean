import NodeSchema.Proofs.Schema.Outcomes

/-!
# Building again what was built

A node that a builder returned has every field of its kind, and no other, in
the order of the kind.  So a builder that is given its fields finds nothing to
fill in and nothing to put in order, asks no default, and asks the checks what
they were asked before.

* `Builder.Finished` — the form in which nodes are returned;
* `finished_of_build`, `finished_of_fromFields` — whatever they were made from;
* `Finished.fromFields_eq` — from a finished node the same one is judged;
* `Reachable.rebuilding_changes_nothing` — so a second pass changes nothing.
-/

namespace NodeSchema

namespace Builder

variable {s : Schema} {b : Builder} {limit : Nat} {source node : Node}
  {fields : List Field} {kind : String}

/-- The node has the kind of the builder and exactly the fields of the kind, in
order. -/
structure Finished (b : Builder) (node : Node) : Prop where
  tag : node.tag = some b.kind
  names : node.names = Field.names b.fields

/-- The fields that are taken from another node are fields of the kind, in
order. -/
theorem names_taken (source : Node) (fields : List Field) :
    ((fields.filterMap fun field => (source.get? field.name).map fun value =>
      (field.name, value)).map (·.1)).Sublist (Field.names fields) := by
  induction fields with
  | nil => exact .slnil
  | cons field rest ih =>
    rcases taken : source.get? field.name with - | value
    · rw [List.filterMap_cons_none (by rw [taken]; rfl)]
      exact ih.cons _
    · rw [List.filterMap_cons_some (by rw [taken]; rfl)]
      exact ih.cons_cons _

/-- What is constructed from fields of the kind is finished, and all its fields
are accepted. -/
theorem WellFormed.finished_of_construct (wf : b.WellFormed) {given : List (String × Value)}
    (once : (given.map (·.1)).Nodup) (among : given.map (·.1) ⊆ Field.names b.fields)
    (returns : b.construct s limit given = some (.ok node)) :
    b.Finished node ∧ ∀ f ∈ b.fields, FieldAccepted s limit node f := by
  obtain ⟨filled, done, rfl, judged⟩ := construct_ok_iff.mp returns
  have assembles : b.Assembles given (filled.arrange (Field.names b.fields)) :=
    assembles_of_fill wf.fields once among done
  exact ⟨⟨assembles.tag, assembles.names⟩, (judge_ok_iff assembles.present).mp judged⟩

/-- What `build` returns is finished. -/
theorem WellFormed.finished_of_build (wf : b.WellFormed) {arguments : List Value}
    (returns : b.build s limit arguments = some (.ok node)) :
    b.Finished node ∧ ∀ f ∈ b.fields, FieldAccepted s limit node f := by
  cases wf.build_iff.mp returns with
  | node _ assembles accepted => exact ⟨⟨assembles.tag, assembles.names⟩, accepted⟩

/-- What `fromFields` returns is finished, whatever other fields the source
has. -/
theorem WellFormed.finished_of_fromFields (wf : b.WellFormed)
    (returns : b.fromFields s limit source = some (.ok node)) :
    b.Finished node ∧ ∀ f ∈ b.fields, FieldAccepted s limit node f := by
  have taken := names_taken source b.fields
  exact wf.finished_of_construct (taken.nodup wf.fields) taken.subset returns

/-- Filling leaves alone what is complete. -/
theorem fill_of_present (present : ∀ f ∈ fields, node.has f.name = true) :
    fill kind node fields = .ok node := by
  induction fields with
  | nil => rfl
  | cons field rest ih =>
    rw [fill, if_pos (present field List.mem_cons_self)]
    exact ih fun f listed => present f (List.mem_cons_of_mem field listed)

/-- From a node with exactly the fields of the kind, in order, all entries are
taken as they are. -/
theorem taken_self (names : node.names = Field.names fields) (distinct : node.names.Nodup) :
    (fields.filterMap fun field => (node.get? field.name).map fun value => (field.name, value)) =
      node.entries := by
  have each : ∀ entry ∈ node.entries,
      ((node.get? entry.1).map fun value => (entry.1, value)) = some entry := by
    intro entry listed
    rw [Record.get?, Record.lookup_of_mem distinct listed]
    rfl
  calc fields.filterMap (fun field => (node.get? field.name).map fun value => (field.name, value))
      = (Field.names fields).filterMap
          fun name => (node.get? name).map fun value => (name, value) := by
        rw [Field.names, List.filterMap_map]
        rfl
    _ = node.entries.filterMap
          fun entry => (node.get? entry.1).map fun value => (entry.1, value) := by
        rw [← names, Record.names, List.filterMap_map]
        rfl
    _ = node.entries.filterMap some := List.filterMap_congr each
    _ = node.entries := List.filterMap_some

/-- **From a finished node the same one is judged.** -/
theorem Finished.fromFields_eq (finished : b.Finished node) (wf : b.WellFormed) (s : Schema)
    (limit : Nat) :
    b.fromFields s limit node =
      (judge s limit b.kind node b.fields).map fun verdict => verdict.map fun () => node := by
  have distinct : node.names.Nodup := finished.names ▸ wf.fields
  have start : (Record.tagged b.kind).setAll node.entries = node :=
    calc (Record.tagged b.kind).setAll node.entries
        = ⟨some b.kind, node.entries⟩ := Record.setAll_of_new distinct
      _ = node := by rw [← finished.tag]
  have done : fill b.kind ((Record.tagged b.kind).setAll node.entries) b.fields = .ok node := by
    rw [start]
    refine fill_of_present fun f listed => ?_
    rw [Record.has_iff, finished.names]
    exact Field.name_mem_names listed
  rw [fromFields, taken_self finished.names distinct, construct_of_fill done, ← finished.names,
    Record.arrange_self distinct]

end Builder

namespace Schema

variable {s t : Schema} {kind : String} {limit : Nat} {node : Node}

/-- **Rebuilding changes nothing.**  After any requests, let a builder return a
node, from arguments or from the fields of another node, by whatever defaults.
The node has exactly the effective fields of the kind, in order; and from its
own fields the builder returns the same node, then and as long as nothing is
declared. -/
theorem Reachable.rebuilding_changes_nothing (reachable : s.Reachable) {b : Builder}
    (handed : (s.builder kind).2.2 = .ok b) (later : s.Later t)
    (returns : (∃ arguments, b.build t limit arguments = some (.ok node)) ∨
      ∃ source, b.fromFields t limit source = some (.ok node)) :
    node.tag = some kind ∧ s.fieldNames kind = .ok node.names ∧
      ∀ u limit', t.Later u → limit ≤ limit' → b.fromFields u limit' node = some (.ok node) := by
  have wf := reachable.builder_wellFormed handed
  obtain ⟨rfl, shape, resolved, fields, -⟩ := reachable.coherent.builder_shape handed
  obtain ⟨finished, accepted⟩ :
      b.Finished node ∧ ∀ f ∈ b.fields, Builder.FieldAccepted t limit node f := by
    rcases returns with ⟨arguments, built⟩ | ⟨source, made⟩
    · exact wf.finished_of_build built
    · exact wf.finished_of_fromFields made
  refine ⟨finished.tag, ?_, fun u limit' after more => ?_⟩
  · rw [fieldNames, resolved, finished.names, ← fields]
    rfl
  · have alike := after.alike (later.coherent reachable.coherent)
    have still : ∀ f ∈ b.fields, Builder.FieldAccepted u limit' node f := by
      intro f listed
      obtain ⟨value, present, passed⟩ := accepted f listed
      refine ⟨value, present, ?_⟩
      rw [alike.check]
      exact check_mono more passed
    rw [finished.fromFields_eq wf, Builder.judge_of_accepted still]
    rfl

/-- A kind with a field that lists the fields that are there when it is
filled. -/
def roster : Schema :=
  [.define "Roster", .declare "Roster" (.parameters ["first"]),
    .declare "Roster" (.field (.optional "names" (.arrayOf .string) .fieldNames)),
    .declare "Roster" (.field (.required "first" .string))].foldl after .empty

/-- The builder of rosters. -/
def rosterBuilder : Builder :=
  ⟨"Roster", ["first"], [.optional "names" (.arrayOf .string) .fieldNames,
    .required "first" .string]⟩

/-- Fields for a roster, and another. -/
def draft : Node := (Record.untagged.set "colour" (.string "red")).set "first" (.string "owl")

/-- The roster that is made of the draft. -/
def fair : Node :=
  ⟨some "Roster", [("names", .array [.string "first"]), ("first", .string "owl")]⟩

/-- The roster says that it has one field, because it had one when that was
filled in.  It has two now, but still says so when it is built again. -/
theorem fair_rebuilt :
    roster.Reachable ∧ (roster.builder "Roster").2.2 = .ok rosterBuilder ∧
      rosterBuilder.fromFields roster 0 draft = some (.ok fair) ∧
      rosterBuilder.fromFields roster 0 fair = some (.ok fair) := by
  have reachable : roster.Reachable := Reachable.empty.foldl _
  have coherent := reachable.coherent
  have handed : (roster.builder "Roster").2.2 = .ok rosterBuilder := by
    have resolved : roster.shape "Roster" =
        .ok ⟨rosterBuilder.fields, ["Roster"], some ["first"]⟩ :=
      coherent.shape_ok_iff.mpr ⟨_, [], rfl, rfl, rfl⟩
    rw [coherent.builder_answer]
    exact builderOf_ok_iff.mpr ⟨_, ["first"], resolved, rfl, rfl⟩
  have made : rosterBuilder.fromFields roster 0 draft = some (.ok fair) := rfl
  obtain ⟨-, -, again⟩ := reachable.rebuilding_changes_nothing handed .refl (.inr ⟨draft, made⟩)
  exact ⟨reachable, handed, made, again roster 0 .refl (Nat.le_refl 0)⟩

end Schema

end NodeSchema
