import NodeSchema.Description.Basic
import NodeSchema.Proofs.Schema.Answers
import NodeSchema.Proofs.Schema.Auditing
import NodeSchema.Proofs.Schema.Declarations
import NodeSchema.Proofs.Schema.Limits

/-!
# What a passed audit guarantees

An audit reads the declarations of each kind on its own.  What happens later
mixes them: fields come down from other kinds, checks go from kind to kind,
and kinds are finalized in between.  Nothing of this brings up a problem that
the audit did not see, until the next declaration.

* `Schema.HasParameters` — build parameters somewhere on the chain of first
  supertypes;
* `Mismatch.BlamesSchema` — a report that leads to an undefined or
  malformed kind;
* `Schema.Reliable` — validators, builders, descriptions and checks work;
* `Sound.later` — requests that declare nothing keep a schema sound;
* `Sound.blameless` — checks against named kinds do not blame the schema;
* `Reachable.audit_guarantees` — an audit passes exactly the sound schemas,
  and these stay reliable until the next declaration.
-/

namespace NodeSchema

/-- A report that leads, through elements and fields, to a kind that is not
defined or does not resolve. -/
def Mismatch.BlamesSchema : Mismatch → Prop
  | .unresolved _ | .malformed _ _ => True
  | .element _ cause | .field _ _ cause => cause.BlamesSchema
  | .expected _ _ | .noAlternative _ _ | .missingField _ _ => False

namespace Schema

/-- `base` is the first of the supertypes that `name` lists. -/
def Primary (s : Schema) (name base : String) : Prop :=
  ∃ k, s.find? name = some k ∧ k.supertypes.head? = some base

/-- The kind, or its first supertype, or the first supertype of that, and so
on, has build parameters of its own. -/
def HasParameters (s : Schema) (name : String) : Prop :=
  ∃ above k, Relation.ReflTransGen s.Primary name above ∧ s.find? above = some k ∧
    k.parameters.isSome = true

/-- Every defined kind has a validator; builders are there for exactly the
kinds with build parameters on their chain of first supertypes; the schema
can be described; and no check of a value against a defined kind, whenever it
returns, blames the schema. -/
structure Reliable (s : Schema) : Prop where
  validates : ∀ kind, s.contains kind = true → (s.validator kind).2.2 = .ok ()
  builds : ∀ kind, (∃ b, (s.builder kind).2.2 = .ok b) ↔ s.HasParameters kind
  describes : ∃ description, s.describeAll = .ok description
  blameless : ∀ limit kind value depth mismatch, s.contains kind = true →
    s.checkKind limit kind value depth = some (.error mismatch) → ¬ mismatch.BlamesSchema

variable {s t : Schema} {name : String} {shape : Shape}

/-- A kind has build parameters on its chain if it has its own, or if its
first supertype has. -/
theorem hasParameters_iff {k : Kind} (found : s.find? name = some k) :
    s.HasParameters name ↔
      k.parameters.isSome = true ∨ ∃ base, k.supertypes.head? = some base ∧ s.HasParameters base := by
  constructor
  · rintro ⟨above, other, chain, there, has⟩
    rcases chain.cases_head with rfl | ⟨base, ⟨k', found', first⟩, rest⟩
    · obtain rfl : k = other := Option.some.inj (found.symm.trans there)
      exact .inl has
    · obtain rfl : k = k' := Option.some.inj (found.symm.trans found')
      exact .inr ⟨base, first, above, other, rest, there, has⟩
  · rintro (has | ⟨base, first, above, other, chain, there, has⟩)
    · exact ⟨name, k, .refl, found, has⟩
    · exact ⟨above, other, chain.head ⟨k, found, first⟩, there, has⟩

/-- Only a defined kind has a chain. -/
theorem HasParameters.defined (chain : s.HasParameters name) : ∃ k, s.find? name = some k := by
  obtain ⟨above, k, way, found, -⟩ := chain
  rcases way.cases_head with rfl | ⟨_, ⟨first, here, _⟩, _⟩
  · exact ⟨k, found⟩
  · exact ⟨first, here⟩

/-- **Inherited build parameters.**  The shape of a kind has build parameters
exactly if there are some on its chain of first supertypes. -/
theorem Coherent.parameters_isSome_iff (coherent : s.Coherent)
    (resolved : s.shape name = .ok shape) :
    shape.parameters.isSome = true ↔ s.HasParameters name := by
  refine coherent.shape_induction (motive := fun name shape =>
    shape.parameters.isSome = true ↔ s.HasParameters name) ?_ resolved
  intro name k bases found walked ih
  have inherited : (bases.head?.bind (·.parameters)).isSome = true ↔
      ∃ base, k.supertypes.head? = some base ∧ s.HasParameters base := by
    have pointwise := mapM_ok_iff.mp walked
    cases supertypes : k.supertypes with
    | nil =>
      rw [supertypes, List.forall₂_nil_left_iff] at pointwise
      simp [pointwise]
    | cons base rest =>
      rw [supertypes] at pointwise ih
      obtain ⟨above, others, resolved, -, rfl⟩ := List.forall₂_cons_left_iff.mp pointwise
      have primary := ih base List.mem_cons_self above resolved
      simp [primary]
  rw [hasParameters_iff found, ← inherited]
  simp [Kind.effectiveParameters, Option.isSome_or]

/-- A schema in which every kind resolves can be described. -/
theorem describeAll_succeeds (resolves : ∀ k ∈ s.kinds, ∃ shape, s.shape k.name = .ok shape) :
    ∃ description, s.describeAll = .ok description := by
  have each : ∀ name ∈ s.names, ∃ description, s.describe name = .ok description := by
    intro name listed
    obtain ⟨k, there, rfl⟩ := List.mem_map.mp listed
    obtain ⟨shape, resolved⟩ := resolves k there
    exact ⟨_, bind_ok_iff.mpr ⟨shape, resolved, rfl⟩⟩
  obtain ⟨descriptions, walked⟩ := exists_mapM_ok each
  exact ⟨⟨descriptions⟩, bind_ok_iff.mpr ⟨descriptions, walked, rfl⟩⟩

namespace Sound

/-- Every defined kind of a sound schema resolves. -/
theorem resolves_of_contains (sound : s.Sound) (defined : s.contains name = true) :
    ∃ shape, s.shape name = .ok shape := by
  obtain ⟨k, found⟩ := contains_iff.mp defined
  obtain ⟨shape, resolved⟩ := sound.resolves k (mem_of_find? found)
  rw [name_of_find? found] at resolved
  exact ⟨shape, resolved⟩

/-- **Requests that declare nothing keep a schema sound.** -/
theorem later (sound : s.Sound) (coherent : s.Coherent) (after : s.Later t) : t.Sound := by
  have alike := after.alike coherent
  -- a kind afterwards is a kind from before, up to the shape that it holds
  have origin : ∀ k ∈ t.kinds, ∃ before ∈ s.kinds,
      before.declared = k.declared ∧ t.shape k.name = s.shape before.name := by
    intro k listed
    obtain ⟨before, there, same⟩ := mem_kinds_of_declared after.declared listed
    have named : before.declared.name = k.declared.name := by rw [same]
    refine ⟨before, there, same, ?_⟩
    rw [alike.shape]
    exact congrArg s.shape named.symm
  constructor
  · intro k listed base above
    obtain ⟨before, there, same, -⟩ := origin k listed
    have above' : base ∈ before.declared.supertypes := same ▸ above
    rw [alike.contains]
    exact sound.supertypes before there base above'
  · intro k listed f own name named
    obtain ⟨before, there, same, -⟩ := origin k listed
    have own' : f ∈ before.declared.fields := same ▸ own
    rw [alike.contains]
    exact sound.constraints before there f own' name named
  · intro k listed
    obtain ⟨before, there, -, alike⟩ := origin k listed
    rw [alike]
    exact sound.resolves before there
  · intro k listed shape parameters resolved has
    obtain ⟨before, there, -, alike⟩ := origin k listed
    rw [alike] at resolved
    exact sound.fillable before there shape parameters resolved has

/-- A node is refused for what it is, not for what the schema is. -/
theorem refuses_blameless (sound : s.Sound) {kind : String} {node : Node} {mismatch : Mismatch}
    (asked : s.contains kind = true) (refuses : s.Refuses kind node mismatch) :
    ¬ mismatch.BlamesSchema := by
  cases refuses with
  | malformed _ unresolved =>
    obtain ⟨shape, resolved⟩ := sound.resolves_of_contains asked
    rw [resolved] at unresolved
    cases unresolved
  | undefinedTag => exact id
  | malformedTag _ defined unresolved =>
    obtain ⟨shape, resolved⟩ := sound.resolves_of_contains defined
    rw [resolved] at unresolved
    cases unresolved
  | notBelow => exact id

/-- **Blame.**  If a constraint names defined kinds only, no value is rejected
by it because of the schema. -/
theorem blameless (sound : s.Sound) (coherent : s.Coherent) {depth : Depth} {c : Constraint}
    {value : Value} {mismatch : Mismatch} (rejects : s.Rejects depth c value mismatch) :
    (∀ name, c.Names name → s.contains name = true) → ¬ mismatch.BlamesSchema := by
  induction rejects with
  | primitive | literal | union | notArray | notNode | missing => exact fun _ => id
  | element _ _ ih => exact fun known => ih fun name named => known name (.arrayOf named)
  | undefined absent =>
    intro known
    rw [known _ .kind] at absent
    cases absent
  | refused asked refuses => exact fun _ => sound.refuses_blameless asked refuses
  | @field _ _ shape _ _ _ field _ _ _ judges split _ _ _ ih =>
    -- the field may come down from another kind, whose declaration was audited
    intro _
    apply ih
    intro name named
    have effective : field ∈ shape.fields := by
      rw [split]
      exact List.mem_append_right _ List.mem_cons_self
    obtain ⟨k, listed, own⟩ := coherent.declares_field judges.resolves field effective
    exact sound.constraints k listed field own name named

/-- Builders are there for exactly the kinds with build parameters on their
chain of first supertypes. -/
theorem builder_iff (sound : s.Sound) (coherent : s.Coherent) (kind : String) :
    (∃ b, s.builderOf kind = .ok b) ↔ s.HasParameters kind := by
  constructor
  · rintro ⟨b, handed⟩
    obtain ⟨shape, parameters, resolved, built, -⟩ := builderOf_ok_iff.mp handed
    obtain ⟨has, -⟩ := Shape.buildParameters_ok_iff.mp built
    rw [← coherent.parameters_isSome_iff resolved, has]
    rfl
  · intro chain
    obtain ⟨k, found⟩ := chain.defined
    obtain ⟨shape, resolved⟩ := sound.resolves_of_contains (contains_iff.mpr ⟨k, found⟩)
    have has := (coherent.parameters_isSome_iff resolved).mpr chain
    obtain ⟨parameters, has⟩ := Option.isSome_iff_exists.mp has
    have fillable : shape.Fillable parameters := by
      rw [← name_of_find? found] at resolved
      exact sound.fillable k (mem_of_find? found) shape parameters resolved has
    have built : shape.buildParameters kind = .ok parameters :=
      Shape.buildParameters_ok_iff.mpr ⟨has, fillable⟩
    exact ⟨_, builderOf_ok_iff.mpr ⟨shape, parameters, resolved, built, rfl⟩⟩

/-- A sound schema can be described. -/
theorem describeAll_succeeds (sound : s.Sound) : ∃ description, s.describeAll = .ok description :=
  Schema.describeAll_succeeds sound.resolves

/-- No check against a defined kind, whenever it returns, blames a sound
schema. -/
theorem checkKind_blameless (sound : s.Sound) (coherent : s.Coherent) {limit : Nat}
    {kind : String} {value : Value} {depth : Depth} {mismatch : Mismatch}
    (defined : s.contains kind = true)
    (returns : s.checkKind limit kind value depth = some (.error mismatch)) :
    ¬ mismatch.BlamesSchema := by
  have rejects : s.Rejects depth (.kind kind) value mismatch :=
    checkKind_decides limit kind value _ returns
  apply sound.blameless coherent rejects
  intro name named
  cases named with
  | kind => exact defined

/-- **A sound schema is reliable.** -/
theorem reliable (sound : s.Sound) (coherent : s.Coherent) : s.Reliable where
  validates kind defined := by
    obtain ⟨shape, resolved⟩ := sound.resolves_of_contains defined
    rw [coherent.validator_answer, resolved]
    rfl
  builds kind := by
    rw [coherent.builder_answer]
    exact sound.builder_iff coherent kind
  describes := sound.describeAll_succeeds
  blameless _ _ _ _ _ defined returns := sound.checkKind_blameless coherent defined returns

end Sound

/-- **Audits are exact, and last until the next declaration.**  After any
requests: an audit passes exactly if every named kind is defined, every kind
resolves, and every kind with build parameters can be filled.  If it passes,
then after any further requests that declare nothing every defined kind has a
validator, builders are there for exactly the kinds with build parameters on
their chain of first supertypes, the schema can be described, and no check
against a defined kind blames the schema. -/
theorem Reachable.audit_guarantees (reachable : s.Reachable) :
    ((∃ events, s.audit = .ok events) ↔ s.Sound) ∧
      ((∃ events, s.audit = .ok events) → ∀ t, s.Later t → t.Reliable) := by
  have coherent := reachable.coherent
  refine ⟨audit_ok_iff, fun passed t after => ?_⟩
  have sound : s.Sound := audit_ok_iff.mp passed
  exact (sound.later coherent after).reliable (after.coherent coherent)

/-- Oaks are trees, which have build parameters, and trees are plants, which
have none.  What a plant stands in is declared last. -/
def garden : Schema :=
  [.define "Plant", .declare "Plant" (.field (.required "ground" (.union [.kind "Soil", .null]))),
    .define "Tree", .declare "Tree" (.supertypes ["Plant"]),
    .declare "Tree" (.parameters ["ground"]),
    .define "Oak", .declare "Oak" (.supertypes ["Tree"]),
    .declare "Oak" (.field (.optional "age" .number (.constant .null))),
    .define "Soil", .declare "Soil" (.parameters [])].foldl after .empty

/-- An oak of unknown age that stands in a string. -/
def potted : Node := Record.untagged.set "ground" (.string "pot")

/-- The garden after a builder of oaks was requested. -/
def oakGarden : Schema := garden.after (.builder "Oak")

/-- The audit passes.  After a builder was requested, oaks are known to have
build parameters above them, plants to have none, and a mismatch to blame the
value. -/
theorem garden_reliable :
    garden.Reachable ∧ garden.Sound ∧ garden.Later oakGarden ∧
      oakGarden.isFinalized "Tree" = true ∧
      oakGarden.HasParameters "Oak" ∧ ¬ oakGarden.HasParameters "Plant" ∧
      oakGarden.checkKind 2 "Oak" (.node potted) .deep =
        some (.error (.field "Oak" "ground" (.noAlternative ["Soil", "null"] "\"pot\""))) ∧
      ¬ (Mismatch.field "Oak" "ground"
        (.noAlternative ["Soil", "null"] "\"pot\"")).BlamesSchema := by
  have reachable : garden.Reachable := Reachable.empty.foldl _
  have audited : garden.audit.isOk = true := by decide +kernel
  have later : garden.Later oakGarden := .step .refl _ rfl
  obtain ⟨sound_iff, guarantees⟩ := reachable.audit_guarantees
  have passed := exists_ok_of_isOk audited
  have reliable : oakGarden.Reliable := guarantees passed _ later
  have oak : (oakGarden.builder "Oak").2.2.isOk = true := by decide +kernel
  have plant : (oakGarden.builder "Plant").2.2.isOk = false := by decide +kernel
  have returns : oakGarden.checkKind 2 "Oak" (.node potted) .deep =
      some (.error (.field "Oak" "ground" (.noAlternative ["Soil", "null"] "\"pot\""))) := by
    decide +kernel
  refine ⟨reachable, sound_iff.mp passed, later, by decide +kernel, ?_, ?_, returns, ?_⟩
  · exact (reliable.builds "Oak").mp (exists_ok_of_isOk oak)
  · intro chain
    obtain ⟨b, handed⟩ := (reliable.builds "Plant").mpr chain
    rw [handed] at plant
    cases plant
  · exact reliable.blameless 2 "Oak" (.node potted) .deep _ (by decide +kernel) returns

end Schema

end NodeSchema
