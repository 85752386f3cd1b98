import NodeSchema.Proofs.Constraint.Acceptance
import NodeSchema.Proofs.Schema.Resolution
import NodeSchema.Schema.Audit

/-!
# What an audit looks for

An audit makes three passes over the kinds and reports the first problem.
This file says without the passes what there is to find.

* `Constraint.Names` — a constraint names a kind, at any depth;
* `Shape.Fillable` — every field is a build parameter or has a default;
* `Schema.Sound` — every named kind is defined, every kind resolves, and
  every kind with build parameters can be filled;
* `audit_ok_iff` — an audit passes exactly the sound schemas.
-/

namespace NodeSchema

/-- A constraint names a kind, or is made of one that does. -/
inductive Constraint.Names (name : String) : Constraint → Prop
  | kind : Names name (.kind name)
  | union {alternatives : List Constraint} {c : Constraint} (listed : c ∈ alternatives)
      (named : Names name c) : Names name (.union alternatives)
  | arrayOf {element : Constraint} (named : Names name element) : Names name (.arrayOf element)

namespace Constraint

variable {name : String}

theorem mem_kindsAmong_iff {alternatives : List Constraint} :
    name ∈ kindsAmong alternatives ↔ ∃ c ∈ alternatives, name ∈ c.kinds := by
  induction alternatives with
  | nil => simp [kindsAmong]
  | cons c rest ih => rw [kindsAmong, List.mem_append, ih, List.exists_mem_cons_iff]

/-- The kinds on the list of a constraint are those that it names. -/
theorem mem_kinds_iff (c : Constraint) : name ∈ c.kinds ↔ c.Names name := by
  induction c using Constraint.induction with
  | kind other =>
    rw [kinds, List.mem_singleton]
    constructor
    · rintro rfl
      exact .kind
    · intro named
      cases named with
      | kind => rfl
  | primitive type =>
    have nothing : ¬ (primitive type).Names name := by
      intro named
      cases named
    simp [kinds, nothing]
  | literal wanted =>
    have nothing : ¬ (literal wanted).Names name := by
      intro named
      cases named
    simp [kinds, nothing]
  | union alternatives ih =>
    rw [kinds, mem_kindsAmong_iff]
    constructor
    · rintro ⟨c, listed, h⟩
      exact .union listed ((ih c listed).mp h)
    · intro named
      cases named with
      | union listed named => exact ⟨_, listed, (ih _ listed).mpr named⟩
  | arrayOf element ih =>
    rw [kinds, ih]
    constructor
    · exact .arrayOf
    · intro named
      cases named with
      | arrayOf named => exact named

end Constraint

namespace Shape

variable {shape : Shape} {kind : String} {parameters : List String}

/-- Every field is among the build parameters or has a default. -/
def Fillable (shape : Shape) (parameters : List String) : Prop :=
  ∀ f ∈ shape.fields, f.name ∈ parameters ∨ f.default.isSome = true

/-- A kind can be built exactly if it has build parameters by which every
field can be filled. -/
theorem buildParameters_ok_iff :
    shape.buildParameters kind = .ok parameters ↔
      shape.parameters = some parameters ∧ shape.Fillable parameters := by
  have unreachable_iff : ∀ {others : List String} {f : Field},
      (f.default.isNone && !others.contains f.name) = true ↔
        ¬ (f.name ∈ others ∨ f.default.isSome = true) := by
    intro others f
    cases f.default <;> simp
  unfold buildParameters
  rcases has : shape.parameters with - | others
  · simp
  dsimp only
  split
  · next f found =>
    have listed : f ∈ shape.fields := List.mem_of_find?_eq_some found
    have unreachable := List.find?_some found
    have unfilled := unreachable_iff.mp unreachable
    constructor
    · intro returned
      cases returned
    · rintro ⟨same, fillable⟩
      obtain rfl := Option.some.inj same
      exact absurd (fillable f listed) unfilled
  · next none =>
    have fillable : shape.Fillable others := by
      intro f listed
      have passed := List.find?_eq_none.mp none f listed
      rwa [unreachable_iff, not_not] at passed
    constructor
    · intro returned
      obtain rfl := Except.ok.inj returned
      exact ⟨rfl, fillable⟩
    · rintro ⟨same, -⟩
      rw [Option.some.inj same]

/-- A shape passes exactly if it has no build parameters, or such by which
every field can be filled. -/
theorem audit_ok_iff :
    shape.audit kind = .ok () ↔
      ∀ parameters, shape.parameters = some parameters → shape.Fillable parameters := by
  rcases has : shape.parameters with - | parameters
  · have passed : shape.audit kind = .ok () := by simp [audit, has]
    refine ⟨fun _ others same => ?_, fun _ => passed⟩
    cases same
  have audited : shape.audit kind = (shape.buildParameters kind).map fun _ => () := by
    simp [audit, has]
  rw [audited]
  constructor
  · intro passed others same
    rcases outcome : shape.buildParameters kind with error | returned
    · rw [outcome] at passed
      cases passed
    · obtain ⟨named, fillable⟩ := buildParameters_ok_iff.mp outcome
      rw [has, same] at named
      rwa [Option.some.inj named]
  · intro fillable
    have built : shape.buildParameters kind = .ok parameters :=
      buildParameters_ok_iff.mpr ⟨has, fillable parameters rfl⟩
    rw [built]
    rfl

end Shape

namespace Schema

/-- Every supertype, and every kind that the constraint of a declared field
names, is defined; every kind resolves; and every kind with build parameters,
its own or inherited ones, can be filled. -/
structure Sound (s : Schema) : Prop where
  supertypes : ∀ k ∈ s.kinds, ∀ base ∈ k.supertypes, s.contains base = true
  constraints : ∀ k ∈ s.kinds, ∀ f ∈ k.fields, ∀ name, f.constraint.Names name →
    s.contains name = true
  resolves : ∀ k ∈ s.kinds, ∃ shape, s.shape k.name = .ok shape
  fillable : ∀ k ∈ s.kinds, ∀ shape parameters, s.shape k.name = .ok shape →
    shape.parameters = some parameters → shape.Fillable parameters

variable {s : Schema}

/-- The first pass: references. -/
theorem auditReferences_ok_iff {kinds : List Kind} :
    s.auditReferences kinds = .ok () ↔
      ∀ k ∈ kinds, ∀ name ∈ k.references, s.contains name = true := by
  induction kinds with
  | nil => simp [auditReferences]
  | cons k rest ih =>
    rw [auditReferences, List.forall_mem_cons]
    rcases missing : k.references.find? (fun name => !s.contains name) with - | name
    · have all : ∀ name ∈ k.references, s.contains name = true := by
        intro name listed
        simpa using List.find?_eq_none.mp missing name listed
      dsimp only
      rw [ih]
      exact ⟨fun others => ⟨all, others⟩, And.right⟩
    · have listed : name ∈ k.references := List.mem_of_find?_eq_some missing
      have absent : s.contains name = false := by simpa using List.find?_some missing
      constructor
      · intro passed
        cases passed
      · rintro ⟨all, -⟩
        rw [all name listed] at absent
        cases absent

/-- The second pass: shapes. -/
theorem auditShapes_ok_iff {kinds : List Kind} :
    s.auditShapes kinds = .ok () ↔
      ∀ k ∈ kinds, ∃ shape, s.shape k.name = .ok shape ∧ shape.audit k.name = .ok () := by
  induction kinds with
  | nil => simp [auditShapes]
  | cons k rest ih =>
    rw [auditShapes, List.forall_mem_cons, bind_ok_iff]
    constructor
    · rintro ⟨shape, resolved, passed⟩
      obtain ⟨⟨⟩, audited, others⟩ := bind_ok_iff.mp passed
      exact ⟨⟨shape, resolved, audited⟩, ih.mp others⟩
    · rintro ⟨⟨shape, resolved, audited⟩, others⟩
      exact ⟨shape, resolved, bind_ok_iff.mpr ⟨(), audited, ih.mpr others⟩⟩

theorem mem_references {k : Kind} {name : String} :
    name ∈ k.references ↔ name ∈ k.supertypes ∨ ∃ f ∈ k.fields, f.constraint.Names name := by
  rw [Kind.references, List.mem_append, List.mem_flatMap]
  simp only [Constraint.mem_kinds_iff]

/-- **An audit passes exactly the sound schemas.** -/
theorem audit_ok_iff : (∃ events, s.audit = .ok events) ↔ s.Sound := by
  have passes : (∃ events, s.audit = .ok events) ↔
      s.auditReferences s.kinds = .ok () ∧ s.auditShapes s.kinds = .ok () := by
    constructor
    · rintro ⟨events, passed⟩
      obtain ⟨⟨⟩, references, passed⟩ := bind_ok_iff.mp passed
      obtain ⟨⟨⟩, shapes, -⟩ := bind_ok_iff.mp passed
      exact ⟨references, shapes⟩
    · rintro ⟨references, shapes⟩
      refine ⟨s.unusedKinds.map .unused, ?_⟩
      exact bind_ok_iff.mpr ⟨(), references, bind_ok_iff.mpr ⟨(), shapes, rfl⟩⟩
  rw [passes, auditReferences_ok_iff, auditShapes_ok_iff]
  constructor
  · rintro ⟨references, shapes⟩
    refine ⟨?_, ?_, ?_, ?_⟩
    · exact fun k listed base above => references k listed base (mem_references.mpr (.inl above))
    · intro k listed f own name named
      exact references k listed name (mem_references.mpr (.inr ⟨f, own, named⟩))
    · intro k listed
      obtain ⟨shape, resolved, -⟩ := shapes k listed
      exact ⟨shape, resolved⟩
    · intro k listed shape parameters resolved has
      obtain ⟨shape', resolved', audited⟩ := shapes k listed
      obtain rfl := Except.ok.inj (resolved.symm.trans resolved')
      exact Shape.audit_ok_iff.mp audited parameters has
  · intro sound
    refine ⟨fun k listed name referenced => ?_, fun k listed => ?_⟩
    · rcases mem_references.mp referenced with above | ⟨f, own, named⟩
      · exact sound.supertypes k listed name above
      · exact sound.constraints k listed f own name named
    · obtain ⟨shape, resolved⟩ := sound.resolves k listed
      have fillable := fun parameters => sound.fillable k listed shape parameters resolved
      exact ⟨shape, resolved, Shape.audit_ok_iff.mpr fillable⟩

end Schema

end NodeSchema
