import NodeSchema.Proofs.Schema.Guarantees
import NodeSchema.Proofs.Schema.Storage

/-!
# Which kinds an audit warns of

A kind is of no use if it cannot be built and nothing names it, and a passed
audit warns of kinds that look like it.  What the audit looks at is the
declaration: a kind without build parameters of its own.  A kind may inherit
some from its first supertype, and then it has a builder and is warned of all
the same.

* `Schema.Unnamed` — no declaration names the kind;
* `mem_unusedKinds_iff` — the kinds that are warned of, each once and in the
  order of their definition;
* `hasParameters_iff_inherited` — such a kind has build parameters exactly if
  its first supertype has;
* `Reachable.audit_warnings` — so every useless kind is warned of, and the
  others that are warned of are those that inherit;
* `nursery_warns_of_heir` — there are such.
-/

namespace NodeSchema.Schema

variable {s : Schema} {name : String}

/-- No kind lists `name` among its supertypes, and no constraint of a declared
field names it. -/
def Unnamed (s : Schema) (name : String) : Prop :=
  ∀ k ∈ s.kinds, name ∉ k.supertypes ∧ ∀ f ∈ k.fields, ¬ f.constraint.Names name

/-- An unnamed kind is not among the references that an audit gathers. -/
theorem unnamed_iff : s.Unnamed name ↔ name ∉ s.kinds.flatMap (·.references) := by
  rw [List.mem_flatMap]
  constructor
  · rintro unnamed ⟨k, listed, referenced⟩
    rcases mem_references.mp referenced with above | ⟨f, own, named⟩
    · exact (unnamed k listed).1 above
    · exact (unnamed k listed).2 f own named
  · intro unreferenced k listed
    have none : ¬ (name ∈ k.supertypes ∨ ∃ f ∈ k.fields, f.constraint.Names name) :=
      fun named => unreferenced ⟨k, listed, mem_references.mpr named⟩
    exact ⟨fun above => none (.inl above), fun f own named => none (.inr ⟨f, own, named⟩)⟩

/-- The kinds that are warned of come in the order of their definition. -/
theorem unusedKinds_sublist (s : Schema) : s.unusedKinds.Sublist s.names :=
  List.filter_sublist.map _

/-- The kinds that are warned of have no build parameters of their own, and are
unnamed. -/
theorem mem_unusedKinds_iff (distinct : s.names.Nodup) :
    name ∈ s.unusedKinds ↔ ∃ k, s.find? name = some k ∧ k.parameters = none ∧ s.Unnamed name := by
  have idle : ∀ k : Kind,
      (k.parameters.isNone && !(s.kinds.flatMap (·.references)).contains k.name) = true ↔
        k.parameters = none ∧ s.Unnamed k.name := by
    intro k
    rw [unnamed_iff, Bool.and_eq_true, Option.isNone_iff_eq_none, Bool.not_eq_true',
      ← Bool.not_eq_true, List.contains_iff_mem]
  rw [unusedKinds, List.mem_map]
  simp only [List.mem_filter, idle]
  constructor
  · rintro ⟨k, ⟨listed, without, unnamed⟩, rfl⟩
    exact ⟨k, find?_of_mem distinct listed, without, unnamed⟩
  · rintro ⟨k, found, without, unnamed⟩
    obtain rfl := name_of_find? found
    exact ⟨k, ⟨mem_of_find? found, without, unnamed⟩, rfl⟩

/-- What a passed audit reports are its warnings. -/
theorem events_of_audit {events : List Event} (passed : s.audit = .ok events) :
    events = s.unusedKinds.map .unused := by
  obtain ⟨⟨⟩, -, passed⟩ := bind_ok_iff.mp passed
  obtain ⟨⟨⟩, -, passed⟩ := bind_ok_iff.mp passed
  exact (Except.ok.inj passed).symm

/-- A kind without build parameters of its own can only inherit some, from its
first supertype. -/
theorem hasParameters_iff_inherited {k : Kind} (found : s.find? name = some k)
    (without : k.parameters = none) :
    s.HasParameters name ↔ ∃ base, s.Primary name base ∧ s.HasParameters base := by
  rw [hasParameters_iff found, without]
  constructor
  · rintro (own | ⟨base, first, chain⟩)
    · cases own
    · exact ⟨base, ⟨k, found, first⟩, chain⟩
  · rintro ⟨base, ⟨other, there, first⟩, chain⟩
    obtain rfl : k = other := Option.some.inj (found.symm.trans there)
    exact .inr ⟨base, first, chain⟩

/-- **What a passed audit warns of**, in the order of definition and once each,
are the unnamed kinds without build parameters of their own.  A kind among them
has a builder exactly if its first supertype has build parameters, its own or
inherited ones; every unnamed kind that has no builder is among them. -/
theorem Reachable.audit_warnings (reachable : s.Reachable) {events : List Event}
    (passed : s.audit = .ok events) :
    ∃ warned : List String, events = warned.map .unused ∧ warned.Sublist s.names ∧ warned.Nodup ∧
      (∀ name, name ∈ warned ↔
        ∃ k, s.find? name = some k ∧ k.parameters = none ∧ s.Unnamed name) ∧
      (∀ name ∈ warned, (∃ b, (s.builder name).2.2 = .ok b) ↔
        ∃ base, s.Primary name base ∧ s.HasParameters base) ∧
      ∀ name, s.contains name = true → (¬ ∃ b, (s.builder name).2.2 = .ok b) → s.Unnamed name →
        name ∈ warned := by
  have distinct := reachable.nodup_names
  have sound : s.Sound := audit_ok_iff.mp ⟨events, passed⟩
  have builds := (sound.reliable reachable.coherent).builds
  refine ⟨s.unusedKinds, events_of_audit passed, s.unusedKinds_sublist,
    distinct.sublist s.unusedKinds_sublist, fun name => mem_unusedKinds_iff distinct, ?_, ?_⟩
  · intro name listed
    obtain ⟨k, found, without, -⟩ := (mem_unusedKinds_iff distinct).mp listed
    rw [builds, hasParameters_iff_inherited found without]
  · intro name defined stuck unnamed
    obtain ⟨k, found⟩ := contains_iff.mp defined
    have without : k.parameters = none := by
      by_contra own
      have own : k.parameters.isSome = true := Option.isSome_iff_ne_none.mpr own
      exact stuck ((builds name).mpr ((hasParameters_iff found).mpr (.inl own)))
    exact (mem_unusedKinds_iff distinct).mpr ⟨k, found, without, unnamed⟩

/-- Saplings are grown like trees, of which they are one sort; stones are not
grown, and nothing is made of stones. -/
def nursery : Schema :=
  [.define "Tree", .declare "Tree" (.parameters []), .define "Sapling",
    .declare "Sapling" (.supertypes ["Tree"]), .define "Stone"].foldl after .empty

/-- Both are warned of: nothing names stones, and saplings, which nothing names
either, have a first supertype with build parameters. -/
theorem nursery_warned :
    nursery.Unnamed "Stone" ∧ nursery.Unnamed "Sapling" ∧
      ∃ base, nursery.Primary "Sapling" base ∧ nursery.HasParameters base := by
  have reachable : nursery.Reachable := Reachable.empty.foldl _
  have passed : nursery.audit = .ok [.unused "Sapling", .unused "Stone"] := by decide +kernel
  obtain ⟨warned, events, -, -, idle, inherits, -⟩ := reachable.audit_warnings passed
  have listed : ∀ name, Event.unused name ∈ [Event.unused "Sapling", .unused "Stone"] →
      name ∈ warned := by
    intro name there
    rw [events] at there
    simpa using there
  have sapling := listed "Sapling" List.mem_cons_self
  have stone := listed "Stone" (List.mem_cons_of_mem _ List.mem_cons_self)
  obtain ⟨-, -, -, unnamed⟩ := (idle "Stone").mp stone
  obtain ⟨-, -, -, unnamed'⟩ := (idle "Sapling").mp sapling
  have builds : (nursery.builder "Sapling").2.2.isOk = true := by decide +kernel
  exact ⟨unnamed, unnamed', (inherits "Sapling" sapling).mp (exists_ok_of_isOk builds)⟩

/-- **Heirs are warned of.**  The audit of the nursery says of saplings that
they cannot be built, and they can. -/
theorem nursery_warns_of_heir :
    nursery.Reachable ∧ nursery.audit = .ok [.unused "Sapling", .unused "Stone"] ∧
      (Event.unused "Sapling").message = "kind is not buildable and nothing references it" ∧
      ∃ b, (nursery.builder "Sapling").2.2 = .ok b := by
  have builds : (nursery.builder "Sapling").2.2.isOk = true := by decide +kernel
  exact ⟨Reachable.empty.foldl _, by decide +kernel, rfl, exists_ok_of_isOk builds⟩

end NodeSchema.Schema
