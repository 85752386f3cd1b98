import NodeSchema.Proofs.Schema.Obstructions
import NodeSchema.Proofs.Schema.Storage
import NodeSchema.Proofs.Schema.Subtyping
import NodeSchema.Proofs.Schema.Linearization
import NodeSchema.Proofs.Schema.Guarantees

/-!
# Well-formed schemas

What the lists of a schema have in common with sets: no list of supertypes,
fields, ancestors or build parameters names anything twice.  Nobody checks
this again.  A field is found as the first of its name, and a builder takes
one argument per build parameter and expects each to be a field.

* `Kind.WellFormed` — what declarations keep, taken or refused;
* `Shape.WellFormed` — what resolution makes of it;
* `Schema.WellFormed` — the representation invariant of a schema;
* `Reachable.forall_kinds` — what every declaration keeps holds of all kinds;
* `Reachable.wellFormed` — every schema that requests lead to is well-formed;
* `Grows.primary` — and a first supertype stays the first.
-/

namespace NodeSchema

/-- The declared lists of a kind name nothing twice, and the kind is not its
own supertype. -/
structure Kind.WellFormed (k : Kind) : Prop where
  supertypes : k.supertypes.Nodup
  notOwn : k.name ∉ k.supertypes
  fields : (Field.names k.fields).Nodup
  parameters : ∀ names, k.parameters = some names → names.Nodup

/-- The lists of a shape name nothing twice, and its build parameters are
fields. -/
structure Shape.WellFormed (shape : Shape) : Prop where
  fields : (Field.names shape.fields).Nodup
  ancestors : shape.ancestors.Nodup
  parameters : ∀ names, shape.parameters = some names →
    names.Nodup ∧ names ⊆ Field.names shape.fields

namespace Kind

variable {k : Kind}

/-- A list in which no name has occurred before names nothing twice. -/
theorem nodup_of_firstRepeated (seen names : List String)
    (none : firstRepeated seen names = none) : names.Nodup ∧ ∀ name ∈ names, name ∉ seen := by
  induction names generalizing seen with
  | nil => exact ⟨List.nodup_nil, by simp⟩
  | cons first rest ih =>
    rw [firstRepeated] at none
    split at none
    · cases none
    · next new =>
      obtain ⟨distinct, unseen⟩ := ih _ none
      have later : first ∉ rest := fun listed => unseen first listed List.mem_cons_self
      refine ⟨List.nodup_cons.mpr ⟨later, distinct⟩, fun name listed => ?_⟩
      rcases List.mem_cons.mp listed with rfl | listed
      · simpa using new
      · exact fun before => unseen name listed (List.mem_cons_of_mem first before)

theorem wellFormed_fresh (name : String) : (fresh name).WellFormed where
  supertypes := List.nodup_nil
  notOwn := List.not_mem_nil
  fields := List.nodup_nil
  parameters := by simp [fresh]

namespace WellFormed

theorem addSupertypes (wf : k.WellFormed) (names : List String) :
    (k.addSupertypes names).1.WellFormed := by
  obtain ⟨before, -, other, result⟩ := k.addSupertypes_above names
  rw [result]
  refine ⟨nodup_addNames wf.supertypes _, fun own => ?_, wf.fields, wf.parameters⟩
  exact (mem_addNames.mp own).elim wf.notOwn other

theorem setParameters (wf : k.WellFormed) (names : List String) :
    (k.setParameters names).1.WellFormed := by
  unfold Kind.setParameters
  split
  · exact wf
  · next none =>
    refine ⟨wf.supertypes, wf.notOwn, wf.fields, fun set same => ?_⟩
    obtain rfl := Option.some.inj same
    exact (nodup_of_firstRepeated [] _ none).1

theorem addField (wf : k.WellFormed) (field : Field) : (k.addField field).1.WellFormed := by
  have put : ∀ f : Field, (Field.names (f.put k.fields)).Nodup := by
    intro f
    rw [Field.names_put]
    exact nodup_addNames wf.fields _
  unfold Kind.addField
  split
  · exact wf
  · split
    · split
      · exact ⟨wf.supertypes, wf.notOwn, put _, wf.parameters⟩
      · exact wf
    · exact ⟨wf.supertypes, wf.notOwn, put _, wf.parameters⟩

/-- **Declarations.**  A declaration, taken or refused, leaves a kind
well-formed. -/
theorem declare (wf : k.WellFormed) (declaration : Declaration) :
    (k.declare declaration).1.WellFormed := by
  unfold Kind.declare
  split
  · exact wf
  · cases declaration with
    | supertypes names => exact wf.addSupertypes names
    | parameters names => exact wf.setParameters names
    | field field => exact wf.addField field

end WellFormed

end Kind

namespace Schema

variable {s t : Schema} {name : String} {shape : Shape}

/-- **What every declaration keeps** holds of all kinds of a schema that
requests lead to, if the shapes that are held do not matter to it. -/
theorem Reachable.forall_kinds {p : Kind → Prop} (reachable : s.Reachable)
    (fresh : ∀ name, p (.fresh name))
    (declare : ∀ k declaration, p k → p (k.declare declaration).1)
    (declared : ∀ k, p k.declared ↔ p k) : ∀ k ∈ s.kinds, p k := by
  induction reachable with
  | empty => exact fun _ listed => nomatch listed
  | @step s _ request ih =>
    intro k listed
    rcases s.after_cases request with ⟨kind, rfl⟩ | ⟨kind, declaration, rfl⟩ | ⟨kind, settled⟩
    · rcases mem_kinds_define listed with before | rfl
      · exact ih k before
      · exact fresh kind
    · rcases mem_kinds_declare listed with before | ⟨before, there, -, rfl⟩
      · exact ih k before
      · exact declare before declaration (ih before there)
    · obtain ⟨before, there, same⟩ := mem_kinds_of_declared settled.declared listed
      rw [← declared k, ← same, declared before]
      exact ih before there

/-- The kinds of a schema that requests lead to are well-formed. -/
theorem Reachable.kinds_wellFormed (reachable : s.Reachable) : ∀ k ∈ s.kinds, k.WellFormed := by
  apply reachable.forall_kinds Kind.wellFormed_fresh
  · exact fun k declaration wf => wf.declare declaration
  · exact fun k => ⟨fun ⟨bases, own, fields, parameters⟩ => ⟨bases, own, fields, parameters⟩,
      fun ⟨bases, own, fields, parameters⟩ => ⟨bases, own, fields, parameters⟩⟩

/-- The build parameters of a kind that resolves are distinct, whether they
are its own or those of a kind above it. -/
theorem Coherent.nodup_parameters (coherent : s.Coherent) (kinds : ∀ k ∈ s.kinds, k.WellFormed)
    (resolved : s.shape name = .ok shape) :
    ∀ names, shape.parameters = some names → names.Nodup := by
  refine coherent.shape_induction (motive := fun _ shape =>
    ∀ names, shape.parameters = some names → names.Nodup) ?_ resolved
  intro name k bases found walked ih names has
  have has : k.parameters.or (bases.head?.bind (·.parameters)) = some names := has
  rcases Option.or_eq_some_iff.mp has with own | ⟨-, inherited⟩
  · exact (kinds k (mem_of_find? found)).parameters names own
  · obtain ⟨first, here, has⟩ := Option.bind_eq_some_iff.mp inherited
    obtain ⟨base, listed, resolved⟩ := exists_mem_of_mapM walked (List.mem_of_mem_head? here)
    exact ih base listed first resolved names has

/-- **What resolves is well-formed.** -/
theorem Coherent.shape_wellFormed (coherent : s.Coherent) (kinds : ∀ k ∈ s.kinds, k.WellFormed)
    (resolved : s.shape name = .ok shape) : shape.WellFormed where
  fields := coherent.nodup_fieldNames resolved
  ancestors := coherent.nodup_ancestors resolved
  parameters names has := by
    refine ⟨coherent.nodup_parameters kinds resolved names has, fun parameter listed => ?_⟩
    apply coherent.parameters_subset resolved
    rw [has]
    exact listed

/-- The representation invariant.  However a schema came about: stored with
the places of its names it is filed, and looking up by place is looking up by
name.  Its kinds are well-formed, and so are the shapes that they have and
those that they hold. -/
structure WellFormed (s : Schema) : Prop where
  stored : ∀ requests : List Request, requests.foldl after .empty = s →
    let a := requests.foldl Store.after .empty
    a.kinds = s.kinds ∧ a.Filed ∧ ∀ name, a.find? name = s.find? name
  kinds : ∀ k ∈ s.kinds, k.WellFormed
  resolved : ∀ name shape, s.shape name = .ok shape → shape.WellFormed
  held : ∀ k ∈ s.kinds, ∀ shape, k.shape = some shape → shape.WellFormed

/-- **Well-formed.**  Every schema that requests lead to is. -/
theorem Reachable.wellFormed (reachable : s.Reachable) : s.WellFormed where
  stored requests made := by
    obtain ⟨same, filed⟩ := Store.after_requests requests
    rw [made] at same
    refine ⟨congrArg Schema.kinds same, filed, fun name => ?_⟩
    rw [filed.find?_eq, same]
  kinds := reachable.kinds_wellFormed
  resolved name shape resolved :=
    reachable.coherent.shape_wellFormed reachable.kinds_wellFormed resolved
  held k listed shape holds := by
    have found := find?_of_mem reachable.nodup_names listed
    have resolved : s.shape k.name = .ok shape := shapeBelow_of_held found holds
    exact reachable.coherent.shape_wellFormed reachable.kinds_wellFormed resolved

/-- **The first supertype stays the first.** -/
theorem Grows.primary (grows : s.Grows t) {base : String} (first : s.Primary name base) :
    t.Primary name base := by
  obtain ⟨k, found, head⟩ := first
  obtain ⟨later, found, grown⟩ := grows.kind found
  obtain ⟨rest, longer⟩ := grown.supertypes
  refine ⟨later, found, ?_⟩
  rw [← longer, List.head?_append, head]
  rfl

end Schema

end NodeSchema
