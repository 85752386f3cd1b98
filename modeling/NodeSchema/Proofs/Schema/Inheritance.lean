import NodeSchema.Proofs.Field.Merging
import NodeSchema.Proofs.Schema.Coherence

/-!
# What a shape is made of

Where the effective fields and the ancestors of a kind come from.

* `Kind.assemble_ok_iff` — what a shape looks like over those of the
  supertypes;
* `Coherent.shape_induction` — induction over a resolution, held shapes or
  not;
* `Coherent.mem_ancestors_iff` — the ancestors are the kinds at or above;
* `Schema.HasField`, `Coherent.mem_fieldNames_iff` — the effective fields are
  those that the kinds at or above declare;
* `Coherent.contains_of_ancestor` — they are all defined;
* `Coherent.declared_above` — every effective field is declared by one of
  them.
-/

namespace NodeSchema

namespace Kind

variable {k : Kind} {bases : List Shape}

theorem mem_foldl_merge {f : Field} {fields : List Field}
    (member : f ∈ bases.foldl (fun fields base => Field.merge fields base.fields) fields) :
    f ∈ fields ∨ ∃ base ∈ bases, f ∈ base.fields := by
  induction bases generalizing fields with
  | nil => exact .inl member
  | cons first rest ih =>
    rcases ih member with merged | ⟨base, listed, h⟩
    · rcases Field.mem_merge merged with before | h
      · exact .inl before
      · exact .inr ⟨first, List.mem_cons_self, h⟩
    · exact .inr ⟨base, List.mem_cons_of_mem first listed, h⟩

theorem mem_foldl_addNames {name : String} {names : List String} :
    name ∈ bases.foldl (fun names base => addNames names base.ancestors) names ↔
      name ∈ names ∨ ∃ base ∈ bases, name ∈ base.ancestors := by
  induction bases generalizing names with
  | nil => simp
  | cons first rest ih =>
    rw [List.foldl_cons, ih, mem_addNames, or_assoc, List.exists_mem_cons_iff]

/-- An effective field is one of the kind's own or one of a supertype. -/
theorem mem_effectiveFields {f : Field} (member : f ∈ k.effectiveFields bases) :
    f ∈ k.fields ∨ ∃ base ∈ bases, f ∈ base.fields := by
  rcases Field.mem_merge member with inherited | own
  · rcases mem_foldl_merge inherited with none | h
    · cases none
    · exact .inr h
  · exact .inl own

/-- The ancestors are the kind itself and the ancestors of its supertypes. -/
theorem mem_allAncestors {name : String} :
    name ∈ k.allAncestors bases ↔ name = k.name ∨ ∃ base ∈ bases, name ∈ base.ancestors := by
  rw [allAncestors, mem_foldl_addNames, List.mem_singleton]

theorem mem_names_foldl_merge {name : String} {fields : List Field} :
    name ∈ Field.names (bases.foldl (fun fields base => Field.merge fields base.fields) fields) ↔
      name ∈ Field.names fields ∨ ∃ base ∈ bases, name ∈ Field.names base.fields := by
  induction bases generalizing fields with
  | nil => simp
  | cons first rest ih =>
    rw [List.foldl_cons, ih, Field.names_merge, mem_addNames, or_assoc, List.exists_mem_cons_iff]

/-- The effective field names are those of the supertypes and the kind's
own. -/
theorem mem_names_effectiveFields {name : String} :
    name ∈ Field.names (k.effectiveFields bases) ↔
      (∃ base ∈ bases, name ∈ Field.names base.fields) ∨ name ∈ Field.names k.fields := by
  have nothing : name ∉ Field.names [] := List.not_mem_nil
  rw [effectiveFields, Field.names_merge, mem_addNames, mem_names_foldl_merge, or_iff_right nothing]

/-- A shape can be assembled if every build parameter is an effective
field. -/
theorem assemble_ok_iff {shape : Shape} :
    k.assemble bases = .ok shape ↔
      (∀ parameter ∈ (k.effectiveParameters bases).getD [],
        (Field.find? (k.effectiveFields bases) parameter).isSome = true) ∧
      shape = ⟨k.effectiveFields bases, k.allAncestors bases, k.effectiveParameters bases⟩ := by
  unfold assemble
  dsimp only
  split
  · next stray found =>
    constructor
    · intro assembled
      cases assembled
    · intro ⟨all, _⟩
      have unfound := List.find?_some found
      rw [← Option.not_isSome, all stray (List.mem_of_find?_eq_some found)] at unfound
      cases unfound
  · next none =>
    have all : ∀ parameter ∈ (k.effectiveParameters bases).getD [],
        (Field.find? (k.effectiveFields bases) parameter).isSome = true := by
      intro parameter listed
      have passed := List.find?_eq_none.mp none parameter listed
      rwa [Option.isNone_iff_eq_none, ← ne_eq, Option.ne_none_iff_isSome] at passed
    constructor
    · intro assembled
      exact ⟨all, (Except.ok.inj assembled).symm⟩
    · intro ⟨_, made⟩
      rw [made]

end Kind

namespace Schema

variable {s : Schema} {name : String} {shape : Shape}

/-- What resolution computes, whether held shapes are used or not. -/
theorem Coherent.shape_ok_iff (coherent : s.Coherent) :
    s.shape name = .ok shape ↔
      ∃ k bases, s.find? name = some k ∧ k.supertypes.mapM s.shape = .ok bases ∧
        k.assemble bases = .ok shape := by
  have same : s.declared.shape = s.shape := funext coherent.shape_declared
  rw [← same, Schema.shape_ok_iff s.bare_declared]
  constructor
  · rintro ⟨_, bases, found, walked, assembled⟩
    rw [find?_declared, Option.map_eq_some_iff] at found
    obtain ⟨k, found, rfl⟩ := found
    exact ⟨k, bases, found, walked, assembled⟩
  · rintro ⟨k, bases, found, walked, assembled⟩
    exact ⟨k.declared, bases, by rw [find?_declared, found, Option.map_some], walked, assembled⟩

/-- **Induction over a resolution**, from the supertypes to the kind,
whether held shapes are used or not. -/
theorem Coherent.shape_induction (coherent : s.Coherent) {motive : String → Shape → Prop}
    (step : ∀ name k bases, s.find? name = some k → k.supertypes.mapM s.shape = .ok bases →
      (∀ base ∈ k.supertypes, ∀ shape, s.shape base = .ok shape → motive base shape) →
      motive name ⟨k.effectiveFields bases, k.allAncestors bases, k.effectiveParameters bases⟩)
    (resolved : s.shape name = .ok shape) : motive name shape := by
  have same : s.declared.shape = s.shape := funext coherent.shape_declared
  rw [← same] at resolved
  refine shape_ok_induction s.bare_declared ?_ resolved
  intro name k bases shape found walked ih assembled
  rw [find?_declared, Option.map_eq_some_iff] at found
  obtain ⟨k, found, rfl⟩ := found
  obtain ⟨-, rfl⟩ := Kind.assemble_ok_iff.mp assembled
  rw [same] at walked ih
  exact step name k bases found walked ih

/-- **Ancestors.**  The ancestors of a kind that resolves are the kinds at or
above it. -/
theorem Coherent.mem_ancestors_iff (coherent : s.Coherent) (resolved : s.shape name = .ok shape)
    {other : String} : other ∈ shape.ancestors ↔ s.Reaches name other := by
  revert other
  refine coherent.shape_induction (motive := fun name shape =>
    ∀ {other}, other ∈ shape.ancestors ↔ s.Reaches name other) ?_ resolved
  intro name k bases found walked ih other
  have inherited : (∃ base ∈ bases, other ∈ base.ancestors) ↔
      ∃ above ∈ k.supertypes, s.Reaches above other :=
    exists_mem_mapM_iff walked fun above listed base resolved => ih above listed base resolved
  rw [Kind.mem_allAncestors, name_of_find? found, inherited, reaches_iff found]

/-- A field of that name is declared at or above a kind. -/
def HasField (s : Schema) (name field : String) : Prop :=
  ∃ other k, s.Reaches name other ∧ s.find? other = some k ∧ field ∈ Field.names k.fields

/-- At or above a kind are its own fields and those at or above its
supertypes. -/
theorem hasField_iff {k : Kind} (found : s.find? name = some k) {field : String} :
    s.HasField name field ↔
      (∃ base ∈ k.supertypes, s.HasField base field) ∨ field ∈ Field.names k.fields := by
  constructor
  · intro ⟨other, declaring, reach, found', own⟩
    rcases (reaches_iff found).mp reach with rfl | ⟨base, listed, rest⟩
    · obtain rfl : k = declaring := Option.some.inj (found.symm.trans found')
      exact .inr own
    · exact .inl ⟨base, listed, other, declaring, rest, found', own⟩
  · intro declared
    rcases declared with ⟨base, listed, other, declaring, reach, rest⟩ | own
    · exact ⟨other, declaring, reach.head ⟨k, found, listed⟩, rest⟩
    · exact ⟨name, k, .refl, found, own⟩

/-- **Field names.**  The effective fields of a kind that resolves are named
as those that are declared for the kinds at or above it. -/
theorem Coherent.mem_fieldNames_iff (coherent : s.Coherent) (resolved : s.shape name = .ok shape)
    {field : String} : field ∈ Field.names shape.fields ↔ s.HasField name field := by
  refine coherent.shape_induction (motive := fun name shape =>
    field ∈ Field.names shape.fields ↔ s.HasField name field) ?_ resolved
  intro name k bases found walked ih
  rw [Kind.mem_names_effectiveFields, exists_mem_mapM_iff walked ih, hasField_iff found]

/-- The ancestors of a kind that resolves are defined. -/
theorem Coherent.contains_of_ancestor (coherent : s.Coherent)
    (resolved : s.shape name = .ok shape) {other : String} (above : other ∈ shape.ancestors) :
    s.contains other = true := by
  exact coherent.contains_above resolved ((coherent.mem_ancestors_iff resolved).mp above)

/-- Every effective field is declared at or above the kind. -/
theorem Coherent.declared_above (coherent : s.Coherent) (resolved : s.shape name = .ok shape) :
    ∀ f ∈ shape.fields, ∃ other k, s.Reaches name other ∧ s.find? other = some k ∧
      f ∈ k.fields := by
  refine coherent.shape_induction (motive := fun name shape => ∀ f ∈ shape.fields,
    ∃ other k, s.Reaches name other ∧ s.find? other = some k ∧ f ∈ k.fields) ?_ resolved
  intro name k bases found walked ih f member
  rcases Kind.mem_effectiveFields member with own | ⟨base, listed, inherited⟩
  · exact ⟨name, k, .refl, found, own⟩
  · obtain ⟨above, listed, resolved⟩ := exists_mem_of_mapM walked listed
    obtain ⟨other, declaring, reach, rest⟩ := ih above listed base resolved f inherited
    exact ⟨other, declaring, reach.head ⟨k, found, listed⟩, rest⟩

/-- Every effective field is declared by some kind. -/
theorem Coherent.declares_field (coherent : s.Coherent) (resolved : s.shape name = .ok shape) :
    ∀ f ∈ shape.fields, ∃ k ∈ s.kinds, f ∈ k.fields := by
  intro f member
  obtain ⟨other, k, -, found, own⟩ := coherent.declared_above resolved f member
  exact ⟨k, mem_of_find? found, own⟩

end Schema

end NodeSchema
