import NodeSchema.Proofs.Schema.Inheritance
import NodeSchema.Proofs.Schema.Later

/-!
# Schemas only grow

Requests add to a schema: new kinds behind the others, and supertypes and
fields to kinds that are open.  Nothing is taken away, except that build
parameters may be set anew.  So what a kind inherits grows as well, with
every kind above it, until the kind is finalized; from then on nothing about
it changes.

* `Kind.Grows`, `Schema.Grows` — what a kind and a schema have gained;
* `grows_after` — every request lets a schema grow, whether it is taken or
  refused, and `grows_foldl` — so do requests in a row;
* `Grows.ancestors_subset`, `Grows.fieldNames_subset` — a kind that resolves
  before and after keeps its ancestors and its effective field names;
* `Grows.shape_of_finalized` — a finalized kind keeps its shape;
* `Reachable.declare_of_finalized` — and takes no declaration.
-/

namespace NodeSchema

namespace Kind

variable {k : Kind}

/-- A kind has gained supertypes and fields, and nothing if it was
finalized. -/
structure Grows (k later : Kind) : Prop where
  supertypes : k.supertypes <+: later.supertypes
  fields : Field.names k.fields <+: Field.names later.fields
  held : k.shape.isSome = true → later = k

theorem Grows.refl (k : Kind) : k.Grows k :=
  ⟨List.prefix_rfl, List.prefix_rfl, fun _ => rfl⟩

theorem Grows.trans {middle later : Kind} (first : k.Grows middle) (rest : middle.Grows later) :
    k.Grows later := by
  refine ⟨first.supertypes.trans rest.supertypes, first.fields.trans rest.fields, fun final => ?_⟩
  obtain rfl := first.held final
  exact rest.held final

theorem addSupertypes_prefix (k : Kind) (names : List String) :
    k.supertypes <+: (k.addSupertypes names).1.supertypes := by
  obtain ⟨before, -, -, result⟩ := k.addSupertypes_above names
  rw [result]
  exact prefix_addNames _ _

theorem addField_prefix (k : Kind) (field : Field) :
    (k.addField field).1.supertypes = k.supertypes ∧
      Field.names k.fields <+: Field.names (k.addField field).1.fields := by
  have longer : ∀ f : Field, Field.names k.fields <+: Field.names (f.put k.fields) := by
    intro f
    rw [Field.names_put]
    exact prefix_addNames _ _
  unfold addField
  split
  · exact ⟨rfl, List.prefix_rfl⟩
  · split
    · split
      · exact ⟨rfl, longer _⟩
      · exact ⟨rfl, List.prefix_rfl⟩
    · exact ⟨rfl, longer _⟩

/-- A declaration, taken or refused, lets its kind grow. -/
theorem grows_declare (k : Kind) (declaration : Declaration) :
    k.Grows (k.declare declaration).1 := by
  by_cases final : k.shape.isSome = true
  · rw [declare_of_finalized final]
    exact .refl k
  · have gained : k.supertypes <+: (k.declare declaration).1.supertypes ∧
        Field.names k.fields <+: Field.names (k.declare declaration).1.fields := by
      unfold declare
      rw [if_neg final]
      cases declaration with
      | supertypes names =>
        have same := k.addSupertypes_fields names
        exact ⟨k.addSupertypes_prefix names, same ▸ List.prefix_rfl⟩
      | parameters names =>
        obtain ⟨same, same'⟩ := k.setParameters_same names
        exact ⟨same ▸ List.prefix_rfl, same' ▸ List.prefix_rfl⟩
      | field field =>
        obtain ⟨same, longer⟩ := k.addField_prefix field
        exact ⟨same ▸ List.prefix_rfl, longer⟩
    exact ⟨gained.1, gained.2, fun held => absurd held final⟩

end Kind

namespace Schema

variable {s t : Schema} {name : String} {k : Kind}

/-- A schema has gained kinds behind those that were there, each of which has
grown. -/
structure Grows (s t : Schema) : Prop where
  names : s.names <+: t.names
  kind : ∀ {name k}, s.find? name = some k → ∃ later, t.find? name = some later ∧ k.Grows later

theorem Grows.refl (s : Schema) : s.Grows s :=
  ⟨List.prefix_rfl, fun found => ⟨_, found, .refl _⟩⟩

theorem Grows.trans {u : Schema} (first : s.Grows t) (rest : t.Grows u) : s.Grows u := by
  refine ⟨first.names.trans rest.names, fun found => ?_⟩
  obtain ⟨middle, found, grown⟩ := first.kind found
  obtain ⟨later, found, grown'⟩ := rest.kind found
  exact ⟨later, found, grown.trans grown'⟩

theorem grows_define (s : Schema) (kind : String) : s.Grows (s.define kind).1 where
  names := by
    rw [names_define]
    split
    · exact List.prefix_rfl
    · exact List.prefix_append _ _
  kind found := ⟨_, by rw [find?_define, found, Option.some_or], .refl _⟩

theorem grows_declare (s : Schema) (kind : String) (declaration : Declaration) :
    s.Grows (s.declare kind declaration).1 where
  names := by
    have same := s.names_declare kind declaration
    exact same ▸ List.prefix_rfl
  kind found := by
    refine ⟨_, by rw [find?_declare, found, Option.map_some], ?_⟩
    split
    · exact Kind.grows_declare _ declaration
    · exact .refl _

/-- Finalizing lets kinds hold their shapes; one that held its shape before
holds the same. -/
theorem grows_finalize {kind : String} {events : List Event}
    (finalized : s.finalize kind = .ok (t, events)) : s.Grows t := by
  have declarations := declared_finalize finalized
  obtain ⟨-, shaped, -, -, shapes, rfl, -⟩ := finalize_ok finalized
  constructor
  · have same := names_of_declared declarations
    exact same ▸ List.prefix_rfl
  · intro name k found
    have there : (s.holdAll shaped).contains name = true := by
      rw [← contains_declared, declarations, contains_declared]
      exact contains_iff.mpr ⟨k, found⟩
    obtain ⟨later, found'⟩ := contains_iff.mp there
    refine ⟨later, found', ?_⟩
    obtain ⟨before, same, change⟩ := find?_holdAll found'
    obtain rfl : k = before := Option.some.inj (found.symm.trans same)
    rcases change with rfl | ⟨shape, listed, rfl⟩
    · exact .refl _
    · refine ⟨List.prefix_rfl, List.prefix_rfl, fun final => ?_⟩
      obtain ⟨held, holds⟩ := Option.isSome_iff_exists.mp final
      -- a kind that holds its shape resolves to it
      have resolved : s.shape name = .ok held := shapeBelow_of_held found holds
      obtain rfl : held = shape := Except.ok.inj (resolved.symm.trans (shapes _ listed))
      rw [← holds]

theorem Settled.grows {kind : String} (settled : s.Settled t kind) : s.Grows t := by
  rcases settled with rfl | ⟨events, finalized⟩
  · exact .refl _
  · exact grows_finalize finalized

/-- **The step lemma.**  Every request, taken or refused, lets a schema
grow. -/
theorem grows_after (s : Schema) (request : Request) : s.Grows (s.after request) := by
  rcases s.after_cases request with ⟨kind, rfl⟩ | ⟨kind, declaration, rfl⟩ | ⟨kind, settled⟩
  · exact s.grows_define kind
  · exact s.grows_declare kind declaration
  · exact settled.grows

/-- **The run lemma.**  Requests in a row let a schema grow. -/
theorem grows_foldl (s : Schema) (requests : List Request) : s.Grows (requests.foldl after s) := by
  induction requests generalizing s with
  | nil => exact .refl s
  | cons request rest ih => exact (s.grows_after request).trans (ih _)

namespace Grows

theorem extends_of_extends (grows : s.Grows t) {base : String} (up : s.Extends name base) :
    t.Extends name base := by
  obtain ⟨k, found, listed⟩ := up
  obtain ⟨later, found, grown⟩ := grows.kind found
  exact ⟨later, found, grown.supertypes.subset listed⟩

theorem reaches_of_reaches (grows : s.Grows t) {other : String} (reach : s.Reaches name other) :
    t.Reaches name other :=
  Relation.ReflTransGen.mono (fun _ _ => grows.extends_of_extends) _ _ reach

/-- What was above a kind is above it, as long as the kind resolves. -/
theorem ancestors_subset (grows : s.Grows t) (coherent : s.Coherent) (coherent' : t.Coherent)
    {before now : Shape} (resolved : s.shape name = .ok before)
    (resolves : t.shape name = .ok now) : before.ancestors ⊆ now.ancestors := by
  intro other above
  have reach := (coherent.mem_ancestors_iff resolved).mp above
  exact (coherent'.mem_ancestors_iff resolves).mpr (grows.reaches_of_reaches reach)

/-- A kind keeps the fields that it had, by their names, as long as it
resolves. -/
theorem fieldNames_subset (grows : s.Grows t) (coherent : s.Coherent) (coherent' : t.Coherent)
    {before now : Shape} (resolved : s.shape name = .ok before)
    (resolves : t.shape name = .ok now) : Field.names before.fields ⊆ Field.names now.fields := by
  intro field listed
  obtain ⟨other, k, reach, found, own⟩ := (coherent.mem_fieldNames_iff resolved).mp listed
  obtain ⟨later, found, grown⟩ := grows.kind found
  exact (coherent'.mem_fieldNames_iff resolves).mpr
    ⟨other, later, grows.reaches_of_reaches reach, found, grown.fields.subset own⟩

/-- What was once a supertype stays one, as long as the subtype resolves. -/
theorem isSupertypeOf (grows : s.Grows t) (coherent : s.Coherent) (coherent' : t.Coherent)
    {sup sub : String} (inherits : s.isSupertypeOf sup sub = true) {now : Shape}
    (resolves : t.shape sub = .ok now) : t.isSupertypeOf sup sub = true := by
  unfold Schema.isSupertypeOf at inherits ⊢
  rcases resolved : s.shape sub with error | before
  · rw [resolved] at inherits
    cases inherits
  · rw [resolved] at inherits
    rw [resolves]
    have above : sup ∈ before.ancestors := List.contains_iff_mem.mp inherits
    exact List.contains_iff_mem.mpr
      (grows.ancestors_subset coherent coherent' resolved resolves above)

/-- A finalized kind is found as it was. -/
theorem find?_of_finalized (grows : s.Grows t) (final : s.isFinalized name = true) :
    t.find? name = s.find? name := by
  obtain ⟨k, shape, found, held⟩ := isFinalized_iff.mp final
  obtain ⟨later, found', grown⟩ := grows.kind found
  obtain rfl := grown.held (by rw [held]; rfl)
  rw [found, found']

theorem isFinalized (grows : s.Grows t) (final : s.isFinalized name = true) :
    t.isFinalized name = true := by
  rw [Schema.isFinalized, grows.find?_of_finalized final]
  exact final

/-- **Finalized kinds never change.** -/
theorem shape_of_finalized (grows : s.Grows t) (final : s.isFinalized name = true) :
    ∃ shape, s.shape name = .ok shape ∧ t.isFinalized name = true ∧ t.shape name = .ok shape := by
  obtain ⟨k, shape, found, held⟩ := isFinalized_iff.mp final
  have found' : t.find? name = some k := (grows.find?_of_finalized final).trans found
  exact ⟨shape, shapeBelow_of_held found held, isFinalized_iff.mpr ⟨k, shape, found', held⟩,
    shapeBelow_of_held found' held⟩

end Grows

/-- Every kind of a schema that requests lead to has a name of its own. -/
theorem Reachable.nodup_names (reachable : s.Reachable) : s.names.Nodup := by
  induction reachable with
  | empty => exact List.nodup_nil
  | @step s _ request ih =>
    rcases s.after_cases request with ⟨kind, rfl⟩ | ⟨kind, declaration, rfl⟩ | ⟨kind, settled⟩
    · rw [after, names_define]
      by_cases there : s.contains kind = true
      · rwa [if_pos there]
      · have new : kind ∉ s.names := mt mem_names_iff.mp there
        rw [if_neg there]
        exact ih.append (List.nodup_singleton kind) (List.disjoint_singleton.mpr new)
    · rwa [after, names_declare]
    · rwa [names_of_declared settled.declared]

/-- Putting a kind back in its place changes nothing. -/
theorem replace_self (distinct : s.names.Nodup) (found : s.find? name = some k) :
    s.replace k = s := by
  have same : ∀ other ∈ s.kinds, (if other.name = k.name then k else other) = other := by
    intro other member
    split
    · rename_i named
      exact List.inj_on_of_nodup_map distinct (mem_of_find? found) member named.symm
    · rfl
  have kinds : (s.kinds.map fun other => if other.name = k.name then k else other) = s.kinds := by
    rw [List.map_congr_left same, List.map_id']
  exact congrArg Schema.mk kinds

/-- **A finalized kind takes no declaration**, and the attempt changes
nothing. -/
theorem Reachable.declare_of_finalized (reachable : s.Reachable)
    (final : s.isFinalized name = true) (declaration : Declaration) :
    s.declare name declaration = (s, .error (.declaration name .finalized)) := by
  obtain ⟨k, shape, found, held⟩ := isFinalized_iff.mp final
  have refused := Kind.declare_of_finalized (k := k) (by rw [held]; rfl) declaration
  unfold declare
  rw [found]
  dsimp only
  rw [refused, replace_self reachable.nodup_names found]
  rfl

end Schema

end NodeSchema
