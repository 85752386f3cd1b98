import NodeSchema.Proofs.Field.Merging
import NodeSchema.Proofs.Schema.Later

/-!
# What declarations bring in

The fields of the kinds of a schema come from declarations and from nowhere
else.  A field that is declared again keeps its constraint, and has the
default of the last declaration that was taken.

* `mem_kinds_define`, `mem_kinds_declare`, `mem_kinds_of_declared` — where a
  kind comes from;
* `Schema.AllDefaults` — something holds of all declared fields, as far as
  their names and defaults go;
* `AllDefaults.after` — it still does after a request that declares no field
  of which it does not;
* `AllDefaults.foldl` — and so over any run of requests.
-/

namespace NodeSchema

namespace Kind

/-- After a field is added, a field is one from before or has the name and
the default of the one that was added. -/
theorem mem_fields_addField {k : Kind} {added f : Field} (member : f ∈ (k.addField added).1.fields) :
    f ∈ k.fields ∨ f.name = added.name ∧ f.default = added.default := by
  unfold addField at member
  split at member
  · exact .inl member
  split at member
  · next previous found =>
    split at member
    · rcases Field.mem_put member with rfl | before
      · exact .inr ⟨by simpa using List.find?_some found, rfl⟩
      · exact .inl before
    · exact .inl member
  · rcases Field.mem_put member with rfl | before
    · exact .inr ⟨rfl, rfl⟩
    · exact .inl before

/-- A declaration brings in no field but its own. -/
theorem mem_fields_declare {k : Kind} {declaration : Declaration} {f : Field}
    (member : f ∈ (k.declare declaration).1.fields) :
    f ∈ k.fields ∨ ∃ added, declaration = .field added ∧ f.name = added.name ∧
      f.default = added.default := by
  unfold declare at member
  split at member
  · exact .inl member
  cases declaration with
  | supertypes names => exact .inl (addSupertypes_fields k names ▸ member)
  | parameters names => exact .inl ((setParameters_same k names).2 ▸ member)
  | field added =>
    rcases mem_fields_addField member with before | same
    · exact .inl before
    · exact .inr ⟨added, rfl, same⟩

end Kind

namespace Schema

variable {s t : Schema} {k : Kind}

/-- A kind after a definition is one from before or the one that is new. -/
theorem mem_kinds_define {name : String} (listed : k ∈ (s.define name).1.kinds) :
    k ∈ s.kinds ∨ k = .fresh name := by
  unfold define at listed
  split at listed
  · exact .inl listed
  · exact (List.mem_append.mp listed).imp_right List.mem_singleton.mp

/-- A kind after a declaration is one from before, or comes of the one that
the declaration is about. -/
theorem mem_kinds_declare {name : String} {declaration : Declaration}
    (listed : k ∈ (s.declare name declaration).1.kinds) :
    k ∈ s.kinds ∨ ∃ before ∈ s.kinds, before.name = name ∧ k = (before.declare declaration).1 := by
  unfold declare at listed
  split at listed
  · exact .inl listed
  · next target found =>
    obtain ⟨other, there, changed⟩ := List.mem_map.mp listed
    split at changed
    · exact .inr ⟨target, mem_of_find? found, name_of_find? found, changed.symm⟩
    · exact .inl (changed ▸ there)

/-- Where the declarations are the same, a kind is one from before, up to the
shape that it holds. -/
theorem mem_kinds_of_declared (same : t.declared = s.declared) (listed : k ∈ t.kinds) :
    ∃ before ∈ s.kinds, before.declared = k.declared := by
  have kept : k.declared ∈ s.declared.kinds := by
    rw [← same]
    exact List.mem_map_of_mem listed
  exact List.mem_map.mp kept

/-- `p` holds of the kind, the name and the default of every field that is
declared. -/
def AllDefaults (s : Schema) (p : String → String → Option Default → Prop) : Prop :=
  ∀ k ∈ s.kinds, ∀ f ∈ k.fields, p k.name f.name f.default

variable {p : String → String → Option Default → Prop}

namespace AllDefaults

theorem empty : Schema.empty.AllDefaults p := by
  intro k listed
  cases listed

theorem define (holds : s.AllDefaults p) (name : String) : (s.define name).1.AllDefaults p := by
  intro k listed f own
  rcases mem_kinds_define listed with before | rfl
  · exact holds k before f own
  · cases own

theorem declare (holds : s.AllDefaults p) (name : String) {declaration : Declaration}
    (brings : ∀ added, declaration = .field added → p name added.name added.default) :
    (s.declare name declaration).1.AllDefaults p := by
  intro k listed f own
  rcases mem_kinds_declare listed with before | ⟨before, there, rfl, rfl⟩
  · exact holds k before f own
  · rw [(before.declare_keeps declaration).1]
    rcases Kind.mem_fields_declare own with old | ⟨added, rfl, sameName, sameDefault⟩
    · exact holds before there f old
    · rw [sameName, sameDefault]
      exact brings added rfl

/-- It holds of the declarations alone. -/
theorem of_declared (same : t.declared = s.declared) (holds : s.AllDefaults p) :
    t.AllDefaults p := by
  intro k listed f own
  obtain ⟨before, there, alike⟩ := mem_kinds_of_declared same listed
  have name : before.declared.name = k.declared.name := by rw [alike]
  have fields : before.declared.fields = k.declared.fields := by rw [alike]
  have there' := holds before there f (fields ▸ own)
  exact name ▸ there'

/-- **The step lemma.** -/
theorem after (holds : s.AllDefaults p) (request : Request)
    (brings : ∀ kind added, request = .declare kind (.field added) →
      p kind added.name added.default) : (s.after request).AllDefaults p := by
  rcases s.after_cases request with ⟨kind, rfl⟩ | ⟨kind, declaration, rfl⟩ | ⟨kind, settled⟩
  · exact holds.define kind
  · exact holds.declare kind fun added same => brings kind added (congrArg _ same)
  · exact holds.of_declared settled.declared

/-- **The run lemma.** -/
theorem foldl (holds : s.AllDefaults p) (requests : List Request)
    (brings : ∀ kind added, .declare kind (.field added) ∈ requests →
      p kind added.name added.default) : (requests.foldl Schema.after s).AllDefaults p := by
  induction requests generalizing s with
  | nil => exact holds
  | cons request rest ih =>
    apply ih
    · exact holds.after request fun kind added same => brings kind added (same ▸ List.mem_cons_self)
    · exact fun kind added listed => brings kind added (List.mem_cons_of_mem request listed)

end AllDefaults

end Schema

end NodeSchema
