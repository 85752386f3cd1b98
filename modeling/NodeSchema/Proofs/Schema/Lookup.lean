import NodeSchema.Proofs.Field.Merging
import NodeSchema.Schema.Finalize

/-!
# Looking kinds up

Everything that a schema does with a kind starts from its name, so what a
change does to a schema is said by what it does to `Schema.find?`.  The
changes keep names, which makes each of them one instance of
`Schema.find?_map`.

* `Schema.declared` — the schema as it is declared, where no kind holds its
  shape;
* `find?_declared`, `find?_replace`, `find?_define`, `find?_hold` — look-ups
  after each change;
* `names_define`, `names_declare` — the names after a declaration;
* `Kind.addSupertypes_above` — what a list of supertypes makes of a kind;
* `Kind.declare_keeps` — what no declaration changes.
-/

namespace NodeSchema

/-- The kind as it is declared, without the shape that it may hold. -/
def Kind.declared (k : Kind) : Kind := { k with shape := none }

/-- The schema as it is declared: no kind holds its shape. -/
def Schema.declared (s : Schema) : Schema := ⟨s.kinds.map Kind.declared⟩

namespace Kind

/-- The kind with more supertypes, each of which is added unless it is listed. -/
def above (k : Kind) (names : List String) : Kind :=
  { k with supertypes := addNames k.supertypes names }

theorem addSupertype_eq (k : Kind) (name : String) : k.addSupertype name = k.above [name] := by
  rw [above, addNames_cons, addSupertype]
  by_cases listed : name ∈ k.supertypes
  · rw [if_pos (List.contains_iff_mem.mpr listed), if_pos listed]
    rfl
  · rw [if_neg (mt List.contains_iff_mem.mp listed), if_neg listed]
    rfl

/-- Supertypes are added until the kind itself comes up. -/
theorem addSupertypes_append (k : Kind) {before : List String} (other : k.name ∉ before)
    (rest : List String) :
    k.addSupertypes (before ++ rest) = (k.above before).addSupertypes rest := by
  induction before generalizing k with
  | nil => rfl
  | cons name before ih =>
    obtain ⟨differs, other⟩ := not_or.mp (mt List.mem_cons.mpr other)
    rw [List.cons_append, addSupertypes, if_neg (Ne.symm differs), addSupertype_eq,
      ih (k.above [name]) other]
    rfl

theorem addSupertypes_of_others {k : Kind} {names : List String} (other : k.name ∉ names) :
    k.addSupertypes names = (k.above names, .ok ()) := by
  have whole := k.addSupertypes_append other []
  rw [List.append_nil] at whole
  exact whole

theorem addSupertypes_own {k : Kind} {before : List String} (other : k.name ∉ before)
    (after : List String) :
    k.addSupertypes (before ++ k.name :: after) = (k.above before, .error .ownSupertype) := by
  rw [k.addSupertypes_append other, addSupertypes]
  exact if_pos rfl

/-- **A list of supertypes** is taken up to where the kind itself comes up. -/
theorem addSupertypes_above (k : Kind) (names : List String) :
    ∃ before, before <+: names ∧ k.name ∉ before ∧ (k.addSupertypes names).1 = k.above before := by
  by_cases own : k.name ∈ names
  · obtain ⟨before, after, rfl, other⟩ := List.eq_append_cons_of_mem own
    exact ⟨before, List.prefix_append _ _, other, by rw [addSupertypes_own other]⟩
  · exact ⟨names, List.prefix_rfl, own, by rw [addSupertypes_of_others own]⟩

theorem addSupertypes_keeps (k : Kind) (names : List String) :
    (k.addSupertypes names).1.name = k.name ∧ (k.addSupertypes names).1.shape = k.shape := by
  obtain ⟨before, -, -, result⟩ := k.addSupertypes_above names
  rw [result]
  exact ⟨rfl, rfl⟩

theorem setParameters_keeps (k : Kind) (names : List String) :
    (k.setParameters names).1.name = k.name ∧ (k.setParameters names).1.shape = k.shape := by
  unfold setParameters
  split <;> exact ⟨rfl, rfl⟩

theorem addField_keeps (k : Kind) (field : Field) :
    (k.addField field).1.name = k.name ∧ (k.addField field).1.shape = k.shape := by
  unfold addField
  split
  · exact ⟨rfl, rfl⟩
  · split
    · split <;> exact ⟨rfl, rfl⟩
    · exact ⟨rfl, rfl⟩

/-- A declaration neither renames nor finalizes its kind. -/
theorem declare_keeps (k : Kind) (declaration : Declaration) :
    (k.declare declaration).1.name = k.name ∧ (k.declare declaration).1.shape = k.shape := by
  unfold declare
  split
  · exact ⟨rfl, rfl⟩
  · cases declaration with
    | supertypes names => exact addSupertypes_keeps k names
    | parameters names => exact setParameters_keeps k names
    | field field => exact addField_keeps k field

theorem addSupertypes_fields (k : Kind) (names : List String) :
    (k.addSupertypes names).1.fields = k.fields := by
  obtain ⟨before, -, -, result⟩ := k.addSupertypes_above names
  rw [result]
  rfl

theorem setParameters_same (k : Kind) (names : List String) :
    (k.setParameters names).1.supertypes = k.supertypes ∧
      (k.setParameters names).1.fields = k.fields := by
  unfold setParameters
  split <;> exact ⟨rfl, rfl⟩

/-- A finalized kind takes no declaration. -/
theorem declare_of_finalized {k : Kind} (h : k.shape.isSome = true) (declaration : Declaration) :
    k.declare declaration = (k, .error .finalized) := by
  unfold declare
  rw [if_pos h]

end Kind

namespace Schema

variable {s : Schema} {name : String} {k : Kind}

theorem name_of_find? (found : s.find? name = some k) : k.name = name := by
  simpa using List.find?_some found

theorem mem_of_find? (found : s.find? name = some k) : k ∈ s.kinds :=
  List.mem_of_find?_eq_some found

/-- Looking up after a change of the kinds that keeps their names. -/
theorem find?_map (s : Schema) (change : Kind → Kind) (keeps : ∀ k, (change k).name = k.name)
    (name : String) : find? ⟨s.kinds.map change⟩ name = (s.find? name).map change := by
  have same : ((fun k : Kind => k.name == name) ∘ change) = fun k => k.name == name := by
    funext k
    simp [keeps k]
  simp only [find?, List.find?_map, same]

theorem find?_declared (s : Schema) (name : String) :
    s.declared.find? name = (s.find? name).map Kind.declared :=
  s.find?_map Kind.declared (fun _ => rfl) name

theorem find?_replace (s : Schema) (k : Kind) (name : String) :
    (s.replace k).find? name =
      (s.find? name).map fun other => if name = k.name then k else other := by
  rw [replace, s.find?_map _ fun other => by split <;> simp_all]
  cases found : s.find? name with
  | none => rfl
  | some other => simp [name_of_find? found]

theorem find?_hold (s : Schema) (held : String) (shape : Shape) (name : String) :
    (s.hold held shape).find? name =
      (s.find? name).map fun k => if name = held then { k with shape := some shape } else k := by
  rw [hold, s.find?_map _ fun other => by split <;> rfl]
  cases found : s.find? name with
  | none => rfl
  | some k => simp [name_of_find? found]

/-- Defining a name leaves every look-up that finds something as it was. -/
theorem find?_define (s : Schema) (defined name : String) :
    (s.define defined).1.find? name =
      (s.find? name).or (if name = defined then some (Kind.fresh defined) else none) := by
  unfold define
  split
  · rename_i there
    cases found : s.find? name with
    | some k => simp
    | none =>
      have other : name ≠ defined := by
        rintro rfl
        simp [contains, found] at there
      simp [other]
  · simp only [find?, List.find?_append]
    congr 1
    by_cases same : name = defined
    · simp [Kind.fresh, same]
    · simp [Kind.fresh, same, Ne.symm same]

theorem contains_iff : s.contains name = true ↔ ∃ k, s.find? name = some k :=
  Option.isSome_iff_exists

theorem mem_names_iff : name ∈ s.names ↔ s.contains name = true := by
  simp [names, contains, find?, List.find?_isSome]

/-- A change of the kinds that keeps their names. -/
theorem names_map (s : Schema) (change : Kind → Kind) (keeps : ∀ k, (change k).name = k.name) :
    names ⟨s.kinds.map change⟩ = s.names := by
  rw [names, List.map_map]
  exact List.map_congr_left fun k _ => keeps k

theorem names_declared (s : Schema) : s.declared.names = s.names :=
  s.names_map Kind.declared fun _ => rfl

theorem names_of_declared {t : Schema} (same : t.declared = s.declared) : t.names = s.names := by
  rw [← names_declared, same, names_declared]

/-- Defining a kind that is not there puts its name at the end. -/
theorem names_define (s : Schema) (defined : String) :
    (s.define defined).1.names =
      if s.contains defined then s.names else s.names ++ [defined] := by
  unfold define
  split
  · rfl
  · exact List.map_append

theorem isFinalized_iff :
    s.isFinalized name = true ↔ ∃ k shape, s.find? name = some k ∧ k.shape = some shape := by
  unfold isFinalized
  cases found : s.find? name with
  | none => simp
  | some k => simp [Option.isSome_iff_exists]

theorem contains_declared (s : Schema) (name : String) :
    s.declared.contains name = s.contains name := by
  simp [contains, find?_declared]

theorem contains_of_isFinalized (h : s.isFinalized name = true) : s.contains name = true := by
  obtain ⟨k, shape, found, -⟩ := isFinalized_iff.mp h
  exact contains_iff.mpr ⟨k, found⟩

/-- Holding a shape is no declaration. -/
@[simp] theorem declared_hold (s : Schema) (name : String) (shape : Shape) :
    (s.hold name shape).declared = s.declared := by
  simp only [hold, declared, List.map_map, Schema.mk.injEq]
  refine List.map_congr_left fun k _ => ?_
  simp only [Function.comp_apply]
  split <;> rfl

/-- One declaration on a kind, seen from the names: only that kind changes. -/
theorem find?_declare (s : Schema) (declared : String) (declaration : Declaration) (name : String) :
    (s.declare declared declaration).1.find? name =
      (s.find? name).map fun k => if name = declared then (k.declare declaration).1 else k := by
  unfold declare
  cases found : s.find? declared with
  | none =>
    cases other : s.find? name with
    | none => simp
    | some k =>
      have different : name ≠ declared := by
        rintro rfl
        rw [found] at other
        cases other
      simp [different]
  | some target =>
    have named := name_of_find? found
    simp only [find?_replace, (target.declare_keeps declaration).1, named]
    by_cases same : name = declared
    · subst same
      simp [found]
    · simp [same]

theorem names_declare (s : Schema) (declared : String) (declaration : Declaration) :
    (s.declare declared declaration).1.names = s.names := by
  unfold declare
  split
  · rfl
  · refine s.names_map _ fun other => ?_
    split
    · rename_i same
      exact same.symm
    · rfl

end Schema

end NodeSchema
