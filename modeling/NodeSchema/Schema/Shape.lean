import NodeSchema.Schema.Basic

/-!
# Inheritance

The shape of a kind: the fields of its supertypes from left to right, each
with inheritance applied, overlaid by its own; the kind followed by all kinds
above it, depth first and without repeats; and its own build parameters, or
those of its first supertype.

* `Kind.assemble` — the shape of a kind from the shapes of its supertypes;
* `Schema.shapeBelow` — the recursion over the supertypes, with the kinds
  whose shapes are under way; a finalized kind answers with the shape it
  holds, a kind that is under way with an error;
* `Schema.shape` — the shape of a kind by name, with the queries that read
  it: fields, ancestors, the value of a field.
-/

namespace NodeSchema

/-- Adds the names that are not there yet, in order. -/
def addNames (names incoming : List String) : List String :=
  incoming.foldl (fun names name => if names.contains name then names else names ++ [name]) names

namespace Kind

/-- The effective fields, over the shapes of the supertypes. -/
def effectiveFields (k : Kind) (bases : List Shape) : List Field :=
  Field.merge (bases.foldl (fun fields base => Field.merge fields base.fields) []) k.fields

/-- The kind and all kinds above it, over the shapes of the supertypes. -/
def allAncestors (k : Kind) (bases : List Shape) : List String :=
  bases.foldl (fun names base => addNames names base.ancestors) [k.name]

/-- The build parameters: its own, or those of the first supertype. -/
def effectiveParameters (k : Kind) (bases : List Shape) : Option (List String) :=
  k.parameters.or (bases.head?.bind (·.parameters))

/-- The shape over the shapes of the supertypes; every build parameter has
to be a field. -/
def assemble (k : Kind) (bases : List Shape) : Except Error Shape :=
  let fields := k.effectiveFields bases
  let parameters := k.effectiveParameters bases
  match (parameters.getD []).find? (fun p => (Field.find? fields p).isNone) with
  | some stray => .error (.declaration k.name (.strayParameter stray))
  | none => .ok ⟨fields, k.allAncestors bases, parameters⟩

end Kind

namespace Schema

/-- The kinds whose names are not in a list. -/
def outside (s : Schema) (names : List String) : List Kind :=
  s.kinds.filter fun k => !names.contains k.name

/-- Putting a defined name on the list leaves fewer kinds outside. -/
theorem outside_cons_lt {s : Schema} {names : List String} {name : String} {k : Kind}
    (found : s.find? name = some k) (new : names.contains name = false) :
    (s.outside (name :: names)).length < (s.outside names).length := by
  have named : k.name = name := by simpa using List.find?_some found
  have member : k ∈ s.kinds := List.mem_of_find?_eq_some found
  have narrower : s.outside (name :: names) =
      (s.outside names).filter fun k => decide (k.name ≠ name) := by
    simp [outside, List.filter_filter]
  rw [narrower]
  refine List.length_filter_lt_length_iff_exists.mpr ⟨k, ?_, by simp [named]⟩
  simp only [outside, List.mem_filter]
  exact ⟨member, by simpa [named] using new⟩

/-- The shape of `name` while the shapes of the kinds in `below` are under
way, the innermost first. -/
def shapeBelow (s : Schema) (below : List String) (name : String) : Except Error Shape :=
  match _ : s.find? name with
  | none => .error (.unresolved name below.head?)
  | some k =>
    match k.shape with
    | some shape => .ok shape
    | none =>
      if _ : below.contains name = false then do
        let bases ← k.supertypes.mapM fun base => s.shapeBelow (name :: below) base
        k.assemble bases
      else .error (.declaration name .cyclic)
termination_by (s.outside below).length
decreasing_by exact outside_cons_lt ‹s.find? name = some _› ‹_›

/-- The shape of the kind called `name`. -/
def shape (s : Schema) (name : String) : Except Error Shape := s.shapeBelow [] name

/-- The effective field names of a kind, in order. -/
def fieldNames (s : Schema) (kind : String) : Except Error (List String) := do
  return (← s.shape kind).fields.map (·.name)

/-- The effective fields that are visited when a tree is walked. -/
def traversalFields (s : Schema) (kind : String) : Except Error (List String) := do
  return ((← s.shape kind).fields.filter fun f => !f.hidden).map (·.name)

/-- One effective field of a kind. -/
def field (s : Schema) (kind name : String) : Except Error Field := do
  match (← s.shape kind).field? name with
  | some f => return f
  | none => throw (.declaration kind (.noField name))

/-- A kind and all kinds above it, depth first. -/
def supertypesOf (s : Schema) (kind : String) : Except Error (List String) := do
  return (← s.shape kind).ancestors

/-- Whether `sub` is `sup` or inherits from it. -/
def isSupertypeOf (s : Schema) (sup sub : String) : Bool :=
  match s.shape sub with
  | .ok shape => shape.ancestors.contains sup
  | .error _ => false

/-- The value of a field of a tagged node: its own, or the default of its
kind.  There is none for an unknown kind or field, for a node without a tag,
or when a field without a default is absent. -/
def fieldValue (s : Schema) (node : Node) (name : String) : Option Value :=
  match node.get? name with
  | some value => some value
  | none => do
    let shape ← (s.shape (← node.tag)).toOption
    let default ← (← shape.field? name).default
    return default.produce node

end Schema

end NodeSchema
