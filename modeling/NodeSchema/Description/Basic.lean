import NodeSchema.Schema.Shape

/-!
# Descriptions

What a schema looks like from outside: plain data with every constraint and
every default as text.  Walkers and printers read descriptions.
-/

namespace NodeSchema

/-- An effective field. -/
structure FieldDescription where
  name : String
  constraint : String
  default : Option String
  hidden : Bool
  deriving DecidableEq, Repr

/-- A kind: its own supertypes, the kind and all kinds above it, its build
parameters if it can be built, and its effective fields. -/
structure KindDescription where
  name : String
  supertypes : List String
  ancestors : List String
  parameters : Option (List String)
  fields : List FieldDescription
  deriving DecidableEq, Repr

/-- The kinds of a schema, in order of definition. -/
structure Description where
  kinds : List KindDescription
  deriving DecidableEq, Repr

/-- The description of a field. -/
def Field.describe (f : Field) : FieldDescription :=
  ⟨f.name, f.constraint.text, f.default.map (·.text), f.hidden⟩

/-- The first kind of that name. -/
def Description.find? (d : Description) (name : String) : Option KindDescription :=
  d.kinds.find? (·.name == name)

namespace Schema

/-- The description of one kind. -/
def describe (s : Schema) (kind : String) : Except Error KindDescription := do
  let shape ← s.shape kind
  let supertypes := ((s.find? kind).map (·.supertypes)).getD []
  return ⟨kind, supertypes, shape.ancestors, shape.parameters, shape.fields.map (·.describe)⟩

/-- The description of all kinds. -/
def describeAll (s : Schema) : Except Error Description := do
  return ⟨← s.names.mapM s.describe⟩

end Schema

end NodeSchema
