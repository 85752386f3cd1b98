import NodeSchema.Schema.Builder

/-!
# Audits

Kinds are resolved on demand, so that a misspelt name or a field that no
builder can fill shows only when the kind is first used.  An audit looks at
every kind at once, and finalizes none:

* every supertype and every kind that a field's constraint names is defined;
* every kind resolves;
* every kind with build parameters can be built.

The first problem is the answer.  If there is none, the kinds without build
parameters of their own that nothing names are reported.
-/

namespace NodeSchema

/-- The kinds that the declarations of a kind name, supertypes first. -/
def Kind.references (k : Kind) : List String :=
  k.supertypes ++ k.fields.flatMap (·.constraint.kinds)

/-- A kind with build parameters can be built. -/
def Shape.audit (shape : Shape) (kind : String) : Except Error Unit :=
  if shape.parameters.isSome then (shape.buildParameters kind).map fun _ => () else .ok ()

namespace Schema

/-- Every named kind is defined. -/
def auditReferences (s : Schema) : List Kind → Except Error Unit
  | [] => .ok ()
  | k :: rest =>
    match k.references.find? fun name => !s.contains name with
    | some missing => .error (.unresolved missing (some k.name))
    | none => s.auditReferences rest

/-- Every kind resolves and, if it has build parameters, can be built. -/
def auditShapes (s : Schema) : List Kind → Except Error Unit
  | [] => .ok ()
  | k :: rest => do
    (← s.shape k.name).audit k.name
    s.auditShapes rest

/-- The kinds without build parameters of their own that no kind names. -/
def unusedKinds (s : Schema) : List String :=
  let named := s.kinds.flatMap (·.references)
  (s.kinds.filter fun k => k.parameters.isNone && !named.contains k.name).map (·.name)

/-- Looks at every kind; the first problem, or a report of the kinds that
nothing uses. -/
def audit (s : Schema) : Except Error (List Event) := do
  s.auditReferences s.kinds
  s.auditShapes s.kinds
  return s.unusedKinds.map .unused

end Schema

end NodeSchema
