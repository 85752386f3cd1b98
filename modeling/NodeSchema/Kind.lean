import NodeSchema.Field
import NodeSchema.Error

/-!
# Kinds and their declarations

A kind holds what was declared for it: its supertypes, its own fields and,
if it has any, its own build parameters.  Once it is finalized it also holds
its shape, which is what it looks like with inheritance applied, and takes
no further declarations.

* `Kind.declare` — one declaration on a kind.  The answer comes with the
  kind as the declaration leaves it: a list of supertypes is taken name by
  name, and names before a refused one stay.
-/

namespace NodeSchema

/-- A kind with inheritance applied: its effective fields in order, the kind
itself and all kinds above it, and its build parameters if it or its first
supertype has any. -/
structure Shape where
  fields : List Field
  ancestors : List String
  parameters : Option (List String)

/-- The effective field called `name`. -/
def Shape.field? (shape : Shape) (name : String) : Option Field :=
  Field.find? shape.fields name

/-- A kind as declared, with its shape once it is finalized. -/
structure Kind where
  name : String
  supertypes : List String
  fields : List Field
  parameters : Option (List String)
  shape : Option Shape

/-- One declaration: further supertypes, the build parameters in order, or a
field. -/
inductive Declaration where
  | supertypes (names : List String)
  | parameters (names : List String)
  | field (field : Field)

/-- The first name that has occurred before; `seen` holds the earlier ones. -/
def firstRepeated (seen : List String) : List String → Option String
  | [] => none
  | name :: rest =>
    if seen.contains name then some name else firstRepeated (name :: seen) rest

namespace Kind

/-- A kind without declarations. -/
def fresh (name : String) : Kind := ⟨name, [], [], none, none⟩

/-- Appends a supertype unless it is listed already. -/
def addSupertype (k : Kind) (name : String) : Kind :=
  if k.supertypes.contains name then k else { k with supertypes := k.supertypes ++ [name] }

/-- Appends supertypes up to one that is the kind itself. -/
def addSupertypes (k : Kind) : List String → Kind × Except Fault Unit
  | [] => (k, .ok ())
  | name :: rest =>
    if name = k.name then (k, .error .ownSupertype) else (k.addSupertype name).addSupertypes rest

/-- Sets the build parameters.  That they are fields is seen when the kind
is resolved, so that fields may be declared later. -/
def setParameters (k : Kind) (names : List String) : Kind × Except Fault Unit :=
  match firstRepeated [] names with
  | some name => (k, .error (.repeatedParameter name))
  | none => ({ k with parameters := some names }, .ok ())

/-- Adds a field, or replaces the default of a field that is declared again
with the same constraint and visibility. -/
def addField (k : Kind) (field : Field) : Kind × Except Fault Unit :=
  if 1 < field.constraint.nullAlternatives then
    (k, .error (.ambiguousNull field.name field.constraint.text))
  else
    match Field.find? k.fields field.name with
    | some previous =>
      if previous.constraint == field.constraint && previous.hidden == field.hidden then
        ({ k with fields := { previous with default := field.default }.put k.fields }, .ok ())
      else
        (k, .error (.redeclared field.name field.constraint.text previous.constraint.text))
    | none => ({ k with fields := field.put k.fields }, .ok ())

/-- One declaration; none is taken once the kind is finalized. -/
def declare (k : Kind) (declaration : Declaration) : Kind × Except Fault Unit :=
  if k.shape.isSome then (k, .error .finalized)
  else
    match declaration with
    | .supertypes names => k.addSupertypes names
    | .parameters names => k.setParameters names
    | .field field => k.addField field

end Kind

end NodeSchema
