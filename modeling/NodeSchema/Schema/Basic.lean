import NodeSchema.Kind
import NodeSchema.Event

/-!
# Schemas

A schema is the list of its kinds in the order in which they were first
defined.  Kinds refer to each other by name, so that they can be declared in
any order.
-/

namespace NodeSchema

/-- The kinds in order of definition. -/
structure Schema where
  kinds : List Kind

namespace Schema

/-- The schema without kinds. -/
def empty : Schema := ⟨[]⟩

/-- The kind called `name`. -/
def find? (s : Schema) (name : String) : Option Kind := s.kinds.find? (·.name == name)

/-- Whether `name` is defined. -/
def contains (s : Schema) (name : String) : Bool := (s.find? name).isSome

/-- Whether `name` is defined and finalized. -/
def isFinalized (s : Schema) (name : String) : Bool :=
  match s.find? name with
  | some k => k.shape.isSome
  | none => false

/-- The names of the kinds, in order of definition. -/
def names (s : Schema) : List String := s.kinds.map (·.name)

/-- Replaces the kind of the same name. -/
def replace (s : Schema) (k : Kind) : Schema :=
  ⟨s.kinds.map fun other => if other.name = k.name then k else other⟩

/-- Creates the kind called `name` unless it is there. -/
def define (s : Schema) (name : String) : Schema × List Event :=
  if s.contains name then (s, [])
  else (⟨s.kinds ++ [Kind.fresh name]⟩, [.created name])

/-- One declaration on a defined kind. -/
def declare (s : Schema) (name : String) (declaration : Declaration) :
    Schema × Except Error Unit :=
  match s.find? name with
  | none => (s, .error (.unresolved name none))
  | some k =>
    let r := k.declare declaration
    (s.replace r.1, r.2.mapError (.declaration name))

end Schema

end NodeSchema
