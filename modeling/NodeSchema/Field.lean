import NodeSchema.Constraint.Basic
import NodeSchema.Default

/-!
# Fields

A field of a kind, and the merging of field lists: a later field takes the
place of an earlier one of its name, a new one goes to the end.
-/

namespace NodeSchema

/-- A field of a kind.  Hidden fields are left out when a tree is walked. -/
structure Field where
  name : String
  constraint : Constraint
  default : Option Default
  hidden : Bool

namespace Field

/-- A visible field that has to be supplied. -/
def required (name : String) (constraint : Constraint) : Field :=
  ⟨name, constraint, none, false⟩

/-- A visible field with a default. -/
def optional (name : String) (constraint : Constraint) (default : Default) : Field :=
  ⟨name, constraint, some default, false⟩

/-- A hidden field with a default. -/
def derived (name : String) (constraint : Constraint) (default : Default) : Field :=
  ⟨name, constraint, some default, true⟩

/-- Replaces the first field of that name, or appends the field. -/
def put (field : Field) : List Field → List Field
  | [] => [field]
  | f :: rest => if f.name = field.name then field :: rest else f :: put field rest

/-- Puts the incoming fields one after the other. -/
def merge (fields incoming : List Field) : List Field :=
  incoming.foldl (fun fields field => put field fields) fields

/-- The field called `name`. -/
def find? (fields : List Field) (name : String) : Option Field :=
  fields.find? (·.name == name)

end Field

end NodeSchema
