import NodeSchema.Schema.Finalize
import NodeSchema.Schema.Conformance

/-!
# Builders and validators

Requesting either finalizes the kind.  A builder makes nodes of one kind from
one argument per build parameter, or from named fields; a validator checks
whether a value is such a node.

* `Shape.buildParameters` — the parameters of a kind whose every field can be
  filled;
* `Builder.construct` — supplied fields first, then the defaults in the order
  of the fields, each seeing the node as built so far; then the fields are
  put in order and checked;
* `Schema.builder`, `Schema.validator` — the requests, which leave the kind
  finalized even if it turns out that it cannot be built.
-/

namespace NodeSchema

/-- The build parameters of the kind called `kind`, provided that every field
is among them or has a default. -/
def Shape.buildParameters (shape : Shape) (kind : String) : Except Error (List String) :=
  match shape.parameters with
  | none => .error (.declaration kind .abstract)
  | some parameters =>
    match shape.fields.find? fun f => f.default.isNone && !parameters.contains f.name with
    | some f => .error (.declaration kind (.unreachableField f.name))
    | none => .ok parameters

/-- Makes nodes of one finalized kind. -/
structure Builder where
  kind : String
  parameters : List String
  fields : List Field

namespace Builder

/-- Fills in the absent fields in order. -/
def fill (kind : String) (node : Node) : List Field → Except Error Node
  | [] => .ok node
  | field :: rest =>
    if node.has field.name then fill kind node rest
    else
      match field.default with
      | some default => fill kind (node.set field.name (default.produce node)) rest
      | none =>
        .error (.violation kind field.name field.constraint.text "nothing"
          (.missingField kind field.name))

/-- Checks the present fields in order, up to the first that is not
accepted. -/
def judge (s : Schema) (limit : Nat) (kind : String) (node : Node) :
    List Field → Option (Except Error Unit)
  | [] => some (.ok ())
  | field :: rest =>
    match node.get? field.name with
    | none => judge s limit kind node rest
    | some value => do
      match ← s.check limit field.constraint value .shallow with
      | .ok () => judge s limit kind node rest
      | .error mismatch =>
        return .error (.violation kind field.name field.constraint.text value.text mismatch)

/-- Makes a node from supplied fields. -/
def construct (b : Builder) (s : Schema) (limit : Nat) (supplied : List (String × Value)) :
    Option (Except Error Node) :=
  match fill b.kind ((Record.tagged b.kind).setAll supplied) b.fields with
  | .error error => some (.error error)
  | .ok filled => do
    let node := filled.arrange (b.fields.map (·.name))
    return (← judge s limit b.kind node b.fields).map fun () => node

/-- Makes a node from one argument per build parameter. -/
def build (b : Builder) (s : Schema) (limit : Nat) (arguments : List Value) :
    Option (Except Error Node) :=
  if arguments.length = b.parameters.length then
    b.construct s limit (b.parameters.zip arguments)
  else some (.error (.arity b.kind b.parameters arguments.length))

/-- Makes a node from the fields of another; fields that the kind does not
have are ignored. -/
def fromFields (b : Builder) (s : Schema) (limit : Nat) (source : Node) :
    Option (Except Error Node) :=
  b.construct s limit (b.fields.filterMap fun field =>
    (source.get? field.name).map fun value => (field.name, value))

end Builder

namespace Schema

/-- The builder of a finalized kind. -/
def builderOf (s : Schema) (kind : String) : Except Error Builder := do
  let shape ← s.shape kind
  return ⟨kind, ← shape.buildParameters kind, shape.fields⟩

/-- Finalizes a kind and answers with its builder. -/
def builder (s : Schema) (kind : String) : Schema × List Event × Except Error Builder :=
  match s.finalize kind with
  | .error error => (s, [], .error error)
  | .ok (s, events) => (s, events, s.builderOf kind)

/-- Finalizes a kind so that values can be checked against it. -/
def validator (s : Schema) (kind : String) : Schema × List Event × Except Error Unit :=
  match s.finalize kind with
  | .error error => (s, [], .error error)
  | .ok (s, events) => (s, events, .ok ())

end Schema

end NodeSchema
