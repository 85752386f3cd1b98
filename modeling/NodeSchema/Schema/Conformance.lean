import NodeSchema.Schema.Shape
import NodeSchema.Constraint.Check

/-!
# Conformance

Whether a value is a node of a kind.  A node with a tag has to be of a kind
at or below the one asked for, and its fields are checked at depth `deep`
only; a node without a tag is checked by its fields.  An absent field is
judged by its default.

A default may hold a node of the kind whose field it fills, and a check of
such a node need not end.  So checks carry a limit: the number of checks of
kinds that may be nested in each other.  `none` says that the limit was
reached; it is no verdict.

* `Schema.checkKind` — the resolver that a schema is;
* `Schema.check` — a value against a constraint.
-/

namespace NodeSchema.Schema

/-- Why the kind `kind` cannot be resolved. -/
def malformed (kind : String) : Error → Mismatch
  | .unresolved name _ => .unresolved name
  | error => .malformed kind error.message

/-- Checks the fields of a node in order, an absent one by its default, up
to the first that is not accepted. -/
def checkFields (ask : Resolver Option) (depth : Depth) (kind : String) (node : Node) :
    List Field → Option Verdict
  | [] => some (.ok ())
  | field :: rest =>
    match (node.get? field.name).or (field.default.map (·.produce node)) with
    | none => some (.error (.missingField kind field.name))
    | some value => do
      match ← field.constraint.check ask depth value with
      | .ok () => checkFields ask depth kind node rest
      | .error cause => return .error (.field kind field.name cause)

/-- Whether `value` is a node of the kind called `kind`.  The limit counts
the checks of kinds that may be nested in this one, itself included. -/
def checkKind (s : Schema) : Nat → Resolver Option
  | 0, _, _, _ => none
  | limit + 1, kind, value, depth =>
    if s.contains kind then
      match value with
      | .node node =>
        match node.tag with
        | none =>
          match s.shape kind with
          | .ok shape => checkFields (s.checkKind limit) depth kind node shape.fields
          | .error error => some (.error (malformed kind error))
        | some tag =>
          if s.contains tag then
            match s.shape tag with
            | .ok shape =>
              if shape.ancestors.contains kind then
                match depth with
                | .shallow => some (.ok ())
                | .deep => checkFields (s.checkKind limit) depth tag node shape.fields
              else some (.error (.expected kind tag))
            | .error error => some (.error (malformed tag error))
          else some (.error (.expected kind tag))
      | _ => some (.error (.expected kind value.text))
    else some (.error (.unresolved kind))

/-- Checks a value against a constraint. -/
def check (s : Schema) (limit : Nat) (c : Constraint) (value : Value) (depth : Depth) :
    Option Verdict :=
  c.check (s.checkKind limit) depth value

end NodeSchema.Schema
