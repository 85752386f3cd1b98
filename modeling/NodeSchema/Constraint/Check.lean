import NodeSchema.Constraint.Basic
import NodeSchema.Constraint.Mismatch

/-!
# Checking a value against a constraint

Everything but named kinds is decided here.  What a named kind accepts is
asked of a resolver, which may have effects: it may keep a record of what it
is asked, or give up.  So the order of the questions is part of what
`Constraint.check` means:

* alternatives are tried from left to right up to the first that accepts;
* the elements of an array are checked up to the first that fails, and the
  verdict names its index.
-/

namespace NodeSchema

/-- How far a check descends.  A shallow check believes the tags of nested
nodes, a deep one checks their fields as well; nodes without a tag are
checked by their fields either way. -/
inductive Depth where
  | shallow
  | deep
  deriving DecidableEq, Repr

/-- Whether a value is a node of the named kind, as far as the depth asks. -/
abbrev Resolver (m : Type → Type) := String → Value → Depth → m Verdict

namespace Constraint

variable {m : Type → Type} [Monad m]

/-- The verdict on a value that has the wrong form. -/
def reject (c : Constraint) (value : Value) : Verdict :=
  .error (.expected c.text value.text)

/-- Checks elements one by one, from index `index` on, up to the first that
fails. -/
def checkItems (check : Value → m Verdict) (index : Nat) : List Value → m Verdict
  | [] => pure (.ok ())
  | item :: rest => do
    match ← check item with
    | .ok () => checkItems check (index + 1) rest
    | .error cause => pure (.error (.element index cause))

mutual

/-- Checks a value. -/
def check (ask : Resolver m) (depth : Depth) : Constraint → Value → m Verdict
  | kind name, value => ask name value depth
  | primitive type, value =>
    pure (if type.admits value then .ok () else reject (primitive type) value)
  | literal wanted, value =>
    pure (if wanted == value then .ok () else reject (literal wanted) value)
  | union alternatives, value => do
    if ← accepts ask depth alternatives value then pure (.ok ())
    else pure (.error (.noAlternative (texts alternatives) value.text))
  | arrayOf element, value =>
    match value with
    | .array items => checkItems (check ask depth element) 0 items
    | _ => pure (reject (arrayOf element) value)

/-- Whether one of several constraints accepts a value.  The first that
does ends the search. -/
def accepts (ask : Resolver m) (depth : Depth) : List Constraint → Value → m Bool
  | [], _ => pure false
  | c :: rest, value => do
    match ← check ask depth c value with
    | .ok () => pure true
    | .error _ => accepts ask depth rest value

end

end Constraint

end NodeSchema
