import NodeSchema.Constraint.Check

/-!
# What a check asks

A resolver that knows which kinds accept everything, and keeps a record of
what it is asked.  It shows which kinds a check looks at, and in which
order, without a schema.
-/

namespace NodeSchema

/-- A question to a resolver: is this value of this kind? -/
structure Question where
  kind : String
  value : Value
  depth : Depth

/-- Accepts every value as one of the kinds in `accepted`, knows no other
kind, and appends each question to the record. -/
def recorder (accepted : List String) : Resolver (StateM (List Question)) :=
  fun kind value depth record =>
    (if accepted.contains kind then .ok () else .error (.unresolved kind),
      record ++ [⟨kind, value, depth⟩])

/-- The verdict on a value, and what was asked to reach it. -/
def Constraint.checkRecorded (c : Constraint) (accepted : List String) (depth : Depth)
    (value : Value) : Verdict × List Question :=
  c.check (recorder accepted) depth value []

end NodeSchema
