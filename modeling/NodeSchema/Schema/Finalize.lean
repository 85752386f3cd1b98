import NodeSchema.Schema.Shape

/-!
# Finalization

A kind is finalized, together with all kinds above it, the first time that a
builder or a validator is requested for it or for a kind below it.  From then
on it holds its shape.

* `Schema.pending` — the kinds that finalizing one kind finalizes: depth
  first, supertypes before the kind, each once;
* `Schema.finalize` — all of them or, if the kind does not resolve, none.
-/

namespace NodeSchema.Schema

/-- Appends to `settled` what finalizing `name` still has to finalize.  The
kinds in `below` are the ones that asked for it, the innermost first. -/
def pendingBelow (s : Schema) (below settled : List String) (name : String) : List String :=
  match _ : s.find? name with
  | none => settled
  | some k =>
    if k.shape.isSome || settled.contains name then settled
    else if _ : below.contains name = false then
      k.supertypes.foldl (fun settled base => s.pendingBelow (name :: below) settled base) settled
        ++ [name]
    else settled
termination_by (s.outside below).length
decreasing_by exact outside_cons_lt ‹s.find? name = some _› ‹_›

/-- The kinds that finalizing `name` finalizes, supertypes first. -/
def pending (s : Schema) (name : String) : List String := s.pendingBelow [] [] name

/-- Lets the kind called `name` hold its shape. -/
def hold (s : Schema) (name : String) (shape : Shape) : Schema :=
  ⟨s.kinds.map fun k => if k.name = name then { k with shape := some shape } else k⟩

/-- Finalizes a kind and all kinds above it, and reports those that were not
finalized before.  Nothing changes when the kind does not resolve. -/
def finalize (s : Schema) (name : String) : Except Error (Schema × List Event) := do
  let _ ← s.shape name
  let shaped ← (s.pending name).mapM fun kind => return (kind, ← s.shape kind)
  return (shaped.foldl (fun s entry => s.hold entry.1 entry.2) s,
    shaped.map fun entry => .finalized entry.1 entry.2.fields.length)

end NodeSchema.Schema
