import NodeSchema.Value.Outline

/-!
# Defaults

Where a field's value comes from when it is not supplied: a constant, or a
rule that computes it from the node as far as it is built.

* `Default.produce` — the value for a node;
* `Default.copied` and its neighbours — rules that are often wanted.
-/

namespace NodeSchema

/-- A constant, or a rule on the node that is being built. -/
inductive Default where
  | constant (value : Value)
  | computed (rule : Node → Value)

namespace Default

/-- The value for a node. -/
def produce : Default → Node → Value
  | constant value, _ => value
  | computed rule, node => rule node

/-- How a default is shown: the constant, or that it is computed. -/
def text : Default → String
  | constant value => value.text
  | computed _ => "computed"

/-- The outline of a default. -/
def outline : Default → String
  | constant value => "Constant(" ++ value.outline ++ ")"
  | computed _ => "Computed(..)"

/-- What stands at the end of a chain of names, or `fallback`. -/
def copied (names : List String) (fallback : Value) : Default :=
  computed fun node => (node.path? names).getD fallback

/-- The names of the fields that the node has. -/
def fieldNames : Default :=
  computed fun node => .array (node.names.map .string)

/-- The text of the node. -/
def nodeText : Default :=
  computed fun node => .string node.text

/-- The kind of the node, or `null` for a node without a tag. -/
def nodeKind : Default :=
  computed fun node =>
    match node.tag with
    | some kind => .string kind
    | none => .null

/-- A node of the given kind whose one field `inner` is what stands at the
end of a chain of names, or `null`. -/
def wrapped (kind : String) (names : List String) : Default :=
  computed fun node =>
    .node ((Record.tagged kind).set "inner" ((node.path? names).getD .null))

end Default

end NodeSchema
