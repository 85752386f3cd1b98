import NodeSchema.Record

/-!
# Values and nodes

Built nodes and nodes handed over by a parser share one representation: a
tree of values whose interior vertices are records.  A node's tag is the
name of its kind; a node without a tag can still be checked by its fields.

* `Value`, `Node` — the data;
* `Value.same` — equality of values: numbers compare as numbers do, so that
  `NaN` differs from itself and the two zeros are equal, and the fields of
  nodes compare in order;
* `Record.path?` — follows field names through nested nodes;
* `Value.depth` — how deeply nodes are nested in a value.
-/

namespace NodeSchema

/-- A field value.  The explicit `null` is distinct from an absent field. -/
inductive Value where
  | null
  | bool (value : Bool)
  | number (value : Float)
  | string (value : String)
  | array (items : List Value)
  | node (node : Record Value)

/-- A node: its kind, if it says so, and its fields in order. -/
abbrev Node := Record Value

namespace Value

/-- Whether the value is the explicit `null`. -/
def isNull : Value → Bool
  | null => true
  | _ => false

/-- The boolean, if the value is one. -/
def bool? : Value → Option Bool
  | bool b => some b
  | _ => none

/-- The string, if the value is one. -/
def string? : Value → Option String
  | string s => some s
  | _ => none

/-- The elements, if the value is an array. -/
def array? : Value → Option (List Value)
  | array items => some items
  | _ => none

/-- The node, if the value is one. -/
def node? : Value → Option Node
  | node n => some n
  | _ => none

mutual

/-- Equality of values. -/
def same : Value → Value → Bool
  | null, null => true
  | bool a, bool b => a == b
  | number a, number b => a == b
  | string a, string b => a == b
  | array as, array bs => sameItems as bs
  | node ⟨tag, as⟩, node ⟨tag', bs⟩ => tag == tag' && sameEntries as bs
  | _, _ => false

/-- Equality element by element. -/
def sameItems : List Value → List Value → Bool
  | [], [] => true
  | a :: as, b :: bs => same a b && sameItems as bs
  | _, _ => false

/-- Equality field by field, in order. -/
def sameEntries : List (String × Value) → List (String × Value) → Bool
  | [], [] => true
  | (name, a) :: as, (name', b) :: bs => name == name' && same a b && sameEntries as bs
  | _, _ => false

end

instance : BEq Value := ⟨same⟩

mutual

/-- How deeply nodes are nested: a node is one deeper than its fields, an
array as deep as its elements. -/
def depth : Value → Nat
  | array items => itemsDepth items
  | node ⟨_, entries⟩ => entriesDepth entries + 1
  | _ => 0

/-- The greatest depth among the elements. -/
def itemsDepth : List Value → Nat
  | [] => 0
  | item :: rest => max (depth item) (itemsDepth rest)

/-- The greatest depth among the fields. -/
def entriesDepth : List (String × Value) → Nat
  | [] => 0
  | (_, value) :: rest => max (depth value) (entriesDepth rest)

end

end Value

/-- The value at the end of a chain of field names: each name but the last
has to lead to a node.  The empty chain leads nowhere. -/
def Record.path? (n : Node) : List String → Option Value
  | [] => none
  | [name] => n.get? name
  | name :: rest => do
    let inner ← (← n.get? name).node?
    inner.path? rest

end NodeSchema
