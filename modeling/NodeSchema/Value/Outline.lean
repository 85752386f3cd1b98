import NodeSchema.Value.Printer

/-!
# The outline of a value

The outline names the form of every part: `Bool(true)`, `Number(3.0)`,
`Array([Null])`, `Node(Node {kind: Some("A"), fields: []})` with blanks
inside the braces.  It is meant for reading a default while a schema is
being written.
-/

namespace NodeSchema.Value

/-- A number with at least one decimal place. -/
def numberOutline (x : Float) : String :=
  let plain := Decimal.write x
  if x.isNaN || x.isInf || plain.toList.contains '.' then plain else plain ++ ".0"

/-- A tag, or that there is none. -/
def tagOutline : Option String → String
  | some kind => "Some(" ++ Text.quote kind ++ ")"
  | none => "None"

mutual

/-- The outline of a value. -/
def outline : Value → String
  | null => "Null"
  | bool b => "Bool(" ++ (if b then "true" else "false") ++ ")"
  | number x => "Number(" ++ numberOutline x ++ ")"
  | string s => "String(" ++ Text.quote s ++ ")"
  | array items => "Array([" ++ ", ".intercalate (itemOutlines items) ++ "])"
  | node ⟨tag, entries⟩ =>
    "Node(Node \x7b kind: " ++ tagOutline tag ++ ", fields: [" ++
      ", ".intercalate (entryOutlines entries) ++ "] \x7d)"

/-- The outlines of the elements. -/
def itemOutlines : List Value → List String
  | [] => []
  | item :: rest => outline item :: itemOutlines rest

/-- The outlines of the fields, each a pair of a name and a value. -/
def entryOutlines : List (String × Value) → List String
  | [] => []
  | (name, value) :: rest =>
    ("(" ++ Text.quote name ++ ", " ++ outline value ++ ")") :: entryOutlines rest

end

end NodeSchema.Value
