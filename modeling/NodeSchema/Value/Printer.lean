import NodeSchema.Decimal.Positional
import NodeSchema.Text.Quoted
import NodeSchema.Value.Basic

/-!
# The text of a value

Values are shown on one line: `null`, `true`, `3`, `"a"`, `[1, 2]`, and for
a node its kind and its fields, `Point {x: 3, y: 4}` with blanks inside the
braces.  Names and kinds stand as they are.
-/

namespace NodeSchema.Value

mutual

/-- The text of a value. -/
def text : Value → String
  | null => "null"
  | bool b => if b then "true" else "false"
  | number x => Decimal.write x
  | string s => Text.quote s
  | array items => "[" ++ ", ".intercalate (itemTexts items) ++ "]"
  | node ⟨tag, entries⟩ =>
    (match tag with
      | some kind => kind ++ " "
      | none => "") ++ "\x7b" ++ ",".intercalate (entryTexts entries) ++ " \x7d"

/-- The texts of the elements. -/
def itemTexts : List Value → List String
  | [] => []
  | item :: rest => text item :: itemTexts rest

/-- The texts of the fields, each after a blank. -/
def entryTexts : List (String × Value) → List String
  | [] => []
  | (name, value) :: rest => (" " ++ name ++ ": " ++ text value) :: entryTexts rest

end

end NodeSchema.Value

/-- The text of a node. -/
def NodeSchema.Record.text (n : NodeSchema.Node) : String := (NodeSchema.Value.node n).text
