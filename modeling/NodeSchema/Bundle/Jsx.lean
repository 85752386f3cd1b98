import NodeSchema.Bundle.Base

/-!
# JSX kinds

Elements, fragments, attributes, expression containers, identifiers and
text, on top of the base kinds.  An element derives its name, its attributes
and whether it closes itself from its opening tag.

* `Bundle.library` — the bundled plugins;
* `Bundle.jsxSchema` — the schema with the base and JSX kinds.
-/

namespace NodeSchema.Bundle

/-- What names an element. -/
def elementName : Constraint :=
  .union [.kind "JSXIdentifier", .kind "JSXNamespacedName", .kind "JSXMemberExpression"]

/-- The attributes of a tag. -/
def attributes : Constraint :=
  .arrayOf (.union [.kind "JSXAttribute", .kind "JSXSpreadAttribute"])

/-- What stands between two tags.  Text may also stand as a plain literal. -/
def children : Constraint :=
  .arrayOf (.union [.kind "JSXElement", .kind "JSXExpressionContainer", .kind "JSXFragment",
    .kind "JSXText", .kind "Literal"])

/-- A field of the opening tag, or `null`. -/
def fromOpening (field : String) : Default := .copied ["openingElement", field] .null

/-- The declarations of the JSX kinds. -/
def jsxKinds (defaults : Defaults) : List (String × List Declaration) := [
  ("JSXAttribute", [
    .supertypes ["Node"],
    .parameters ["name", "value"],
    .field (.required "name" (.union [.kind "JSXIdentifier", .kind "JSXNamespacedName"])),
    .field (.optional "value"
      (.union [.kind "Literal", .kind "JSXExpressionContainer", .null]) defaults.null)]),
  ("JSXIdentifier", [
    .supertypes ["Identifier"],
    .parameters ["name"],
    .field (.required "name" .string)]),
  ("JSXNamespacedName", [
    .supertypes ["Node"],
    .parameters ["namespace", "name"],
    .field (.required "namespace" (.kind "JSXIdentifier")),
    .field (.required "name" (.kind "JSXIdentifier"))]),
  ("JSXMemberExpression", [
    .supertypes ["MemberExpression"],
    .parameters ["object", "property"],
    .field (.required "object" (.union [.kind "JSXIdentifier", .kind "JSXMemberExpression"])),
    .field (.required "property" (.kind "JSXIdentifier")),
    .field (.optional "computed" .boolean defaults.no)]),
  ("JSXSpreadAttribute", [
    .supertypes ["Node"],
    .parameters ["argument"],
    .field (.required "argument" (.kind "Expression"))]),
  ("JSXExpressionContainer", [
    .supertypes ["Expression"],
    .parameters ["expression"],
    .field (.required "expression" (.kind "Expression"))]),
  ("JSXElement", [
    .supertypes ["Expression"],
    .parameters ["openingElement", "closingElement", "children"],
    .field (.required "openingElement" (.kind "JSXOpeningElement")),
    .field (.optional "closingElement"
      (.union [.kind "JSXClosingElement", .null]) defaults.null),
    .field (.optional "children" children defaults.emptyArray),
    .field (.derived "name" elementName (fromOpening "name")),
    .field (.derived "selfClosing" .boolean (fromOpening "selfClosing")),
    .field (.derived "attributes" attributes (fromOpening "attributes"))]),
  ("JSXOpeningElement", [
    .supertypes ["Node"],
    .parameters ["name", "attributes", "selfClosing"],
    .field (.required "name" elementName),
    .field (.optional "attributes" attributes defaults.emptyArray),
    .field (.optional "selfClosing" .boolean defaults.no)]),
  ("JSXClosingElement", [
    .supertypes ["Node"],
    .parameters ["name"],
    .field (.required "name" elementName)]),
  ("JSXFragment", [
    .supertypes ["Expression"],
    .parameters ["openingElement", "closingElement", "children"],
    .field (.required "openingElement" (.kind "JSXOpeningFragment")),
    .field (.required "closingElement" (.kind "JSXClosingFragment")),
    .field (.optional "children" children defaults.emptyArray)]),
  ("JSXOpeningFragment", [
    .supertypes ["Node"],
    .parameters []]),
  ("JSXClosingFragment", [
    .supertypes ["Node"],
    .parameters []]),
  ("JSXText", [
    .supertypes ["Literal"],
    .parameters ["value"],
    .field (.required "value" .string)]),
  ("JSXEmptyExpression", [
    .supertypes ["Expression"],
    .parameters []]),
  ("JSXSpreadChild", [
    .supertypes ["Expression"],
    .parameters ["expression"],
    .field (.required "expression" (.kind "Expression"))])]

variable {σ : Type}

/-- Declares the JSX kinds on top of the base kinds. -/
def jsx (names : Names) : Plugin σ Output :=
  ⟨names.jsx, ExceptT.run do
    let _ ← Fallible.use names.base
    let defaults ← useDefaults names
    declareAll (jsxKinds defaults)
    return .nothing⟩

/-- The bundled plugins. -/
def library (names : Names) : List (Plugin σ Output) := [shared names, base names, jsx names]

/-- The names of the bundled plugins when nothing else is asked for. -/
def Names.plain : Names := ⟨"Shared", "Base", "Jsx"⟩

/-- A session with the plugin called `name` loaded into an empty loader. -/
def load (names : Names) (name : String) : Session Unit Output × Except Error Output :=
  Plugin.use (library names) name ⟨.empty, (), []⟩

/-- The schema with the base and JSX kinds. -/
def jsxSchema : Schema := (load .plain Names.plain.jsx).1.loader.schema

end NodeSchema.Bundle
