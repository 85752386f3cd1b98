import NodeSchema.Bundle.Defaults

/-!
# Base kinds

The kinds that every syntax builds on: source locations, nodes, expressions,
identifiers, literals and member access.
-/

namespace NodeSchema.Bundle

/-- Whether a member access needs brackets, judged by the kind of its
property. -/
def accessNeedsBrackets (node : Node) : Bool :=
  match (node.path? ["property"]).bind Value.node? with
  | some property =>
    match property.tag with
    | some kind => ["Literal", "MemberExpression", "BinaryExpression"].contains kind
    | none => false
  | none => false

/-- The declarations of the base kinds. -/
def baseKinds (defaults : Defaults) : List (String × List Declaration) := [
  ("Printable", [
    .field (.derived "loc" (.union [.kind "SourceLocation", .null]) defaults.null)]),
  ("Node", [
    .supertypes ["Printable"]]),
  ("SourceLocation", [
    .parameters ["start", "end"],
    .field (.required "start" (.kind "Position")),
    .field (.required "end" (.kind "Position")),
    .field (.optional "source" (.union [.string, .null]) defaults.null)]),
  ("Position", [
    .parameters ["line", "column"],
    .field (.required "line" .number),
    .field (.required "column" .number)]),
  ("Expression", [
    .supertypes ["Node"]]),
  ("Identifier", [
    .supertypes ["Expression"],
    .parameters ["name"],
    .field (.required "name" .string),
    .field (.optional "optional" .boolean defaults.no)]),
  ("Literal", [
    .supertypes ["Expression"],
    .parameters ["value"],
    .field (.required "value" (.union [.string, .boolean, .null, .number]))]),
  ("MemberExpression", [
    .supertypes ["Expression"],
    .parameters ["object", "property", "computed"],
    .field (.required "object" (.kind "Expression")),
    .field (.required "property" (.union [.kind "Identifier", .kind "Expression"])),
    .field (.optional "computed" .boolean
      (.computed fun node => .bool (accessNeedsBrackets node)))])]

/-- Declares the base kinds. -/
def base {σ : Type} (names : Names) : Plugin σ Output :=
  ⟨names.base, ExceptT.run do
    let defaults ← useDefaults names
    declareAll (baseKinds defaults)
    return .nothing⟩

end NodeSchema.Bundle
