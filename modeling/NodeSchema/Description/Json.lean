import NodeSchema.Description.Basic
import NodeSchema.Json.Reader

/-!
# Descriptions as JSON

Every object has a fixed list of keys, written in that order.  Reading is
more liberal: keys may come in any order, others are passed over, and of a
repeated key the last one counts, though each has to be of the right type.
No key may be missing.  `null` stands for the empty string, the empty array
and `false`, but for no object.

* `Description.toJson` — the text of a description;
* `Description.ofJson?` — the description that a text holds.
-/

namespace NodeSchema

namespace Json

/-- A list of strings. -/
def strings (texts : List String) : Json := array (texts.map string)

/-- A value that may be missing. -/
def orNull {α : Type} (write : α → Json) : Option α → Json
  | some a => write a
  | none => null

/-- A string. -/
def string? : Json → Option String
  | null => some ""
  | string s => some s
  | _ => none

/-- A boolean. -/
def bool? : Json → Option Bool
  | null => some false
  | bool b => some b
  | _ => none

/-- An array of what `read?` accepts. -/
def array? {α : Type} (read? : Json → Option α) : Json → Option (List α)
  | null => some []
  | array items => items.mapM read?
  | _ => none

/-- What `read?` accepts, or nothing. -/
def optional? {α : Type} (read? : Json → Option α) : Json → Option (Option α)
  | null => some none
  | document => (read? document).map some

/-- The value of a key: of all members with that key the last, if `read?`
accepts each of them. -/
def member? {α : Type} (members : List (String × Json)) (key : String)
    (read? : Json → Option α) : Option α := do
  let found ← (members.filter (·.1 == key)).mapM fun member => read? member.2
  found.getLast?

end Json

open Json

namespace FieldDescription

/-- The object for a field. -/
def toJson (f : FieldDescription) : Json :=
  object [("name", string f.name), ("constraint", string f.constraint),
    ("default", orNull string f.default), ("hidden", bool f.hidden)]

/-- The field that an object holds. -/
def ofJson? : Json → Option FieldDescription
  | object members => do
    return ⟨← member? members "name" string?, ← member? members "constraint" string?,
      ← member? members "default" (optional? string?), ← member? members "hidden" bool?⟩
  | _ => none

end FieldDescription

namespace KindDescription

/-- The object for a kind. -/
def toJson (k : KindDescription) : Json :=
  object [("name", string k.name), ("supertypes", strings k.supertypes),
    ("ancestors", strings k.ancestors), ("build_params", orNull strings k.parameters),
    ("fields", array (k.fields.map (·.toJson)))]

/-- The kind that an object holds. -/
def ofJson? : Json → Option KindDescription
  | object members => do
    return ⟨← member? members "name" string?, ← member? members "supertypes" (array? string?),
      ← member? members "ancestors" (array? string?),
      ← member? members "build_params" (optional? (array? string?)),
      ← member? members "fields" (array? FieldDescription.ofJson?)⟩
  | _ => none

end KindDescription

namespace Description

/-- The object for a description. -/
def document (d : Description) : Json := object [("kinds", array (d.kinds.map (·.toJson)))]

/-- The text of a description. -/
def toJson (d : Description) : String := String.ofList d.document.write

/-- The description that an object holds. -/
def ofDocument? : Json → Option Description
  | object members => do
    return ⟨← member? members "kinds" (array? KindDescription.ofJson?)⟩
  | _ => none

/-- The description that a text holds. -/
def ofJson? (text : String) : Option Description := do
  ofDocument? (← read? text)

end Description

end NodeSchema
