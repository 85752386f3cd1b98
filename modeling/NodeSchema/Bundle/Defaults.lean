import NodeSchema.Loader.Use

/-!
# Shared defaults

The constants that many fields fall back to, handed out by a plugin of their
own so that all kind sets share them.
-/

namespace NodeSchema

/-- Constants that are often wanted as defaults. -/
structure Defaults where
  null : Default
  emptyArray : Default
  no : Default
  yes : Default

/-- `null`, an empty array, `false` and `true`. -/
def Defaults.standard : Defaults :=
  ⟨.constant .null, .constant (.array []), .constant (.bool false), .constant (.bool true)⟩

/-- What a plugin hands to the plugins that use it. -/
inductive Output where
  | nothing
  | defaults (defaults : Defaults)
  | value (value : Value)

namespace Bundle

/-- The names under which the bundled plugins are registered. -/
structure Names where
  shared : String
  base : String
  jsx : String

variable {σ : Type}

/-- Hands out the shared defaults. -/
def shared (names : Names) : Plugin σ Output :=
  ⟨names.shared, .finish (.ok (.defaults .standard))⟩

/-- Uses the plugin of the shared defaults. -/
def useDefaults (names : Names) : Fallible σ Output Defaults := do
  match ← Fallible.use names.shared with
  | .defaults defaults => return defaults
  | _ => throw (.plugin names.shared .unexpectedOutput)

/-- Makes the declarations of a table, kind by kind. -/
def declareAll (table : List (String × List Declaration)) : Fallible σ Output Unit :=
  table.forM fun entry => Fallible.define entry.1 entry.2

end Bundle

end NodeSchema
