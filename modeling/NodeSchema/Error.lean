import NodeSchema.Constraint.Mismatch

/-!
# Errors

Errors are told apart by their causes; the wording stands in one place.
-/

namespace NodeSchema

/-- What is wrong with the declaration of a kind. -/
inductive Fault where
  /-- The declaration comes after the kind was finalized. -/
  | finalized
  /-- The kind lists itself as a supertype. -/
  | ownSupertype
  /-- A build parameter is listed twice. -/
  | repeatedParameter (parameter : String)
  /-- More than one alternative of a field accepts `null`. -/
  | ambiguousNull (field constraint : String)
  /-- A field is declared again with another constraint or visibility. -/
  | redeclared (field constraint previous : String)
  /-- The kind is its own supertype through others. -/
  | cyclic
  /-- A build parameter is no field of the kind. -/
  | strayParameter (parameter : String)
  /-- There is no such field. -/
  | noField (field : String)
  /-- The kind has no build parameters. -/
  | abstract
  /-- A field can be filled neither by a parameter nor by a default. -/
  | unreachableField (field : String)
  deriving DecidableEq, Repr

/-- Why a plugin could not be loaded. -/
inductive PluginFault where
  /-- It uses itself, directly or through others. -/
  | usesItself
  /-- What it handed over is not what its user expects. -/
  | unexpectedOutput
  /-- There is no plugin of that name. -/
  | unknown
  /-- It gave up for a reason of its own. -/
  | gaveUp (reason : String)
  deriving DecidableEq, Repr

/-- Everything that can go wrong: a kind is declared inconsistently; a
builder gets the wrong number of arguments; a field's value is not accepted;
a kind is named that does not exist; a plugin cannot be loaded. -/
inductive Error where
  | declaration (kind : String) (fault : Fault)
  | arity (kind : String) (parameters : List String) (given : Nat)
  | violation (kind field expected actual : String) (mismatch : Mismatch)
  | unresolved (kind : String) (referencedBy : Option String)
  | plugin (name : String) (fault : PluginFault)
  deriving DecidableEq, Repr

/-- The wording of a fault. -/
def Fault.text : Fault → String
  | finalized => "kind is already finalized"
  | ownSupertype => "a kind cannot be its own supertype"
  | repeatedParameter parameter => "build parameter '" ++ parameter ++ "' is listed twice"
  | ambiguousNull field constraint =>
    "field '" ++ field ++ "' has more than one alternative matching null: " ++ constraint
  | redeclared field constraint previous =>
    "field '" ++ field ++ "' redeclared as " ++ constraint ++ " (was " ++ previous ++ ")"
  | cyclic => "supertype chain is cyclic"
  | strayParameter parameter =>
    "build parameter '" ++ parameter ++ "' is not a declared or inherited field"
  | noField field => "no field named '" ++ field ++ "'"
  | abstract => "kind declares no build parameters"
  | unreachableField field =>
    "field '" ++ field ++ "' has neither a build parameter nor a default"

/-- The wording of a plugin's fault. -/
def PluginFault.text : PluginFault → String
  | usesItself => "plugin uses itself"
  | unexpectedOutput => "cached output has an unexpected type"
  | unknown => "no such plugin"
  | gaveUp reason => reason

/-- The wording of an error. -/
def Error.message : Error → String
  | declaration kind fault => "declaration error in kind '" ++ kind ++ "': " ++ fault.text
  | arity kind parameters given =>
    "builder for '" ++ kind ++ "' takes " ++ toString parameters.length ++ " argument(s) (" ++
      ", ".intercalate parameters ++ "), got " ++ toString given
  | violation kind field expected actual _ =>
    "field '" ++ field ++ "' of '" ++ kind ++ "' expects " ++ expected ++ ", got " ++ actual
  | unresolved kind referencedBy =>
    "unresolved kind '" ++ kind ++ "'" ++
      (match referencedBy with
        | some user => " (referenced by '" ++ user ++ "')"
        | none => "")
  | plugin name fault => "plugin '" ++ name ++ "' failed: " ++ fault.text

end NodeSchema
