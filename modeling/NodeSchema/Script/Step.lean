import NodeSchema.Bundle.Jsx
import NodeSchema.Description.Json

/-!
# Steps

A step is one request to a schema that is being loaded: a declaration, a
query, a node to build, a value to check, a plugin to use.  Steps are data,
so that a script can be written down; `Step.program` says what a step does.
-/

namespace NodeSchema.Script

/-- One request. -/
inductive Step where
  | define (kind : String) (declarations : List Declaration)
  | contains (kind : String)
  | isFinalized (kind : String)
  | kindNames
  | fieldNames (kind : String)
  | traversalFields (kind : String)
  | supertypesOf (kind : String)
  | field (kind name : String)
  | describe (kind : String)
  | describeAll
  | isSupertypeOf (sup sub : String)
  | fieldValue (node : Node) (name : String)
  | builder (kind : String)
  | validator (kind : String)
  | build (kind : String) (arguments : List Value) (save : Option String)
  | fromFields (kind : String) (source : Node) (save : Option String)
  | isKind (kind : String) (value : Value)
  | check (kind : String) (value : Value)
  | checkKind (kind : String) (value : Value) (depth : Depth)
  | constrain (constraint : Constraint) (value : Value) (depth : Depth)
  | audit
  | use (plugin : String)
  | isUsed (plugin : String)
  | fail (reason : String)

/-- What a step answers. -/
inductive Answer where
  | truth (holds : Bool)
  | name (name : String)
  | names (names : List String)
  | field (field : FieldDescription)
  | kind (kind : KindDescription)
  | description (description : Description)
  | value (value : Option Value)
  | node (node : Node)
  | builder (kind : String) (parameters : List String)
  | judged (shallow deep : Verdict)
  | verdict (verdict : Verdict)
  | constrained (holds : Bool) (verdict : Verdict)
  | output (output : Output)
  /-- A check was nested deeper than the limit. -/
  | undecided

/-- The end of a step: an answer or an error. -/
abbrev Result := Except Error Answer

/-- A step of a scripted plugin that has run: the plugin, the position of
the step in it, and how the step ended. -/
structure Trace where
  plugin : Nat
  position : Nat
  result : Result

/-- The nodes that a script saved under names, the latest first. -/
abbrev Saved := List (String × Node)

/-- What a script remembers: the nodes it saved, and the steps of scripted
plugins that have run. -/
structure Notes where
  saved : Saved
  traces : List Trace

/-- The notes with one more node saved. -/
def Notes.save (name : String) (node : Node) (notes : Notes) : Notes :=
  { notes with saved := (name, node) :: notes.saved }

/-- What a step asks for. -/
abbrev Request := Fallible Notes Output

/-- How deeply checks may be nested: deeper than any value that is written
down by hand or read from a file of reasonable size. -/
def nestingLimit : Nat := 10000

/-- Reads the schema. -/
def look {α : Type} (query : Schema → α) : Request α := do
  return query (← Fallible.inspect).schema

/-- Ends with the error, if it is one. -/
def orFail {α : Type} : Except Error α → Request α
  | .ok a => return a
  | .error error => throw error

/-- Reads the schema by a query that may fail. -/
def consult {α : Type} (query : Schema → Except Error α) : Request α := do
  orFail (← look query)

/-- Finalizes a kind and answers with its builder. -/
def builderFor (kind : String) : Request Builder := do
  Fallible.finalize kind
  consult (·.builderOf kind)

/-- The answer of a check, if it was not nested too deeply. -/
def decided {α : Type} (outcome : Option α) (answer : α → Answer) : Answer :=
  (outcome.map answer).getD .undecided

/-- Saves a node under a name. -/
def keep (name : String) (node : Node) : Request Unit := do
  let _ ← ExceptT.lift (Program.note (Notes.save name node) .finish)

/-- The node that was built, saved if a name is given. -/
def built (outcome : Option (Except Error Node)) (save : Option String) : Request Answer := do
  match outcome with
  | none => return .undecided
  | some made =>
    let node ← orFail made
    match save with
    | some name => keep name node
    | none => pure ()
    return .node node

/-- Whether a verdict accepts. -/
def accepts : Verdict → Bool
  | .ok () => true
  | .error _ => false

/-- What a step does. -/
def Step.program : Step → Request Answer
  | define kind declarations => do
    Fallible.define kind declarations
    return .name kind
  | contains kind => return .truth (← look (·.contains kind))
  | isFinalized kind => return .truth (← look (·.isFinalized kind))
  | kindNames => return .names (← look (·.names))
  | fieldNames kind => return .names (← consult (·.fieldNames kind))
  | traversalFields kind => return .names (← consult (·.traversalFields kind))
  | supertypesOf kind => return .names (← consult (·.supertypesOf kind))
  | field kind name => return .field (← consult (·.field kind name)).describe
  | describe kind => return .kind (← consult (·.describe kind))
  | describeAll => return .description (← consult (·.describeAll))
  | isSupertypeOf sup sub => return .truth (← look (·.isSupertypeOf sup sub))
  | fieldValue node name => return .value (← look (·.fieldValue node name))
  | builder kind => do
    let builder ← builderFor kind
    return .builder builder.kind builder.parameters
  | validator kind => do
    Fallible.finalize kind
    return .name kind
  | build kind arguments save => do
    let builder ← builderFor kind
    built (← look fun s => builder.build s nestingLimit arguments) save
  | fromFields kind source save => do
    let builder ← builderFor kind
    built (← look fun s => builder.fromFields s nestingLimit source) save
  | isKind kind value => do
    match ← ExceptT.lift (Fallible.finalize kind).run with
    | .error _ => return .truth false
    | .ok () =>
      return decided (← look (·.checkKind nestingLimit kind value .shallow)) fun verdict =>
        .truth (accepts verdict)
  | check kind value => do
    Fallible.finalize kind
    let shallow ← look (·.checkKind nestingLimit kind value .shallow)
    let deep ← look (·.checkKind nestingLimit kind value .deep)
    return decided (do return (← shallow, ← deep)) fun verdicts =>
      .judged verdicts.1 verdicts.2
  | checkKind kind value depth => do
    return decided (← look (·.checkKind nestingLimit kind value depth)) .verdict
  | constrain constraint value depth => do
    let shallow ← look (·.check nestingLimit constraint value .shallow)
    let verdict ← look (·.check nestingLimit constraint value depth)
    return decided (do return (← shallow, ← verdict)) fun verdicts =>
      .constrained (accepts verdicts.1) verdicts.2
  | audit => do
    Fallible.audit
    return .truth true
  | use plugin => return .output (← Fallible.use plugin)
  | isUsed plugin => return .truth ((← Fallible.inspect).outputs.lookup plugin).isSome
  | fail reason => throw (.plugin "script" (.gaveUp reason))

end NodeSchema.Script
