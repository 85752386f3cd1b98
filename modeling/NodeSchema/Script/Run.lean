import NodeSchema.Script.Step

/-!
# Scripts

A script is a list of steps on one loader, together with plugins whose
loading is scripted in the same way.  A step may refer to nodes that were
saved before, so that it is a function of what is saved.

* `ScriptedPlugin.plugin` — a plugin that runs its lines in order and ends
  with the first line that fails, unless the line only tries its step;
* `Script.run` — the reports of all steps: how each ended, which steps of
  scripted plugins ran, and the events.
-/

namespace NodeSchema.Script

/-- A line of a scripted plugin.  A line that only tries its step goes on
when the step fails. -/
structure Line where
  step : Saved → Step
  tries : Bool

/-- A plugin whose loading is a script. -/
structure ScriptedPlugin where
  name : String
  lines : List Line
  output : Saved → Value

/-- The notes with one more step that has run. -/
def Notes.trace (trace : Trace) (notes : Notes) : Notes :=
  { notes with traces := notes.traces ++ [trace] }

namespace ScriptedPlugin

/-- Runs lines in order, from the position `position` of plugin `index` on. -/
def runLines (index : Nat) (output : Saved → Value) (position : Nat) :
    List Line → Program Notes Output (Except Error Output)
  | [] => do
    let notes ← Program.note id .finish
    return .ok (.value (output notes.saved))
  | line :: rest => do
    let notes ← Program.note id .finish
    let result ← (line.step notes.saved).program.run
    let _ ← Program.note (Notes.trace ⟨index, position, result⟩) .finish
    match result with
    | .ok _ => runLines index output (position + 1) rest
    | .error error =>
      if line.tries then runLines index output (position + 1) rest
      else .finish (.error error)

/-- The plugin that runs the lines. -/
def plugin (p : ScriptedPlugin) (index : Nat) : Plugin Notes Output :=
  ⟨p.name, runLines index p.output 0 p.lines⟩

end ScriptedPlugin

/-- A loader that a script works on. -/
abbrev State := Session Notes Output

/-- What a script starts from: a loader without plugins, or with one of the
bundled plugins loaded. -/
inductive Start where
  | empty
  | loaded (plugin : String)

/-- What the steps of a script can do beside requests to the schema: load a
plugin for good, where a failure leaves an empty loader, and keep only the
schema of the loader. -/
inductive Command where
  | step (step : Step)
  | load (plugin : String)
  | release

/-- What is reported of a command. -/
structure Report where
  result : Result
  traces : List Trace
  events : List Event

/-- The plugins of a script: the bundled ones and the scripted ones. -/
def library (names : Bundle.Names) (scripted : List ScriptedPlugin) :
    List (Plugin Notes Output) :=
  Bundle.library names ++ scripted.mapIdx fun index p => p.plugin index

variable (plugins : List (Plugin Notes Output))

/-- The state at the start of a script. -/
def begin : Start → State
  | .empty => ⟨.empty, ⟨[], []⟩, []⟩
  | .loaded plugin => (Plugin.use plugins plugin ⟨.empty, ⟨[], []⟩, []⟩).1

/-- Carries out a command. -/
def perform (state : State) : Command → State × Result
  | .step step => step.program.run.runWith plugins state
  | .load plugin =>
    match Plugin.use plugins plugin state with
    | (state, .ok _) => (state, .ok (.truth true))
    | (state, .error error) => ({ state with loader := .empty }, .error error)
  | .release =>
    ({ state with loader := ⟨state.loader.schema, [], []⟩ }, .ok (.truth true))

/-- Carries out commands in order and reports each. -/
def runFrom (state : State) : List (Saved → Command) → List Report
  | [] => []
  | command :: rest =>
    let fresh := { state with log := [], notes := { state.notes with traces := [] } }
    let r := perform plugins fresh (command fresh.notes.saved)
    ⟨r.2, r.1.notes.traces, r.1.log⟩ :: runFrom r.1 rest

/-- The reports of a script. -/
def run (start : Start) (commands : List (Saved → Command)) : List Report :=
  runFrom plugins (begin plugins start) commands

end NodeSchema.Script
