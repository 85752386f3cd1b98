import NodeSchema.Loader.Program

/-!
# Using plugins

A loader is one schema together with the plugins that were loaded into it.
Plugins bring in the plugins that they build on, and each one runs at most
once, so that all see the same definitions.

* `Program.run` — carries out the requests of a program, given how plugins
  are used;
* `Plugin.use` — runs a plugin unless its output is there already.  A plugin
  that is being loaded cannot be used again.  When the outermost plugin is
  done, the schema is audited.  If anything fails, the schema and the outputs
  are what they were before; the notes and the log stay.
-/

namespace NodeSchema

/-- A named program that declares kinds and hands something over. -/
structure Plugin (σ ω : Type) where
  name : String
  body : Program σ ω (Except Error ω)

/-- A loader at work: with the notes of its programs and the log so far. -/
structure Session (σ ω : Type) where
  loader : Loader ω
  notes : σ
  log : List Event

/-- The loader without kinds and plugins. -/
def Loader.empty {ω : Type} : Loader ω := ⟨Schema.empty, [], []⟩

namespace Session

variable {σ ω : Type}

/-- The session with another schema. -/
def setSchema (s : Session σ ω) (schema : Schema) : Session σ ω :=
  { s with loader := { s.loader with schema := schema } }

/-- The session with further events in its log. -/
def report (s : Session σ ω) (events : List Event) : Session σ ω :=
  { s with log := s.log ++ events }

/-- Creates a kind unless it is there. -/
def define (s : Session σ ω) (kind : String) : Session σ ω :=
  let defined := s.loader.schema.define kind
  (s.setSchema defined.1).report defined.2

/-- Makes one declaration on a kind. -/
def declare (s : Session σ ω) (kind : String) (declaration : Declaration) :
    Session σ ω × Except Error Unit :=
  let declared := s.loader.schema.declare kind declaration
  (s.setSchema declared.1, declared.2)

/-- Finalizes a kind. -/
def finalize (s : Session σ ω) (kind : String) : Session σ ω × Except Error Unit :=
  match s.loader.schema.finalize kind with
  | .ok (schema, events) => ((s.setSchema schema).report events, .ok ())
  | .error error => (s, .error error)

/-- Audits the schema. -/
def audit (s : Session σ ω) : Session σ ω × Except Error Unit :=
  match s.loader.schema.audit with
  | .ok events => (s.report events, .ok ())
  | .error error => (s, .error error)

/-- Puts a plugin on the stack of those that are being loaded. -/
def enter (s : Session σ ω) (plugin : String) : Session σ ω :=
  { s with loader := { s.loader with loading := plugin :: s.loader.loading } }.report
    [.starting plugin]

/-- Takes the innermost plugin off the stack. -/
def leave (s : Session σ ω) : Session σ ω :=
  { s with loader := { s.loader with loading := s.loader.loading.tail } }

/-- Keeps what a plugin handed over. -/
def keep (s : Session σ ω) (plugin : String) (output : ω) : Session σ ω :=
  { s with loader := { s.loader with outputs := (plugin, output) :: s.loader.outputs } }

/-- Gives up on a plugin: reports the error, and puts the schema and the
outputs of `before` back. -/
def undo (s : Session σ ω) (before : Loader ω) (plugin : String) (error : Error) :
    Session σ ω × Except Error ω :=
  let s := s.report [.undone plugin error]
  ({ s with loader := { s.loader with schema := before.schema, outputs := before.outputs } },
    .error error)

/-- Audits the schema if no plugin is being loaded any more. -/
def close (s : Session σ ω) : Session σ ω × Except Error Unit :=
  if s.loader.loading.isEmpty then s.audit else (s, .ok ())

/-- After a plugin has run: keeps what it handed over, or gives up on it if
it failed or the audit does. -/
def settle (s : Session σ ω) (before : Loader ω) (plugin : String) :
    Except Error ω → Session σ ω × Except Error ω
  | .error error => s.undo before plugin error
  | .ok output =>
    match s.close with
    | (s, .ok ()) => (s.keep plugin output, .ok output)
    | (s, .error error) => s.undo before plugin error

end Session

variable {σ ω : Type}

/-- Carries out the requests of a program; `useWith` says how plugins are
used. -/
def Program.run {α : Type}
    (useWith : String → Session σ ω → Session σ ω × Except Error ω) :
    Program σ ω α → Session σ ω → Session σ ω × α
  | finish answer, s => (s, answer)
  | define kind next, s => next.run useWith (s.define kind)
  | declare kind declaration next, s =>
    let r := s.declare kind declaration
    (next r.2).run useWith r.1
  | finalize kind next, s =>
    let r := s.finalize kind
    (next r.2).run useWith r.1
  | audit next, s =>
    let r := s.audit
    (next r.2).run useWith r.1
  | inspect next, s => (next s.loader).run useWith s
  | use plugin next, s =>
    let r := useWith plugin s
    (next r.2).run useWith r.1
  | note change next, s =>
    (next (change s.notes)).run useWith { s with notes := change s.notes }

namespace Plugin

/-- The plugins that are not called `name`. -/
def others (library : List (Plugin σ ω)) (name : String) : List (Plugin σ ω) :=
  library.filter fun p => p.name ≠ name

/-- Setting a plugin aside leaves fewer. -/
theorem others_lt {library : List (Plugin σ ω)} {name : String} {p : Plugin σ ω}
    (found : library.find? (·.name == name) = some p) :
    (others library name).length < library.length := by
  have named : p.name = name := by simpa using List.find?_some found
  exact List.length_filter_lt_length_iff_exists.mpr
    ⟨p, List.mem_of_find?_eq_some found, by simp [named]⟩

/-- Uses the plugin called `name`.  While it runs, it is set aside: the
plugins that it uses can use the others. -/
def use (library : List (Plugin σ ω)) (name : String) (s : Session σ ω) :
    Session σ ω × Except Error ω :=
  match s.loader.outputs.lookup name with
  | some output => (s, .ok output)
  | none =>
    if s.loader.loading.contains name then (s, .error (.plugin name .usesItself))
    else
      match _ : library.find? (·.name == name) with
      | none => (s, .error (.plugin name .unknown))
      | some p =>
        let r := p.body.run (fun other s => use (others library name) other s) (s.enter name)
        r.1.leave.settle s.loader name r.2
termination_by library.length
decreasing_by exact others_lt ‹_›

end Plugin

/-- Carries out a program that may use the plugins of a library. -/
def Program.runWith {α : Type} (library : List (Plugin σ ω)) (program : Program σ ω α)
    (s : Session σ ω) : Session σ ω × α :=
  program.run (Plugin.use library) s

end NodeSchema
