import NodeSchema.Script.Run

/-!
# The stack is private

Which plugins are being loaded, and in which order, is a matter of the loader.
Programs ask for the schema and for outputs, and never for the stack; so do
the bundled plugins and those that are scripted.

* `Program.Blind` — programs that do not look at the stack;
* `Fallible.blind_bind` — they can be put together;
* `Script.library_blind` — the plugins of every script are of this sort.
-/

namespace NodeSchema

variable {σ ω α β : Type}

/-- What a program does never depends on the stack.  It may look at the
schema and at the outputs. -/
def Program.Blind : Program σ ω α → Prop
  | finish _ => True
  | define _ next => next.Blind
  | declare _ _ next => ∀ r, (next r).Blind
  | finalize _ next => ∀ r, (next r).Blind
  | audit next => ∀ r, (next r).Blind
  | inspect next =>
    ∀ l, (next l).Blind ∧ ∀ stack, next { l with loading := stack } = next l
  | use _ next => ∀ r, (next r).Blind
  | note _ next => ∀ n, (next n).Blind

/-- One program after another looks at the stack only if one of them does. -/
theorem Program.Blind.bind {p : Program σ ω α} (blind : p.Blind) {f : α → Program σ ω β}
    (rest : ∀ a, (f a).Blind) : (p.bind f).Blind := by
  induction p with
  | finish answer => exact rest answer
  | define kind next ih => exact ih blind
  | declare kind declaration next ih => exact fun r => ih r (blind r)
  | finalize kind next ih => exact fun r => ih r (blind r)
  | audit next ih => exact fun r => ih r (blind r)
  | inspect next ih =>
    exact fun l => ⟨ih l (blind l).1, fun stack => congrArg (·.bind f) ((blind l).2 stack)⟩
  | use plugin next ih => exact fun r => ih r (blind r)
  | note change next ih => exact fun n => ih n (blind n)

namespace Fallible

/-- The same for programs that end early. -/
theorem blind_bind {x : Fallible σ ω α} (blind : x.run.Blind) {f : α → Fallible σ ω β}
    (rest : ∀ a, (f a).run.Blind) : (x >>= f).run.Blind := by
  refine Program.Blind.bind blind fun answer => ?_
  cases answer with
  | ok a => exact rest a
  | error error => exact trivial

theorem blind_lift {p : Program σ ω α} (blind : p.Blind) :
    (ExceptT.lift p : Fallible σ ω α).run.Blind :=
  Program.Blind.bind blind fun _ => trivial

theorem blind_use (plugin : String) : (use plugin : Fallible σ ω ω).run.Blind := fun _ => trivial

theorem blind_finalize (kind : String) : (finalize kind : Fallible σ ω Unit).run.Blind :=
  fun _ => trivial

theorem blind_audit : (audit : Fallible σ ω Unit).run.Blind := fun _ => trivial

theorem blind_forM {l : List α} {f : α → Fallible σ ω Unit} (each : ∀ a ∈ l, (f a).run.Blind) :
    (l.forM f).run.Blind := by
  induction l with
  | nil => exact trivial
  | cons a rest ih =>
    exact blind_bind (each a List.mem_cons_self) fun _ =>
      ih fun b listed => each b (List.mem_cons_of_mem a listed)

theorem blind_define (kind : String) (declarations : List Declaration) :
    (define kind declarations : Fallible σ ω Unit).run.Blind :=
  blind_bind (blind_lift (p := .define kind (.finish ())) trivial) fun _ =>
    blind_forM fun _ _ _ => trivial

end Fallible

namespace Bundle

theorem blind_useDefaults (names : Names) : (useDefaults names : Fallible σ Output _).run.Blind := by
  refine Fallible.blind_bind (Fallible.blind_use names.shared) fun output => ?_
  cases output <;> exact trivial

theorem blind_declareAll (table : List (String × List Declaration)) :
    (declareAll table : Fallible σ Output Unit).run.Blind :=
  Fallible.blind_forM fun entry _ => Fallible.blind_define entry.1 entry.2

/-- The bundled plugins do not look at the stack. -/
theorem library_blind (names : Names) : ∀ p ∈ (library names : List (Plugin σ Output)),
    p.body.Blind := by
  have handsOut : (shared names : Plugin σ Output).body.Blind := trivial
  have declares : (base names : Plugin σ Output).body.Blind :=
    Fallible.blind_bind (blind_useDefaults names) fun _ =>
      Fallible.blind_bind (blind_declareAll _) fun _ => trivial
  have builds : (jsx names : Plugin σ Output).body.Blind :=
    Fallible.blind_bind (Fallible.blind_use names.base) fun _ =>
      Fallible.blind_bind (blind_useDefaults names) fun _ =>
        Fallible.blind_bind (blind_declareAll _) fun _ => trivial
  simp [library, handsOut, declares, builds]

end Bundle

namespace Script

theorem blind_look (query : Schema → α) : (look query).run.Blind := fun _ => ⟨trivial, fun _ => rfl⟩

theorem blind_orFail (outcome : Except Error α) : (orFail outcome).run.Blind := by
  cases outcome <;> exact trivial

theorem blind_consult (query : Schema → Except Error α) : (consult query).run.Blind :=
  Fallible.blind_bind (blind_look query) blind_orFail

theorem blind_builderFor (kind : String) : (builderFor kind).run.Blind :=
  Fallible.blind_bind (Fallible.blind_finalize kind) fun _ => blind_consult _

theorem blind_keep (name : String) (node : Node) : (keep name node).run.Blind :=
  Fallible.blind_bind (Fallible.blind_lift (p := .note (Notes.save name node) .finish) fun _ => trivial)
    fun _ => trivial

theorem blind_built (outcome : Option (Except Error Node)) (save : Option String) :
    (built outcome save).run.Blind := by
  rcases outcome with - | made
  · exact trivial
  · refine Fallible.blind_bind (blind_orFail made) fun node => ?_
    cases save with
    | none => exact trivial
    | some name => exact Fallible.blind_bind (blind_keep name node) fun _ => trivial

theorem blind_program (step : Step) : step.program.run.Blind := by
  cases step with
  | define kind declarations =>
    exact Fallible.blind_bind (Fallible.blind_define kind declarations) fun _ => trivial
  | contains | isFinalized | kindNames | isSupertypeOf | fieldValue =>
    exact Fallible.blind_bind (blind_look _) fun _ => trivial
  | fieldNames | traversalFields | supertypesOf | field | describe | describeAll =>
    exact Fallible.blind_bind (blind_consult _) fun _ => trivial
  | builder kind => exact Fallible.blind_bind (blind_builderFor kind) fun _ => trivial
  | validator kind => exact Fallible.blind_bind (Fallible.blind_finalize kind) fun _ => trivial
  | build kind arguments save | fromFields kind source save =>
    exact Fallible.blind_bind (blind_builderFor kind) fun _ =>
      Fallible.blind_bind (blind_look _) fun outcome => blind_built outcome save
  | isKind kind value =>
    refine Fallible.blind_bind (Fallible.blind_lift (Fallible.blind_finalize kind)) fun answer => ?_
    cases answer with
    | error error => exact trivial
    | ok done => exact Fallible.blind_bind (blind_look _) fun _ => trivial
  | check kind value =>
    exact Fallible.blind_bind (Fallible.blind_finalize kind) fun _ =>
      Fallible.blind_bind (blind_look _) fun _ => Fallible.blind_bind (blind_look _) fun _ => trivial
  | checkKind => exact Fallible.blind_bind (blind_look _) fun _ => trivial
  | constrain =>
    exact Fallible.blind_bind (blind_look _) fun _ =>
      Fallible.blind_bind (blind_look _) fun _ => trivial
  | audit => exact Fallible.blind_bind Fallible.blind_audit fun _ => trivial
  | use plugin => exact Fallible.blind_bind (Fallible.blind_use plugin) fun _ => trivial
  | isUsed plugin => exact fun _ => ⟨trivial, fun _ => rfl⟩
  | fail reason => exact trivial

theorem blind_runLines (index : Nat) (output : Saved → Value) (lines : List Line) (position : Nat) :
    (ScriptedPlugin.runLines index output position lines).Blind := by
  induction lines generalizing position with
  | nil => exact fun _ => trivial
  | cons line rest ih =>
    intro notes
    refine (blind_program _).bind fun result => ?_
    intro traced
    cases result with
    | ok answer => exact ih (position + 1)
    | error error =>
      show (if line.tries then _ else _ : Program _ _ _).Blind
      split
      · exact ih (position + 1)
      · exact trivial

/-- Nor do those of any script. -/
theorem library_blind (names : Bundle.Names) (scripted : List ScriptedPlugin) :
    ∀ p ∈ library names scripted, p.body.Blind := by
  intro p listed
  rcases List.mem_append.mp listed with bundled | scripted
  · exact Bundle.library_blind names p bundled
  · obtain ⟨index, _, rfl⟩ := List.mem_mapIdx.mp scripted
    exact blind_runLines _ _ _ _

end Script

end NodeSchema
