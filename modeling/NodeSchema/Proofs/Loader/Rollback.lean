import Mathlib.Control.Monad.Basic
import Mathlib.Logic.Relation
import NodeSchema.Loader.Use

/-!
# Rolling back a failed plugin

Using a plugin is a transaction on the loader.  Two mechanisms share the
work: the schema and the outputs are put back from a snapshot, while the
stack of plugins that are being loaded is only ever pushed and popped.  They
agree because no request of a program, and no use that it makes, leaves the
stack other than it was.

* `Program.run_keeps` — what every request keeps, a whole program keeps;
* `Session.settle_cases` — how a plugin settles after it has run;
* `Plugin.use_loading` — a use leaves the stack as it found it, whether it
  succeeds or fails;
* `Plugin.use_error_loader` — a failed use leaves the loader as it was;
* `Call.LeadsTo` — the uses that one use leads to, to any depth, each with
  the session at its own start;
* `Call.failed_use_restores` — each of them that fails restores the loader.
-/

namespace NodeSchema

variable {σ ω α : Type}

namespace Session

/-- What the requests of a program keep, whatever they are about.  How other
plugins are used is left open. -/
structure Keeps (kept : Session σ ω → Prop) : Prop where
  define : ∀ {s} (kind : String), kept s → kept (s.define kind)
  declare : ∀ {s} (kind : String) (declaration : Declaration),
    kept s → kept (s.declare kind declaration).1
  finalize : ∀ {s} (kind : String), kept s → kept (s.finalize kind).1
  audit : ∀ {s}, kept s → kept s.audit.1
  note : ∀ {s} (change : σ → σ), kept s → kept { s with notes := change s.notes }

@[simp] theorem define_loading (s : Session σ ω) (kind : String) :
    (s.define kind).loader.loading = s.loader.loading := rfl

@[simp] theorem declare_loading (s : Session σ ω) (kind : String) (declaration : Declaration) :
    (s.declare kind declaration).1.loader.loading = s.loader.loading := rfl

@[simp] theorem finalize_loading (s : Session σ ω) (kind : String) :
    (s.finalize kind).1.loader.loading = s.loader.loading := by
  unfold finalize
  split <;> rfl

/-- An audit reads the loader and leaves it alone. -/
@[simp] theorem audit_loader (s : Session σ ω) : s.audit.1.loader = s.loader := by
  unfold audit
  split <;> rfl

@[simp] theorem close_loader (s : Session σ ω) : s.close.1.loader = s.loader := by
  unfold close
  split
  · exact audit_loader s
  · rfl

@[simp] theorem enter_loading (s : Session σ ω) (plugin : String) :
    (s.enter plugin).loader.loading = plugin :: s.loader.loading := rfl

@[simp] theorem leave_loading (s : Session σ ω) :
    s.leave.loader.loading = s.loader.loading.tail := rfl

/-- No request changes the stack of plugins that are being loaded. -/
theorem keeps_loading (stack : List String) :
    Keeps fun s : Session σ ω => s.loader.loading = stack where
  define kind h := by rw [define_loading, h]
  declare kind declaration h := by rw [declare_loading, h]
  finalize kind h := by rw [finalize_loading, h]
  audit h := by rw [audit_loader, h]
  note _ h := h

/-- A plugin that failed settles by being undone. -/
theorem settle_of_error (s : Session σ ω) (before : Loader ω) (plugin : String) (error : Error) :
    s.settle before plugin (.error error) = s.undo before plugin error := rfl

/-- A plugin settles by handing over its output if the closing audit
passes. -/
theorem settle_of_closed {s t : Session σ ω} (closed : s.close = (t, .ok ()))
    (before : Loader ω) (plugin : String) (output : ω) :
    s.settle before plugin (.ok output) = (t.keep plugin output, .ok output) := by
  simp only [settle, closed]

/-- A plugin settles by being undone if the closing audit fails. -/
theorem settle_of_unclosed {s t : Session σ ω} {error : Error}
    (unclosed : s.close = (t, .error error)) (before : Loader ω) (plugin : String) (output : ω) :
    s.settle before plugin (.ok output) = t.undo before plugin error := by
  simp only [settle, unclosed]

/-- Undoing a plugin puts the schema and the outputs of the snapshot back
and leaves the stack alone. -/
theorem undo_loader (s : Session σ ω) (before : Loader ω) (plugin : String) (error : Error) :
    (s.undo before plugin error).1.loader =
      ⟨before.schema, before.outputs, s.loader.loading⟩ := rfl

theorem keep_loader (s : Session σ ω) (plugin : String) (output : ω) :
    (s.keep plugin output).loader =
      { s.loader with outputs := (plugin, output) :: s.loader.outputs } := rfl

/-- **How a plugin settles.**  Either with an error, and then the snapshot has
been put back, or with its output, which is kept.  The stack is not touched
either way. -/
theorem settle_cases (s : Session σ ω) (before : Loader ω) (plugin : String)
    (result : Except Error ω) :
    (∃ error, (s.settle before plugin result).2 = .error error ∧
        (s.settle before plugin result).1.loader =
          ⟨before.schema, before.outputs, s.loader.loading⟩) ∨
      ∃ output, result = .ok output ∧ (s.settle before plugin result).2 = .ok output ∧
        (s.settle before plugin result).1.loader =
          { s.loader with outputs := (plugin, output) :: s.loader.outputs } := by
  cases result with
  | error error =>
    rw [settle_of_error]
    exact .inl ⟨error, rfl, undo_loader s before plugin error⟩
  | ok output =>
    have audited := close_loader s
    rcases outcome : s.close with ⟨t, error | done⟩
    · rw [outcome] at audited
      rw [settle_of_unclosed outcome, undo_loader, audited]
      exact .inl ⟨error, rfl, rfl⟩
    · rw [outcome] at audited
      rw [settle_of_closed outcome, keep_loader, audited]
      exact .inr ⟨output, rfl, rfl, rfl⟩

/-- Settling a plugin that has left the stack does not touch the stack, and
if it ends with an error the snapshot has been put back. -/
theorem settle_loader (s : Session σ ω) (before : Loader ω) (plugin : String)
    (result : Except Error ω) :
    (s.settle before plugin result).1.loader.loading = s.loader.loading ∧
      ∀ error, (s.settle before plugin result).2 = .error error →
        (s.settle before plugin result).1.loader =
          ⟨before.schema, before.outputs, s.loader.loading⟩ := by
  rcases s.settle_cases before plugin result with ⟨cause, -, back⟩ | ⟨output, -, passed, kept⟩
  · rw [back]
    exact ⟨rfl, fun _ _ => rfl⟩
  · refine ⟨by rw [kept], fun error failed => ?_⟩
    rw [passed] at failed
    cases failed

end Session

/-- **The run lemma.**  What every request keeps, and every use, is kept by
a whole program. -/
theorem Program.run_keeps {kept : Session σ ω → Prop} (keeps : Session.Keeps kept)
    {useWith : String → Session σ ω → Session σ ω × Except Error ω}
    (uses : ∀ plugin s, kept s → kept (useWith plugin s).1)
    (program : Program σ ω α) {s : Session σ ω} (h : kept s) :
    kept (program.run useWith s).1 := by
  induction program generalizing s with
  | finish answer => exact h
  | define kind next ih => exact ih (keeps.define kind h)
  | declare kind declaration next ih => exact ih _ (keeps.declare kind declaration h)
  | finalize kind next ih => exact ih _ (keeps.finalize kind h)
  | audit next ih => exact ih _ (keeps.audit h)
  | inspect next ih => exact ih _ h
  | use plugin next ih => exact ih _ (uses plugin s h)
  | note change next ih => exact ih _ (keeps.note change h)

/-- A program that is run for a plugin leaves the stack with the plugin on
top, so that taking the plugin off restores the stack. -/
theorem Program.leave_run_loading
    {useWith : String → Session σ ω → Session σ ω × Except Error ω}
    (uses : ∀ plugin s, (useWith plugin s).1.loader.loading = s.loader.loading)
    (program : Program σ ω α) (name : String) (s : Session σ ω) :
    (program.run useWith (s.enter name)).1.leave.loader.loading = s.loader.loading := by
  have kept : (program.run useWith (s.enter name)).1.loader.loading = name :: s.loader.loading :=
    run_keeps (Session.keeps_loading _) (fun plugin t h => (uses plugin t).trans h)
      program (Session.enter_loading s name)
  rw [Session.leave_loading, kept, List.tail_cons]

namespace Plugin

/-- **The stack is balanced.**  A use leaves the stack of plugins that are
being loaded as it found it, whether it succeeds or fails. -/
theorem use_loading (library : List (Plugin σ ω)) (name : String) (s : Session σ ω) :
    (use library name s).1.loader.loading = s.loader.loading := by
  fun_induction use library name s with
  | case1 library name s output cached => rfl
  | case2 library name s absent busy => rfl
  | case3 library name s absent idle unknown => rfl
  | case4 library name s absent idle p found r ih =>
    calc (r.1.leave.settle s.loader name r.2).1.loader.loading
        = r.1.leave.loader.loading := (Session.settle_loader _ _ _ _).1
      _ = s.loader.loading := Program.leave_run_loading ih p.body name s

/-- **A failed use is undone.**  Schema, outputs and stack are what they were
before it, whichever way it failed. -/
theorem use_error_loader (library : List (Plugin σ ω)) (name : String) (s : Session σ ω) :
    ∀ error, (use library name s).2 = .error error →
      (use library name s).1.loader = s.loader := by
  fun_cases use library name s with
  | case1 output cached => exact fun _ _ => rfl
  | case2 absent busy => exact fun _ _ => rfl
  | case3 absent idle unknown => exact fun _ _ => rfl
  | case4 absent idle p found r =>
    intro error failed
    have restored := (Session.settle_loader r.1.leave s.loader name r.2).2 error failed
    have balanced := Program.leave_run_loading (use_loading (others library name)) p.body name s
    calc (r.1.leave.settle s.loader name r.2).1.loader
        = ⟨s.loader.schema, s.loader.outputs, r.1.leave.loader.loading⟩ := restored
      _ = ⟨s.loader.schema, s.loader.outputs, s.loader.loading⟩ := by rw [balanced]

end Plugin

/-- The uses of plugins that a program makes itself, each with the session
in which it makes it, in order. -/
def Program.uses (useWith : String → Session σ ω → Session σ ω × Except Error ω) :
    Program σ ω α → Session σ ω → List (String × Session σ ω)
  | finish _, _ => []
  | define kind next, s => next.uses useWith (s.define kind)
  | declare kind declaration next, s =>
    let r := s.declare kind declaration
    (next r.2).uses useWith r.1
  | finalize kind next, s =>
    let r := s.finalize kind
    (next r.2).uses useWith r.1
  | audit next, s =>
    let r := s.audit
    (next r.2).uses useWith r.1
  | inspect next, s => (next s.loader).uses useWith s
  | use plugin next, s =>
    let r := useWith plugin s
    (plugin, s) :: (next r.2).uses useWith r.1
  | note change next, s =>
    (next (change s.notes)).uses useWith { s with notes := change s.notes }

/-- A use of a plugin: the plugins that can be used, the one that is, and
the session at the start. -/
structure Call (σ ω : Type) where
  library : List (Plugin σ ω)
  plugin : String
  before : Session σ ω

namespace Call

/-- The session at the end of a use. -/
def after (call : Call σ ω) : Session σ ω :=
  (Plugin.use call.library call.plugin call.before).1

/-- What a use answers. -/
def outcome (call : Call σ ω) : Except Error ω :=
  (Plugin.use call.library call.plugin call.before).2

/-- The uses that a use makes itself.  There are none if the plugin does not
run: its output is there, or it is being loaded, or it does not exist. -/
def nested (call : Call σ ω) : List (Call σ ω) :=
  let library := Plugin.others call.library call.plugin
  if (call.before.loader.outputs.lookup call.plugin).isSome ||
      call.before.loader.loading.contains call.plugin then []
  else
    match call.library.find? (·.name == call.plugin) with
    | none => []
    | some p =>
      (p.body.uses (Plugin.use library) (call.before.enter call.plugin)).map
        fun entry => ⟨library, entry.1, entry.2⟩

/-- A use leads to itself, to the uses that it makes, and so on. -/
abbrev LeadsTo : Call σ ω → Call σ ω → Prop :=
  Relation.ReflTransGen fun call inner => inner ∈ call.nested

/-- **Loading is a transaction.**  Whatever the plugins do, and whichever
errors they pass on or ignore: a use that fails ends with the schema, the
outputs and the stack that it started with, and so does each use that it
leads to and that fails. -/
theorem failed_use_restores (call : Call σ ω) :
    (∀ error, call.outcome = .error error → call.after.loader = call.before.loader) ∧
      ∀ inner, call.LeadsTo inner → ∀ error, inner.outcome = .error error →
        inner.after.loader = inner.before.loader :=
  ⟨Plugin.use_error_loader call.library call.plugin call.before,
    fun inner _ => Plugin.use_error_loader inner.library inner.plugin inner.before⟩

/-- A plugin that fails in the middle of a declaration. -/
def halting : Plugin Unit Unit :=
  ⟨"halting", .define "Half" (.declare "Half" (.supertypes ["Base", "Half"]) .finish)⟩

/-- A plugin that goes on after the failure of another, and then names a
supertype that nothing defines. -/
def dangling : Plugin Unit Unit :=
  ⟨"dangling", .define "Whole" (.use "halting" fun _ =>
    .declare "Whole" (.supertypes ["Ghost"]) .finish)⟩

/-- Loads the plugin whose schema does not pass the closing audit. -/
def danglingCall : Call Unit Unit := ⟨[halting, dangling], "dangling", ⟨.empty, (), []⟩⟩

/-- The use of the failing plugin by the other. -/
def haltingCall : Call Unit Unit :=
  ⟨[halting], "halting", (danglingCall.before.enter "dangling").define "Whole"⟩

/-- Both uses fail, the inner one between two requests of the outer one, and
both restore the loader. -/
theorem dangling_restores :
    danglingCall.outcome = .error (.unresolved "Ghost" (some "Whole")) ∧
      danglingCall.after.loader = danglingCall.before.loader ∧
      danglingCall.LeadsTo haltingCall ∧
      haltingCall.outcome = .error (.declaration "Half" .ownSupertype) ∧
      haltingCall.after.loader = haltingCall.before.loader := by
  have outerFails : danglingCall.outcome = .error (.unresolved "Ghost" (some "Whole")) := by
    decide +kernel
  have nested : danglingCall.nested = [haltingCall] := by rfl
  have leads : danglingCall.LeadsTo haltingCall :=
    .single (nested ▸ List.mem_singleton.mpr rfl)
  have innerFails : haltingCall.outcome = .error (.declaration "Half" .ownSupertype) := by
    decide +kernel
  have restores := failed_use_restores danglingCall
  exact ⟨outerFails, restores.1 _ outerFails, leads, innerFails,
    restores.2 haltingCall leads _ innerFails⟩

end Call

end NodeSchema
