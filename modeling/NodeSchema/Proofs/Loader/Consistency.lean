import NodeSchema.Proofs.Loader.History
import NodeSchema.Proofs.Schema.Guarantees

/-!
# Consistency between loads

While plugins are being loaded a schema may be inconsistent: a plugin may
name kinds that the one that uses it has yet to define, and its output is
kept although nobody has audited what it declared.  Only the outermost use
audits.  That is enough, because whatever was not audited is audited with it
or undone with it.

* `Call.settles_audited` — a use from outside puts the old schema back, or
  leaves one that passes the audit;
* `Session.Consistent` — the state between loads;
* `Consistent.perform` — an operation that declares nothing itself keeps it;
* `Session.consistent_between_loads` — so it holds after every operation.
-/

namespace NodeSchema

variable {σ ω : Type}

namespace Session

/-- An audit passes if the schema does. -/
theorem passes_of_audit {s t : Session σ ω} (audited : s.audit = (t, .ok ())) :
    ∃ events, s.loader.schema.audit = .ok events := by
  unfold audit at audited
  split at audited
  · next events passed => exact ⟨events, passed⟩
  · cases (Prod.mk.inj audited).2

/-- Where nothing is being loaded any more, a plugin that settles well has
passed the audit. -/
theorem passes_of_settle {s : Session σ ω} (idle : s.loader.loading = []) {before : Loader ω}
    {plugin : String} {result : Except Error ω} {output : ω}
    (settled : (s.settle before plugin result).2 = .ok output) :
    ∃ events, s.loader.schema.audit = .ok events := by
  cases result with
  | error error =>
    rw [settle_of_error] at settled
    cases settled
  | ok handed =>
    have audits : s.close = s.audit := by
      unfold close
      rw [idle]
      rfl
    rcases outcome : s.close with ⟨t, error | done⟩
    · rw [settle_of_unclosed outcome] at settled
      cases settled
    · exact passes_of_audit (audits.symm.trans outcome)

end Session

/-- **The outermost use audits.**  Where nothing is being loaded, a use ends
with the schema that it began with or with one that passes the audit. -/
theorem Call.settles_audited (call : Call σ ω) (idle : call.before.loader.loading = []) :
    call.after.loader.schema = call.before.loader.schema ∨
      ∃ events, call.after.loader.schema.audit = .ok events := by
  rcases ran : call.runner with - | p
  · rw [after_of_no_runner ran]
    exact .inl rfl
  have left : (call.body p).1.leave.loader.loading = [] := by
    rw [← idle]
    exact Program.leave_run_loading (Plugin.use_loading call.others) p.body call.plugin call.before
  rw [after_of_runner ran]
  rcases (call.body p).1.leave.settle_cases call.before.loader call.plugin (call.body p).2 with
    ⟨error, -, back⟩ | ⟨output, -, passed, kept⟩
  · rw [back]
    exact .inl rfl
  · rw [kept]
    exact .inr (Session.passes_of_settle left passed)

namespace Session

/-- Between loads: nothing is being loaded, and the schema passes the
audit. -/
structure Consistent (s : Session σ ω) : Prop where
  idle : s.loader.loading = []
  reachable : s.loader.schema.Reachable
  audited : ∃ events, s.loader.schema.audit = .ok events

/-- **The step lemma.**  A use of a plugin, or a request that declares
nothing, keeps a session consistent. -/
theorem Consistent.perform {s : Session σ ω} (consistent : s.Consistent)
    (library : List (Plugin σ ω)) (operation : Operation)
    (quiet : ∀ request, operation = .request request → request.quiet = true) :
    (perform library s operation).Consistent := by
  have reachable := (perform_becomes library s operation).reachable consistent.reachable
  cases operation with
  | request request =>
    have sound : s.loader.schema.Sound := Schema.audit_ok_iff.mp consistent.audited
    have later : s.loader.schema.Later (s.loader.schema.after request) :=
      .step .refl request (quiet request rfl)
    exact ⟨consistent.idle, reachable,
      Schema.audit_ok_iff.mpr (sound.later consistent.reachable.coherent later)⟩
  | use plugin =>
    refine ⟨(Plugin.use_loading library plugin s).trans consistent.idle, reachable, ?_⟩
    rcases (Call.mk library plugin s).settles_audited consistent.idle with same | audited
    · have same : (Session.perform library s (.use plugin)).loader.schema = s.loader.schema := same
      rw [same]
      exact consistent.audited
    · exact audited

/-- **The run lemma.** -/
theorem Consistent.performAll {s : Session σ ω} (consistent : s.Consistent)
    (library : List (Plugin σ ω)) (operations : List Operation)
    (quiet : ∀ request, .request request ∈ operations → request.quiet = true) :
    (performAll library s operations).Consistent := by
  induction operations generalizing s with
  | nil => exact consistent
  | cons operation rest ih =>
    refine ih (consistent.perform library operation fun request same => ?_) fun request listed => ?_
    · exact quiet request (same ▸ List.mem_cons_self)
    · exact quiet request (List.mem_cons_of_mem operation listed)

/-- **A loader is consistent between loads.**  Take any run on a loader that
starts empty, in which all declarations are made by plugins.  After each
operation, whether it failed or not, the schema passes the audit and nothing
is being loaded. -/
theorem consistent_between_loads (library : List (Plugin σ ω)) (notes : σ)
    (operations : List Operation)
    (quiet : ∀ request, .request request ∈ operations → request.quiet = true) :
    let s := performAll library ⟨.empty, notes, []⟩ operations
    (∃ events, s.loader.schema.audit = .ok events) ∧ s.loader.loading = [] := by
  intro s
  have start : Consistent (⟨.empty, notes, []⟩ : Session σ ω) := ⟨rfl, .empty, [], rfl⟩
  have consistent : s.Consistent := start.performAll library operations quiet
  exact ⟨consistent.audited, consistent.idle⟩

/-- A plugin that puts leaves below a kind which it leaves to others. -/
def leafing : Plugin Unit Bool :=
  ⟨"leafing", .define "Leaf" (.declare "Leaf" (.supertypes ["Plant"]) fun _ => .finish (.ok true))⟩

/-- A plugin that defines what the leaves are below, and hands over whether
an audit passed before it did. -/
def planting : Plugin Unit Bool :=
  ⟨"planting", .use "leafing" fun _ => .audit fun r => .define "Plant" (.finish (.ok r.isOk))⟩

/-- A plugin that goes on after one that failed, with a kind of its own
below nothing that is defined. -/
def wilting : Plugin Unit Bool :=
  ⟨"wilting", .use "leafing" fun _ => .define "Stalk" (.declare "Stalk" (.supertypes ["Ghost"])
    fun _ => .finish (.ok true))⟩

/-- A use of the leaves alone, which fails; one within another plugin; a
request that finalizes the leaves; and a plugin that fails at its end. -/
def seasons : List Operation :=
  [.use "leafing", .use "planting", .request (.validator "Leaf"), .use "wilting"]

/-- Within the second use the audit fails while the leaves are kept.  After
the last operation the schema passes it. -/
theorem seasons_consistent :
    let s := performAll [leafing, planting, wilting] ⟨.empty, (), []⟩ seasons
    (∀ request, .request request ∈ seasons → request.quiet = true) ∧
      s.loader.outputs = [("planting", false), ("leafing", true)] ∧
      s.loader.schema.names = ["Leaf", "Plant"] ∧ s.loader.schema.isFinalized "Leaf" = true ∧
      (∃ events, s.loader.schema.audit = .ok events) ∧ s.loader.loading = [] := by
  intro s
  have quiet : ∀ request, .request request ∈ seasons → request.quiet = true := by
    simp [seasons, Schema.Request.quiet]
  exact ⟨quiet, by decide +kernel, by decide +kernel, by decide +kernel,
    consistent_between_loads _ () seasons quiet⟩

end Session

end NodeSchema
