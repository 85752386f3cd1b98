import NodeSchema.Proofs.Loader.Running
import NodeSchema.Proofs.Loader.Stretch

/-!
# Effects enter once

What a plugin declares enters a loader once.  Its output is kept when it has
succeeded, and is looked up before anything runs; so it could run again only
if the output were lost, and outputs are lost in one way, by the failure of a
use that had begun before.

* `Session.use_keeps_output` — a use loses no output;
* `Session.answered` — where the output of a plugin is, a use of it only
  hands it over;
* `Session.effects_enter_once` — so a plugin starts twice only if the first
  start was undone, and never after a use from outside has succeeded.
-/

namespace NodeSchema

open scoped List

variable {σ ω : Type}

/-- The log says that a plugin starts only where one does. -/
theorem Moment.exists_starts {moment : Moment σ ω} {plugin : String}
    (told : moment.event? = some (.starting plugin)) :
    ∃ call : Call σ ω, moment = .starts call ∧ call.plugin = plugin := by
  cases moment with
  | starts call => exact ⟨call, rfl, Event.starting.inj (Option.some.inj told)⟩
  | ends call =>
    rcases ended : call.outcome with error | output <;> simp [event?, ended] at told

namespace Session

/-- No request loses the output of a plugin. -/
theorem keeps_output (plugin : String) (output : ω) :
    Keeps fun s : Session σ ω => s.loader.outputs.lookup plugin = some output where
  define kind h := (define_stretch _ kind).keeps plugin output h
  declare kind declaration h := (declare_stretch _ kind declaration).keeps plugin output h
  finalize kind h := (finalize_stretch _ kind).keeps plugin output h
  audit h := (audit_stretch _).keeps plugin output h
  note _ h := h

/-- A use does not lose the output of a plugin either, whether it succeeds or
fails. -/
theorem use_keeps_output {plugin : String} {output : ω} (library : List (Plugin σ ω))
    (other : String) (s : Session σ ω) (there : s.loader.outputs.lookup plugin = some output) :
    (Plugin.use library other s).1.loader.outputs.lookup plugin = some output :=
  (Call.mk library other s).stretch.keeps plugin output there

/-- An operation does not lose the output of a plugin. -/
theorem perform_keeps_output {plugin : String} {output : ω} (library : List (Plugin σ ω))
    (operation : Operation) (s : Session σ ω)
    (there : s.loader.outputs.lookup plugin = some output) :
    (perform library s operation).loader.outputs.lookup plugin = some output := by
  cases operation with
  | request request => exact there
  | use other => exact use_keeps_output library other s there

/-- A use of a plugin whose output is there answers with it and does nothing
else. -/
theorem answered {call : Call σ ω} {output : ω}
    (there : call.before.loader.outputs.lookup call.plugin = some output) :
    call.outcome = .ok output ∧ call.after = call.before ∧ call.moments = [] := by
  have answer : Plugin.use call.library call.plugin call.before = (call.before, .ok output) :=
    Plugin.use_of_loaded there
  have idle : call.runner = none := by
    rw [Call.runner, there]
    rfl
  exact ⟨congrArg Prod.snd answer, congrArg Prod.fst answer, Call.moments_of_no_runner idle⟩

/-- A use that succeeds leaves its output behind. -/
theorem output_of_use {library : List (Plugin σ ω)} {plugin : String} {s : Session σ ω} {output : ω}
    (succeeds : (Plugin.use library plugin s).2 = .ok output) :
    (Plugin.use library plugin s).1.loader.outputs.lookup plugin = some output := by
  rcases there : s.loader.outputs.lookup plugin with - | handed
  · rcases used : Plugin.use library plugin s with ⟨t, outcome⟩
    rw [used] at succeeds
    obtain rfl : outcome = .ok output := succeeds
    obtain ⟨p, u, -, -, left⟩ := Plugin.use_ok used there
    rw [left, List.lookup_cons_self]
  · have answer : Plugin.use library plugin s = (s, .ok handed) := Plugin.use_of_loaded there
    rw [answer] at succeeds ⊢
    rw [there, Except.ok.inj succeeds]

/-- **Effects enter once.**  Take any run of operations, whatever plugins use
each other and whichever errors they pass on or ignore.  Its history has no
moment twice, and the log tells it.  If a plugin starts twice, then between
the two starts a use has failed and been undone that led to the first.  And
once a use from outside has succeeded, its output is there at every later
time, at the ends of operations and all along every use that they lead to;
each use of the plugin among these answers with the same output, runs nothing
and leaves the session as it is. -/
theorem effects_enter_once (library : List (Plugin σ ω)) (s : Session σ ω)
    (operations : List Operation) :
    let history := moments library s operations
    let t := performAll library s operations
    (history.Nodup ∧ ∃ events, t.log = s.log ++ events ∧
        events.filter Event.ofPlugin = history.filterMap Moment.event?) ∧
      (∀ first second : Call σ ω, [.starts first, .starts second] <+ history →
        first.plugin = second.plugin → ∃ failed : Call σ ω, failed.Undoes first ∧
          [.starts first, .ends failed, .starts second] <+ history) ∧
      ∀ plugin output, (Plugin.use library plugin t).2 = .ok output → ∀ later,
        let u := perform library t (.use plugin)
        (performAll library u later).loader.outputs.lookup plugin = some output ∧
          ∀ outer ∈ calls library u later, ∀ call, outer.LeadsTo call →
            (∀ v ∈ call.passes, v.loader.outputs.lookup plugin = some output) ∧
              (call.plugin = plugin →
                call.outcome = .ok output ∧ call.after = call.before ∧ call.moments = []) := by
  intro history t
  have stretch := Session.stretch library s operations
  refine ⟨⟨stretch.distinct, stretch.reported⟩, stretch.once, ?_⟩
  intro plugin output succeeds later u
  have there : u.loader.outputs.lookup plugin = some output := output_of_use succeeds
  refine ⟨(Session.stretch library u later).keeps plugin output there, ?_⟩
  intro outer listed call leads
  have began := calls_keep (perform_keeps_output library) later there outer listed
  have along : ∀ v ∈ call.passes, v.loader.outputs.lookup plugin = some output :=
    Call.pass_of_leadsTo (keeps_output plugin output) (fun _ _ h => h)
      (fun library other s => use_keeps_output library other s) began leads
  refine ⟨along, ?_⟩
  rintro rfl
  exact answered (along call.before call.before_mem_passes)

/-- A plugin that declares points and hands over how many coordinates they
have. -/
def points : Plugin Unit Nat :=
  ⟨"points", .define "Point" (.declare "Point" (.field (.required "x" .number)) fun _ =>
    .declare "Point" (.field (.required "y" .number)) fun _ => .finish (.ok 2))⟩

/-- A plugin that uses the points and then fails. -/
def torn : Plugin Unit Nat :=
  ⟨"torn", .use "points" fun _ => .define "Torn" (.declare "Torn" (.supertypes ["Torn"]) fun r =>
    .finish (r.map fun _ => 0))⟩

/-- A plugin that puts circles above the points it uses. -/
def circles : Plugin Unit Nat :=
  ⟨"circles", .use "points" fun r => .define "Circle" (.declare "Circle"
    (.field (.required "centre" (.kind "Point"))) fun _ => .finish r)⟩

/-- The plugins of the drawing. -/
def drawing : List (Plugin Unit Nat) := [points, torn, circles]

/-- Points start within a use that fails, and again when they are used
directly.  Between the two starts the failed use has been undone.  Circles,
which use the points later, find them there. -/
theorem points_enter_once :
    let s : Session Unit Nat := ⟨.empty, (), []⟩
    let history := moments drawing s [.use "torn", .use "points"]
    let u := performAll drawing s [.use "torn", .use "points"]
    (∃ first second failed : Call Unit Nat,
        first.plugin = "points" ∧ second.plugin = "points" ∧ failed.Undoes first ∧
          [.starts first, .ends failed, .starts second] <+ history) ∧
      (performAll drawing u [.use "circles"]).loader.outputs =
        [("circles", 2), ("points", 2)] ∧
      ∀ outer ∈ calls drawing u [.use "circles"], ∀ call, outer.LeadsTo call →
        call.plugin = "points" → call.outcome = .ok 2 ∧ call.after = call.before := by
  intro s history u
  obtain ⟨-, once, -⟩ := effects_enter_once drawing s [.use "torn", .use "points"]
  have told : history.map Moment.event? =
      [some (.starting "torn"), some (.starting "points"), none,
        some (.undone "torn" (.declaration "Torn" .ownSupertype)), some (.starting "points"),
        none] := by
    decide +kernel
  have twice : [some (.starting "points"), some (.starting "points")] <+
      history.map Moment.event? := by
    rw [told]
    decide
  obtain ⟨pair, inOrder, twice⟩ := List.sublist_map_iff.mp twice
  obtain ⟨_, rest, rfl, start, twice⟩ := List.map_eq_cons_iff.mp twice.symm
  obtain ⟨_, rest, rfl, restart, twice⟩ := List.map_eq_cons_iff.mp twice
  obtain rfl := List.map_eq_nil_iff.mp twice
  obtain ⟨first, rfl, named⟩ := Moment.exists_starts start
  obtain ⟨second, rfl, renamed⟩ := Moment.exists_starts restart
  obtain ⟨failed, undoes, order⟩ := once first second inOrder (named.trans renamed.symm)
  refine ⟨⟨first, second, failed, named, renamed, undoes, order⟩, by decide +kernel, ?_⟩
  have succeeds : (Plugin.use drawing "points" (performAll drawing s [.use "torn"])).2 = .ok 2 := by
    decide +kernel
  intro outer listed call leads again
  have along := ((effects_enter_once drawing s [.use "torn"]).2.2 "points" 2 succeeds
    [.use "circles"]).2 outer listed call leads
  obtain ⟨answer, unchanged, -⟩ := along.2 again
  exact ⟨answer, unchanged⟩

end Session

end NodeSchema
