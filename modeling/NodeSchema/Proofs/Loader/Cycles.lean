import Mathlib.Data.List.Perm.Subperm
import NodeSchema.Proofs.Loader.History

/-!
# Every cycle is caught

Plugins may use each other in any way, also in cycles, and may use a plugin
again after it has failed.  `Plugin.use` sets a plugin aside while it runs.
Here plugins call each other with nothing set aside, down to a limit of how
deeply they may be nested: the stack alone keeps a cycle from being entered,
and the limit is never reached.

* `Plugin.useWithin` — uses that keep the whole library at hand;
* `Plugin.useWithin_eq_some` — they come to an end as soon as the limit is
  the number of plugins that are not being loaded;
* `Plugin.use_waiting` — so it makes no difference what is set aside;
* `Call.nests` — what stands on the stack when a use within another begins;
* `Call.cycles_are_caught` — so every use ends, and a use of a plugin that is
  being loaded is refused.
-/

namespace NodeSchema

variable {σ ω α : Type}

/-- Carries out the requests of a program as `Program.run` does, when uses of
plugins may come to no end. -/
def Program.runWithin
    (useWith : String → Session σ ω → Option (Session σ ω × Except Error ω)) :
    Program σ ω α → Session σ ω → Option (Session σ ω × α)
  | finish answer, s => some (s, answer)
  | define kind next, s => next.runWithin useWith (s.define kind)
  | declare kind declaration next, s =>
    let r := s.declare kind declaration
    (next r.2).runWithin useWith r.1
  | finalize kind next, s =>
    let r := s.finalize kind
    (next r.2).runWithin useWith r.1
  | audit next, s =>
    let r := s.audit
    (next r.2).runWithin useWith r.1
  | inspect next, s => (next s.loader).runWithin useWith s
  | use plugin next, s => do
    let r ← useWith plugin s
    (next r.2).runWithin useWith r.1
  | note change next, s =>
    (next (change s.notes)).runWithin useWith { s with notes := change s.notes }

/-- If all uses come to an end that a program can make, so does the program.
`kept` is what is known of the sessions in which it makes them. -/
theorem Program.runWithin_eq_some {kept : Session σ ω → Prop} (keeps : Session.Keeps kept)
    {useWithin : String → Session σ ω → Option (Session σ ω × Except Error ω)}
    {useWith : String → Session σ ω → Session σ ω × Except Error ω}
    (ends : ∀ plugin s, kept s → useWithin plugin s = some (useWith plugin s))
    (uses : ∀ plugin s, kept s → kept (useWith plugin s).1)
    (program : Program σ ω α) {s : Session σ ω} (h : kept s) :
    program.runWithin useWithin s = some (program.run useWith s) := by
  induction program generalizing s with
  | finish answer => rfl
  | define kind next ih => exact ih (keeps.define kind h)
  | declare kind declaration next ih => exact ih _ (keeps.declare kind declaration h)
  | finalize kind next ih => exact ih _ (keeps.finalize kind h)
  | audit next ih => exact ih _ (keeps.audit h)
  | inspect next ih => exact ih _ h
  | use plugin next ih =>
    rw [runWithin, ends plugin s h]
    exact ih _ (uses plugin s h)
  | note change next ih => exact ih _ (keeps.note change h)

namespace Plugin

/-- Uses the plugin called `name` as `Plugin.use` does, with the whole
library at hand while it runs.  There is no answer if plugins are nested more
deeply than the limit. -/
def useWithin (library : List (Plugin σ ω)) (limit : Nat) (name : String) (s : Session σ ω) :
    Option (Session σ ω × Except Error ω) :=
  match s.loader.outputs.lookup name with
  | some output => some (s, .ok output)
  | none =>
    if s.loader.loading.contains name then some (s, .error (.plugin name .usesItself))
    else
      match library.find? (·.name == name), limit with
      | none, _ => some (s, .error (.plugin name .unknown))
      | some _, 0 => none
      | some p, limit + 1 => do
        let r ← p.body.runWithin (useWithin library limit) (s.enter name)
        return r.1.leave.settle s.loader name r.2

/-- The plugins that are not on a stack. -/
def waiting (library : List (Plugin σ ω)) (stack : List String) : List (Plugin σ ω) :=
  library.filter fun p => p.name ∉ stack

variable {library : List (Plugin σ ω)} {stack : List String} {name : String} {p : Plugin σ ω}
  {s : Session σ ω}

/-- A use of a plugin that is being loaded and has not handed anything over
fails. -/
theorem use_of_busy (loading : name ∈ s.loader.loading)
    (absent : s.loader.outputs.lookup name = none) :
    use library name s = (s, .error (.plugin name .usesItself)) := by
  rw [use, absent]
  dsimp only
  rw [if_pos (List.contains_iff_mem.mpr loading)]

/-- A use of a plugin that does not exist fails. -/
theorem use_of_unknown (idle : name ∉ s.loader.loading)
    (absent : s.loader.outputs.lookup name = none)
    (unknown : library.find? (·.name == name) = none) :
    use library name s = (s, .error (.plugin name .unknown)) := by
  rw [use, absent]
  dsimp only
  rw [if_neg fun busy => idle (List.contains_iff_mem.mp busy)]
  split
  · rfl
  · next p found =>
    rw [unknown] at found
    cases found

theorem waiting_nil (library : List (Plugin σ ω)) : waiting library [] = library := by
  simp [waiting]

theorem others_waiting (library : List (Plugin σ ω)) (stack : List String) (name : String) :
    others (waiting library stack) name = waiting library (name :: stack) := by
  simp [others, waiting, List.filter_filter]

theorem find?_waiting (free : name ∉ stack) :
    (waiting library stack).find? (·.name == name) = library.find? (·.name == name) := by
  rw [waiting, List.find?_filter]
  congr 1
  funext p
  by_cases named : p.name = name
  · simp [named, free]
  · simp [named]

/-- Fewer plugins wait while another is being loaded. -/
theorem waiting_lt (free : name ∉ stack) (found : library.find? (·.name == name) = some p) :
    (waiting library (name :: stack)).length < (waiting library stack).length := by
  rw [← others_waiting]
  exact others_lt ((find?_waiting free).trans found)

/-- **The limit is not reached.**  It is enough that as many uses may be
nested as plugins are not being loaded.  Any of those on the stack may be set
aside. -/
theorem useWithin_eq_some {limit : Nat} {aside : List String} (name : String) (s : Session σ ω)
    (within : aside ⊆ s.loader.loading)
    (enough : (waiting library s.loader.loading).length ≤ limit) :
    useWithin library limit name s = some (use (waiting library aside) name s) := by
  induction limit using Nat.strongRecOn generalizing s aside name with
  | _ limit ih =>
    unfold useWithin
    fun_cases use (waiting library aside) name s with
    | case1 output cached => rw [cached]
    | case2 absent busy =>
      rw [absent]
      dsimp only
      rw [if_pos busy]
    | case3 absent idle unknown =>
      have free : name ∉ s.loader.loading := by simpa using idle
      rw [find?_waiting fun aside => free (within aside)] at unknown
      rw [absent, unknown]
      dsimp only
      rw [if_neg idle]
    | case4 absent idle p found r =>
      have free : name ∉ s.loader.loading := by simpa using idle
      rw [find?_waiting fun aside => free (within aside)] at found
      have fewer := waiting_lt free found
      obtain ⟨limit, rfl⟩ : ∃ fewer, limit = fewer + 1 := ⟨limit - 1, by omega⟩
      -- one more plugin is on the stack, and one more is set aside
      have ran : p.body.runWithin (useWithin library limit) (s.enter name) = some r := by
        refine Program.runWithin_eq_some (Session.keeps_loading (name :: s.loader.loading))
          (fun other t on => ?_) (fun other t on => ?_) p.body rfl
        · rw [others_waiting]
          exact ih limit limit.lt_succ_self other t
            (on ▸ List.cons_subset_cons name within) (by rw [on]; omega)
        · rw [use_loading, on]
      rw [absent, found]
      dsimp only
      rw [if_neg idle, ran]
      rfl

/-- So it makes no difference whether plugins that are being loaded are set
aside. -/
theorem use_waiting {aside : List String} (name : String) (s : Session σ ω)
    (within : aside ⊆ s.loader.loading) :
    use (waiting library aside) name s = use library name s := by
  have apart := @useWithin_eq_some _ _ library _ _ name s within (Nat.le_refl _)
  have whole := @useWithin_eq_some _ _ library _ _ name s (List.nil_subset _) (Nat.le_refl _)
  rw [waiting_nil] at whole
  exact Option.some.inj (apart.symm.trans whole)

end Plugin

namespace Call

variable {call inner : Call σ ω}

/-- What may stand on the stack above what stood there when a use began:
plugins of its library, none of them twice. -/
structure Stacks (call : Call σ ω) (running : List String) : Prop where
  distinct : (running ++ call.before.loader.loading).Nodup
  known : running ⊆ call.library.map (·.name)

/-- There are at most as many as there are plugins. -/
theorem Stacks.length_le {running : List String} (stacked : call.Stacks running) :
    running.length ≤ call.library.length := by
  have distinct : running.Nodup := (List.nodup_append.mp stacked.distinct).1
  calc running.length
      ≤ (call.library.map (·.name)).length := (List.Nodup.subperm distinct stacked.known).length_le
    _ = call.library.length := List.length_map _

/-- A use within that runs a plugin puts it on the stack. -/
theorem Stacks.push {running : List String} {p : Plugin σ ω} (stacked : call.Stacks running)
    (stack : inner.before.loader.loading = running ++ call.before.loader.loading)
    (rest : inner.library = Plugin.waiting call.library running) (ran : inner.runner = some p) :
    call.Stacks (inner.plugin :: running) := by
  obtain ⟨-, idle, found⟩ := runner_eq_some ran
  have named : p.name = inner.plugin := by simpa using List.find?_some found
  have waits : p ∈ Plugin.waiting call.library running := rest ▸ List.mem_of_find?_eq_some found
  rw [stack] at idle
  refine ⟨List.nodup_cons.mpr ⟨idle, stacked.distinct⟩, ?_⟩
  exact List.cons_subset.mpr
    ⟨named ▸ List.mem_map_of_mem (List.mem_of_mem_filter waits), stacked.known⟩

/-- While a plugin runs, it is on top of the stack. -/
theorem loading_of_body (call : Call σ ω) (p : Plugin σ ω) :
    ∀ t ∈ p.body.passes (Plugin.use call.others) (call.before.enter call.plugin),
      t.loader.loading = call.plugin :: call.before.loader.loading :=
  Program.passes_keep (Session.keeps_loading _)
    (fun plugin t on => (Plugin.use_loading call.others plugin t).trans on) p.body rfl

/-- The uses that a use makes begin with its plugin on the stack. -/
theorem loading_of_nested (made : inner ∈ call.nested) :
    inner.before.loader.loading = call.plugin :: call.before.loader.loading := by
  obtain ⟨p, ran⟩ := exists_runner made
  rw [nested_of_runner ran] at made
  obtain ⟨entry, listed, rfl⟩ := List.mem_map.mp made
  exact call.loading_of_body p entry.2 (Program.passes_of_uses p.body listed)

/-- **The stack of a use within another.**  What it has gained is exactly
what has been set aside. -/
theorem nests (distinct : call.before.loader.loading.Nodup) (leads : call.LeadsTo inner) :
    ∃ running, call.Stacks running ∧
      inner.before.loader.loading = running ++ call.before.loader.loading ∧
      inner.library = Plugin.waiting call.library running := by
  induction leads with
  | refl =>
    exact ⟨[], ⟨distinct, List.nil_subset _⟩, rfl, (Plugin.waiting_nil _).symm⟩
  | @tail outer inner _ made ih =>
    obtain ⟨running, stacked, stack, rest⟩ := ih
    obtain ⟨p, ran⟩ := exists_runner made
    refine ⟨outer.plugin :: running, stacked.push stack rest ran, ?_, ?_⟩
    · rw [loading_of_nested made, stack, List.cons_append]
    · rw [nested_of_runner ran] at made
      obtain ⟨entry, -, rfl⟩ := List.mem_map.mp made
      rw [others, rest, Plugin.others_waiting]

/-- The stack all along a use within another. -/
theorem stack_of_pass (distinct : call.before.loader.loading.Nodup) (leads : call.LeadsTo inner)
    {t : Session σ ω} (passed : t ∈ inner.passes) :
    ∃ running, call.Stacks running ∧
      t.loader.loading = running ++ call.before.loader.loading := by
  obtain ⟨running, stacked, stack, rest⟩ := nests distinct leads
  unfold passes at passed
  split at passed
  · obtain rfl := List.mem_singleton.mp passed
    exact ⟨running, stacked, stack⟩
  · next p ran =>
    rw [List.cons_append, List.mem_cons, List.mem_append, List.mem_singleton] at passed
    rcases passed with rfl | within | rfl
    · exact ⟨running, stacked, stack⟩
    · have top := inner.loading_of_body p t within
      rw [stack] at top
      exact ⟨inner.plugin :: running, stacked.push stack rest ran, top⟩
    · exact ⟨running, stacked, (Plugin.use_loading _ _ _).trans stack⟩

/-- A use of a plugin that is being loaded and has not handed anything over
is refused. -/
theorem refused (loading : call.plugin ∈ call.before.loader.loading)
    (absent : call.before.loader.outputs.lookup call.plugin = none) :
    call.outcome = .error (.plugin call.plugin .usesItself) ∧ call.after = call.before ∧
      call.moments = [] := by
  have answer : Plugin.use call.library call.plugin call.before =
      (call.before, .error (.plugin call.plugin .usesItself)) :=
    Plugin.use_of_busy loading absent
  have idle : call.runner = none := by
    rw [runner, if_pos (by simp [loading])]
  exact ⟨congrArg Prod.snd answer, congrArg Prod.fst answer, moments_of_no_runner idle⟩

/-- **Every cycle is caught.**  Whatever the plugins do, and however they use
each other: a use comes to an end when as many may be nested as there are
plugins, with the whole library at hand, and so does each use that it leads
to.  No plugin is on the stack twice at any time, and there are at most as
many more on it as there are plugins.  A use of a plugin that is being loaded
and has not handed anything over is refused, and nothing runs for it.  Each
use leaves the stack as it found it, whichever way it ends. -/
theorem cycles_are_caught (call : Call σ ω) (distinct : call.before.loader.loading.Nodup) :
    (∀ limit, call.library.length ≤ limit →
      Plugin.useWithin call.library limit call.plugin call.before =
        some (call.after, call.outcome)) ∧
      ∀ inner, call.LeadsTo inner →
        Plugin.useWithin call.library call.library.length inner.plugin inner.before =
            some (inner.after, inner.outcome) ∧
          (∀ t ∈ inner.passes, t.loader.loading.Nodup ∧
            ∃ running, t.loader.loading = running ++ call.before.loader.loading ∧
              running.length ≤ call.library.length) ∧
          (inner.plugin ∈ inner.before.loader.loading →
            inner.before.loader.outputs.lookup inner.plugin = none →
              inner.outcome = .error (.plugin inner.plugin .usesItself) ∧
                inner.after = inner.before ∧ inner.moments = []) ∧
          inner.after.loader.loading = inner.before.loader.loading := by
  have enough : ∀ stack, (Plugin.waiting call.library stack).length ≤ call.library.length :=
    fun stack => List.length_filter_le _ _
  refine ⟨fun limit most => ?_, fun inner leads => ⟨?_, fun t passed => ?_, refused, ?_⟩⟩
  · have ends := Plugin.useWithin_eq_some call.plugin call.before (List.nil_subset _)
      (Nat.le_trans (enough call.before.loader.loading) most)
    rwa [Plugin.waiting_nil] at ends
  · obtain ⟨running, -, stack, rest⟩ := nests distinct leads
    have aside : running ⊆ inner.before.loader.loading :=
      stack ▸ List.subset_append_left running _
    have ends := Plugin.useWithin_eq_some inner.plugin inner.before aside
      (enough inner.before.loader.loading)
    rwa [← rest] at ends
  · obtain ⟨running, stacked, stack⟩ := stack_of_pass distinct leads passed
    exact ⟨stack ▸ stacked.distinct, running, stack, stacked.length_le⟩
  · exact Plugin.use_loading inner.library inner.plugin inner.before

/-- A plugin that uses the hen, and once more if that fails, and goes on
anyway. -/
def egg : Plugin Unit Nat :=
  ⟨"egg", .use "hen" fun
    | .ok output => .finish (.ok output)
    | .error _ => .use "hen" fun _ => .finish (.ok 1)⟩

/-- A plugin that uses the egg and passes its error on. -/
def hen : Plugin Unit Nat := ⟨"hen", .use "egg" .finish⟩

/-- Starts from the egg. -/
def eggCall : Call Unit Nat := ⟨[egg, hen], "egg", ⟨.empty, (), []⟩⟩

/-- The egg uses the hen for the first time. -/
def henCall : Call Unit Nat := ⟨[hen], "hen", eggCall.before.enter "egg"⟩

/-- The hen uses the egg. -/
def eggWithin : Call Unit Nat := ⟨[], "egg", henCall.before.enter "hen"⟩

/-- The hen fails twice because the egg is being loaded, and the egg succeeds
in the end.  Two plugins are nested, and there is no third. -/
theorem egg_is_caught :
    eggCall.before.loader.loading.Nodup ∧
      Plugin.useWithin [egg, hen] 1 "egg" eggCall.before = none ∧
      Plugin.useWithin [egg, hen] 2 "egg" eggCall.before = some (eggCall.after, .ok 1) ∧
      eggCall.LeadsTo eggWithin ∧ eggWithin.before.loader.loading = ["hen", "egg"] ∧
      eggWithin.outcome = .error (.plugin "egg" .usesItself) ∧ eggWithin.moments = [] ∧
      eggCall.after.loader.loading = [] := by
  have distinct : eggCall.before.loader.loading.Nodup := List.nodup_nil
  have succeeds : eggCall.outcome = .ok 1 := by decide +kernel
  have first : henCall ∈ eggCall.nested := List.mem_cons_self
  have back : eggWithin ∈ henCall.nested := List.mem_cons_self
  have leads : eggCall.LeadsTo eggWithin := .tail (.single first) back
  obtain ⟨ends, within⟩ := cycles_are_caught eggCall distinct
  obtain ⟨-, -, refuses, -⟩ := within eggWithin leads
  have loading : eggWithin.before.loader.loading = ["hen", "egg"] := by decide +kernel
  obtain ⟨outcome, -, still⟩ := refuses (by decide +kernel) (by decide +kernel)
  have balanced := (within eggCall .refl).2.2.2
  refine ⟨distinct, by decide +kernel, ?_, leads, loading, outcome, still, balanced⟩
  rw [← succeeds]
  exact ends 2 (by decide)

end Call

end NodeSchema
