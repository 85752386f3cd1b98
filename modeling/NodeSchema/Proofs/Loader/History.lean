import NodeSchema.Proofs.Loader.Operations

/-!
# The history of a run

A use of a plugin may run it, and what runs may use further plugins.  The
history of a run lists when a plugin starts to run and when the use that runs
it ends; uses that are answered without running leave no mark.  Each mark
carries the whole use, so that it also says in which session that began and,
by `Call.LeadsTo`, within which other uses.

* `Call.runner` — the plugin that a use runs, if it runs one;
* `Call.moments`, `Session.moments` — the history of a use and of a run;
* `Program.passes`, `Call.passes` — the sessions that a program and a use go
  through;
* `Call.leadsTo_of_mem_moments` — what happens during a use belongs to it or
  to a use that it leads to;
* `Call.pass_of_leadsTo` — what holds when a use begins, and is kept by every
  request and every use, holds all along the uses that it leads to.
-/

namespace NodeSchema

variable {σ ω α : Type}

namespace Call

/-- The plugin that a use runs.  There is none if its output is there, or if
it is being loaded, or if it does not exist. -/
def runner (call : Call σ ω) : Option (Plugin σ ω) :=
  if (call.before.loader.outputs.lookup call.plugin).isSome ||
      call.before.loader.loading.contains call.plugin then none
  else call.library.find? (·.name == call.plugin)

/-- The plugins that can be used while the plugin of a use runs. -/
abbrev others (call : Call σ ω) : List (Plugin σ ω) := Plugin.others call.library call.plugin

/-- How the program of a plugin ends when a use runs it. -/
def body (call : Call σ ω) (p : Plugin σ ω) : Session σ ω × Except Error ω :=
  p.body.run (Plugin.use call.others) (call.before.enter call.plugin)

variable {call inner : Call σ ω} {p : Plugin σ ω}

/-- What is known of a use that runs a plugin. -/
theorem runner_eq_some (h : call.runner = some p) :
    call.before.loader.outputs.lookup call.plugin = none ∧
      call.plugin ∉ call.before.loader.loading ∧
      call.library.find? (·.name == call.plugin) = some p := by
  unfold runner at h
  split at h
  · cases h
  · next free =>
    rw [Bool.or_eq_true, not_or, Option.not_isSome_iff_eq_none, List.contains_iff_mem] at free
    exact ⟨free.1, free.2, h⟩

/-- A use that runs a plugin: the plugin leaves the stack and settles. -/
theorem use_of_runner (h : call.runner = some p) :
    Plugin.use call.library call.plugin call.before =
      (call.body p).1.leave.settle call.before.loader call.plugin (call.body p).2 := by
  obtain ⟨absent, idle, found⟩ := runner_eq_some h
  have free : call.before.loader.loading.contains call.plugin = false := by simpa using idle
  rw [Plugin.use, absent]
  dsimp only
  rw [if_neg (by rw [free]; exact Bool.false_ne_true)]
  split
  · next unknown =>
    rw [found] at unknown
    cases unknown
  · next p' found' =>
    obtain rfl : p = p' := Option.some.inj (found.symm.trans found')
    rfl

theorem after_of_runner (h : call.runner = some p) :
    call.after =
      ((call.body p).1.leave.settle call.before.loader call.plugin (call.body p).2).1 :=
  congrArg Prod.fst (use_of_runner h)

theorem outcome_of_runner (h : call.runner = some p) :
    call.outcome =
      ((call.body p).1.leave.settle call.before.loader call.plugin (call.body p).2).2 :=
  congrArg Prod.snd (use_of_runner h)

/-- A use that runs nothing changes nothing. -/
theorem after_of_no_runner (h : call.runner = none) : call.after = call.before := by
  unfold runner at h
  unfold after
  fun_cases Plugin.use call.library call.plugin call.before with
  | case1 output cached => rfl
  | case2 absent busy => rfl
  | case3 absent idle unknown => rfl
  | case4 absent idle p found r =>
    have free : call.before.loader.loading.contains call.plugin = false := by simpa using idle
    rw [absent, free, found] at h
    cases h

/-- The uses that a use makes are made by the plugin that it runs. -/
theorem nested_eq (call : Call σ ω) :
    call.nested =
      match call.runner with
      | none => []
      | some p =>
        (p.body.uses (Plugin.use call.others) (call.before.enter call.plugin)).map
          fun entry => ⟨call.others, entry.1, entry.2⟩ := by
  unfold nested runner
  split <;> rfl

theorem nested_of_runner (h : call.runner = some p) :
    call.nested =
      (p.body.uses (Plugin.use call.others) (call.before.enter call.plugin)).map
        fun entry => ⟨call.others, entry.1, entry.2⟩ := by
  rw [nested_eq, h]

/-- A use that makes another runs a plugin. -/
theorem exists_runner (made : inner ∈ call.nested) : ∃ p, call.runner = some p := by
  rw [nested_eq] at made
  rcases ran : call.runner with - | p
  · rw [ran] at made
    cases made
  · exact ⟨p, rfl⟩

/-- A use has fewer plugins to use than the one that makes it. -/
theorem nested_lt (made : inner ∈ call.nested) : inner.library.length < call.library.length := by
  obtain ⟨p, ran⟩ := exists_runner made
  rw [nested_of_runner ran] at made
  obtain ⟨entry, -, rfl⟩ := List.mem_map.mp made
  exact Plugin.others_lt (runner_eq_some ran).2.2

end Call

/-- What happens in a run: a plugin starts to run, or the use that ran it
ends. -/
inductive Moment (σ ω : Type) where
  | starts (call : Call σ ω)
  | ends (call : Call σ ω)

/-- The use that a moment belongs to. -/
def Moment.call : Moment σ ω → Call σ ω
  | starts call | ends call => call

/-- The moments of a use, in order: if it runs a plugin, those of the uses
that this makes, between its own. -/
def Call.moments (call : Call σ ω) : List (Moment σ ω) :=
  if call.runner.isSome then
    .starts call :: (call.nested.attach.flatMap fun ⟨inner, _⟩ => inner.moments) ++ [.ends call]
  else []
termination_by call.library.length
decreasing_by exact Call.nested_lt ‹_›

namespace Session

/-- The uses of plugins among operations, each with the session at its
start. -/
def calls (library : List (Plugin σ ω)) (s : Session σ ω) : List Operation → List (Call σ ω)
  | [] => []
  | .request request :: rest => calls library (perform library s (.request request)) rest
  | .use plugin :: rest =>
    ⟨library, plugin, s⟩ :: calls library (perform library s (.use plugin)) rest

/-- What holds at the beginning of a run, and is kept by every operation, holds
where each use from outside begins. -/
theorem calls_keep {kept : Session σ ω → Prop} {library : List (Plugin σ ω)}
    (performs : ∀ operation s, kept s → kept (perform library s operation))
    (operations : List Operation) {s : Session σ ω} (h : kept s) :
    ∀ call ∈ calls library s operations, kept call.before := by
  induction operations generalizing s with
  | nil =>
    intro call listed
    cases listed
  | cons operation rest ih =>
    cases operation with
    | request request => exact ih (performs _ s h)
    | use plugin => exact List.forall_mem_cons.mpr ⟨h, ih (performs _ s h)⟩

/-- The moments of a run, in order. -/
def moments (library : List (Plugin σ ω)) (s : Session σ ω) (operations : List Operation) :
    List (Moment σ ω) :=
  (calls library s operations).flatMap Call.moments

end Session

namespace Call

variable {call inner : Call σ ω} {p : Plugin σ ω}

theorem moments_of_runner (h : call.runner = some p) :
    call.moments = .starts call :: call.nested.flatMap moments ++ [.ends call] := by
  have within : (call.nested.attach.flatMap fun ⟨inner, _⟩ => inner.moments) =
      call.nested.flatMap moments := by
    rw [List.flatMap_subtype fun inner _ => rfl, List.unattach_attach]
  rw [moments, h, within]
  rfl

theorem moments_of_no_runner (h : call.runner = none) : call.moments = [] := by
  rw [moments, h]
  rfl

/-- What happens during a use belongs to it or to a use that it leads to. -/
theorem leadsTo_of_mem_moments (call : Call σ ω) :
    ∀ moment ∈ call.moments, call.LeadsTo moment.call := by
  fun_induction moments call with
  | case1 call runs ih =>
    intro moment listed
    rw [List.cons_append, List.mem_cons, List.mem_append, List.mem_singleton, List.mem_flatMap] at listed
    rcases listed with rfl | ⟨⟨inner, made⟩, -, within⟩ | rfl
    · exact .refl
    · exact (ih inner made moment within).head made
    · exact .refl
  | case2 call idle =>
    intro moment listed
    cases listed

end Call

/-- The sessions that a program goes through: the one in which it makes each
request, and the one in which it ends. -/
def Program.passes (useWith : String → Session σ ω → Session σ ω × Except Error ω) :
    Program σ ω α → Session σ ω → List (Session σ ω)
  | finish _, s => [s]
  | define kind next, s => s :: next.passes useWith (s.define kind)
  | declare kind declaration next, s =>
    let r := s.declare kind declaration
    s :: (next r.2).passes useWith r.1
  | finalize kind next, s =>
    let r := s.finalize kind
    s :: (next r.2).passes useWith r.1
  | audit next, s =>
    let r := s.audit
    s :: (next r.2).passes useWith r.1
  | inspect next, s => s :: (next s.loader).passes useWith s
  | use plugin next, s =>
    let r := useWith plugin s
    s :: (next r.2).passes useWith r.1
  | note change next, s =>
    s :: (next (change s.notes)).passes useWith { s with notes := change s.notes }

/-- The sessions that a use goes through: the one in which it begins, those
of the plugin that it runs, if it runs one, and the one in which it ends. -/
def Call.passes (call : Call σ ω) : List (Session σ ω) :=
  match call.runner with
  | none => [call.before]
  | some p =>
    call.before ::
      p.body.passes (Plugin.use call.others) (call.before.enter call.plugin) ++ [call.after]

section Passes

variable {useWith : String → Session σ ω → Session σ ω × Except Error ω} {s : Session σ ω}
  {kept : Session σ ω → Prop}

/-- A program goes through the session in which it makes a use. -/
theorem Program.passes_of_uses (p : Program σ ω α) {entry : String × Session σ ω}
    (made : entry ∈ p.uses useWith s) : entry.2 ∈ p.passes useWith s := by
  induction p generalizing s with
  | finish answer => cases made
  | define kind next ih => exact List.mem_cons_of_mem s (ih made)
  | declare kind declaration next ih => exact List.mem_cons_of_mem s (ih _ made)
  | finalize kind next ih => exact List.mem_cons_of_mem s (ih _ made)
  | audit next ih => exact List.mem_cons_of_mem s (ih _ made)
  | inspect next ih => exact List.mem_cons_of_mem s (ih _ made)
  | use plugin next ih =>
    rcases List.mem_cons.mp made with rfl | later
    · exact List.mem_cons_self
    · exact List.mem_cons_of_mem s (ih _ later)
  | note change next ih => exact List.mem_cons_of_mem s (ih _ made)

/-- What every request keeps, and every use, holds all along a program. -/
theorem Program.passes_keep (keeps : Session.Keeps kept)
    (uses : ∀ plugin s, kept s → kept (useWith plugin s).1) (p : Program σ ω α) (h : kept s) :
    ∀ t ∈ p.passes useWith s, kept t := by
  induction p generalizing s with
  | finish answer => exact List.forall_mem_singleton.mpr h
  | define kind next ih => exact List.forall_mem_cons.mpr ⟨h, ih (keeps.define kind h)⟩
  | declare kind declaration next ih =>
    exact List.forall_mem_cons.mpr ⟨h, ih _ (keeps.declare kind declaration h)⟩
  | finalize kind next ih => exact List.forall_mem_cons.mpr ⟨h, ih _ (keeps.finalize kind h)⟩
  | audit next ih => exact List.forall_mem_cons.mpr ⟨h, ih _ (keeps.audit h)⟩
  | inspect next ih => exact List.forall_mem_cons.mpr ⟨h, ih _ h⟩
  | use plugin next ih => exact List.forall_mem_cons.mpr ⟨h, ih _ (uses plugin s h)⟩
  | note change next ih => exact List.forall_mem_cons.mpr ⟨h, ih _ (keeps.note change h)⟩

namespace Call

variable {call inner : Call σ ω}

/-- What every request keeps, every use, and every start of a plugin, holds
all along a use. -/
theorem passes_keep (keeps : Session.Keeps kept)
    (enters : ∀ plugin s, kept s → kept (s.enter plugin))
    (uses : ∀ library plugin s, kept s → kept (Plugin.use library plugin s).1)
    (h : kept call.before) : ∀ t ∈ call.passes, kept t := by
  have ended : kept call.after := uses call.library call.plugin call.before h
  unfold passes
  split
  · exact List.forall_mem_singleton.mpr h
  · next p ran =>
    intro t listed
    rw [List.cons_append, List.mem_cons, List.mem_append, List.mem_singleton] at listed
    rcases listed with rfl | within | rfl
    · exact h
    · exact Program.passes_keep keeps (uses call.others) p.body (enters call.plugin _ h) t within
    · exact ended

theorem before_mem_passes (call : Call σ ω) : call.before ∈ call.passes := by
  unfold passes
  split <;> exact List.mem_cons_self

/-- A use goes through the sessions in which the uses that it makes begin. -/
theorem nested_mem_passes (made : inner ∈ call.nested) : inner.before ∈ call.passes := by
  obtain ⟨p, ran⟩ := exists_runner made
  rw [nested_of_runner ran] at made
  obtain ⟨entry, listed, rfl⟩ := List.mem_map.mp made
  have within := Program.passes_of_uses p.body listed
  rw [passes, ran]
  exact List.mem_cons_of_mem _ (List.mem_append_left _ within)

/-- **All along.**  What holds when a use begins, and is kept by every
request, every use and every start of a plugin, holds in all sessions that
the uses go through to which it leads. -/
theorem pass_of_leadsTo (keeps : Session.Keeps kept)
    (enters : ∀ plugin s, kept s → kept (s.enter plugin))
    (uses : ∀ library plugin s, kept s → kept (Plugin.use library plugin s).1)
    (h : kept call.before) (leads : call.LeadsTo inner) : ∀ t ∈ inner.passes, kept t := by
  have began : kept inner.before := by
    induction leads with
    | refl => exact h
    | tail _ made ih => exact passes_keep keeps enters uses ih _ (nested_mem_passes made)
  exact passes_keep keeps enters uses began

end Call

end Passes

end NodeSchema
