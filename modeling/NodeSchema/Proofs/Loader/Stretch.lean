import NodeSchema.Proofs.Loader.History
import NodeSchema.Proofs.Record.Entries

/-!
# Parts of a run

What has to be known of a part of a run, so that the parts before and after
fit together: outputs that were there stay, what starts was neither there nor
being loaded, and what has started either has its output there at the end or
was undone by a use that led to it.  Parts in a row make a part again, and so
does a part between the start of a plugin and the end of the use that runs
it.

* `Call.Undoes` — the failure of a use that led to another;
* `Session.Stretch` — what is known of a part of a run;
* `Stretch.append`, `Stretch.wrap` — the two ways to make a longer one;
* `Program.stretch`, `Call.stretch`, `Session.stretch` — every program, every
  use and every run is one.
-/

namespace NodeSchema

open scoped List

variable {σ ω α : Type}

/-- Whether an event is about a plugin that starts or is undone. -/
def Event.ofPlugin : Event → Bool
  | .starting _ | .undone _ _ => true
  | .created _ | .finalized _ _ | .unused _ => false

/-- Reports about kinds are not about plugins. -/
theorem Event.filter_ofPlugin_map {β : Type} {report : β → Event}
    (other : ∀ b, (report b).ofPlugin = false) (l : List β) :
    (l.map report).filter Event.ofPlugin = [] := by
  rw [List.filter_eq_nil_iff]
  intro event listed
  obtain ⟨b, -, rfl⟩ := List.mem_map.mp listed
  rw [other b]
  exact Bool.false_ne_true

/-- What the log says of a moment: that a plugin starts, or that it is
undone. -/
def Moment.event? : Moment σ ω → Option Event
  | .starts call => some (.starting call.plugin)
  | .ends call =>
    match call.outcome with
    | .ok _ => none
    | .error error => some (.undone call.plugin error)

/-- A use that led to another has failed, and left the loader as it found
it. -/
def Call.Undoes (failed call : Call σ ω) : Prop :=
  failed.LeadsTo call ∧
    ∃ error, failed.outcome = .error error ∧ failed.after.loader = failed.before.loader

/-- Two elements of a list in order, where the list has two parts: both in
the first, or one in each, or both in the second. -/
theorem pair_sublist_append {β : Type} {a b : β} {l l' : List β} (pair : [a, b] <+ l ++ l') :
    [a, b] <+ l ∨ (a ∈ l ∧ b ∈ l') ∨ [a, b] <+ l' := by
  obtain ⟨early, late, split, inFirst, inSecond⟩ := List.sublist_append_iff.mp pair
  rcases early with - | ⟨first, - | ⟨second, rest⟩⟩
  · rw [List.nil_append] at split
    exact .inr (.inr (split ▸ inSecond))
  · rw [List.singleton_append, List.cons.injEq] at split
    obtain ⟨rfl, rfl⟩ := split
    exact .inr (.inl ⟨List.singleton_sublist.mp inFirst, List.singleton_sublist.mp inSecond⟩)
  · rw [List.cons_append, List.cons_append, List.cons.injEq, List.cons.injEq,
      List.nil_eq_append_iff] at split
    obtain ⟨rfl, rfl, rfl, -⟩ := split
    exact .inl inFirst

namespace Session

/-- What is known of the part of a run from `s` to `t` with the given
moments. -/
structure Stretch (s : Session σ ω) (moments : List (Moment σ ω)) (t : Session σ ω) : Prop where
  /-- The stack of plugins that are being loaded is the same at both ends. -/
  loading : t.loader.loading = s.loader.loading
  /-- The log tells the moments in order. -/
  reported : ∃ events, t.log = s.log ++ events ∧
    events.filter Event.ofPlugin = moments.filterMap Moment.event?
  /-- Outputs that were there at the beginning are there at the end. -/
  keeps : ∀ plugin output, s.loader.outputs.lookup plugin = some output →
    t.loader.outputs.lookup plugin = some output
  /-- What starts has no output at the beginning and is not being loaded. -/
  fresh : ∀ call, .starts call ∈ moments →
    s.loader.outputs.lookup call.plugin = none ∧ call.plugin ∉ s.loader.loading
  /-- The uses begin within the part, as the length of the log shows. -/
  clock : ∀ moment ∈ moments,
    s.log.length ≤ moment.call.before.log.length ∧ moment.call.before.log.length < t.log.length
  /-- No moment comes twice. -/
  distinct : moments.Nodup
  /-- What has started has its output at the end, unless it was undone. -/
  lasts : ∀ call, .starts call ∈ moments →
    (∃ failed : Call σ ω, failed.Undoes call ∧ [.starts call, .ends failed] <+ moments) ∨
      ∃ output, t.loader.outputs.lookup call.plugin = some output
  /-- What starts twice was undone in between. -/
  once : ∀ first second : Call σ ω, [.starts first, .starts second] <+ moments →
    first.plugin = second.plugin →
      ∃ failed : Call σ ω, failed.Undoes first ∧
        [.starts first, .ends failed, .starts second] <+ moments

namespace Stretch

variable {s t u : Session σ ω} {moments later : List (Moment σ ω)}

theorem log_le (stretch : s.Stretch moments t) : s.log.length ≤ t.log.length := by
  obtain ⟨events, log, -⟩ := stretch.reported
  rw [log, List.length_append]
  exact Nat.le_add_right _ _

/-- A part in which no plugin starts. -/
theorem still (loading : t.loader.loading = s.loader.loading)
    (outputs : t.loader.outputs = s.loader.outputs)
    (reported : ∃ events, t.log = s.log ++ events ∧ events.filter Event.ofPlugin = []) :
    s.Stretch [] t where
  loading := loading
  reported := reported
  keeps plugin output there := by rw [outputs, there]
  fresh call listed := by cases listed
  clock moment listed := by cases listed
  distinct := List.nodup_nil
  lasts call listed := by cases listed
  once first second pair := by cases pair

/-- A part in which nothing is reported either. -/
theorem silent (loading : t.loader.loading = s.loader.loading)
    (outputs : t.loader.outputs = s.loader.outputs) (log : t.log = s.log) : s.Stretch [] t := by
  apply still loading outputs
  exact ⟨[], by rw [log, List.append_nil], rfl⟩

/-- Of two parts in a row, what has started in the first either was undone
there or does not start in the second. -/
theorem undone_between (before : s.Stretch moments u) (after : u.Stretch later t)
    {first second : Call σ ω} (started : .starts first ∈ moments) (starts : .starts second ∈ later)
    (same : first.plugin = second.plugin) :
    ∃ failed : Call σ ω, failed.Undoes first ∧ [.starts first, .ends failed] <+ moments := by
  rcases before.lasts first started with undone | ⟨output, there⟩
  · exact undone
  · have absent := (after.fresh second starts).1
    rw [← same, there] at absent
    cases absent

/-- **In a row.**  Two parts of a run, one after the other, are one part. -/
theorem append (before : s.Stretch moments u) (after : u.Stretch later t) :
    s.Stretch (moments ++ later) t where
  loading := after.loading.trans before.loading
  reported := by
    obtain ⟨events, log, told⟩ := before.reported
    obtain ⟨events', log', told'⟩ := after.reported
    refine ⟨events ++ events', by rw [log', log, List.append_assoc], ?_⟩
    rw [List.filter_append, List.filterMap_append, told, told']
  keeps plugin output there := after.keeps plugin output (before.keeps plugin output there)
  fresh call listed := by
    rcases List.mem_append.mp listed with early | late
    · exact before.fresh call early
    · obtain ⟨absent, idle⟩ := after.fresh call late
      refine ⟨?_, before.loading ▸ idle⟩
      rcases there : s.loader.outputs.lookup call.plugin with - | output
      · rfl
      · rw [before.keeps call.plugin output there] at absent
        cases absent
  clock moment listed := by
    have first := before.log_le
    have second := after.log_le
    rcases List.mem_append.mp listed with early | late
    · have := before.clock moment early
      omega
    · have := after.clock moment late
      omega
  distinct := by
    refine before.distinct.append after.distinct fun moment early late => ?_
    have := before.clock moment early
    have := after.clock moment late
    omega
  lasts call listed := by
    rcases List.mem_append.mp listed with early | late
    · rcases before.lasts call early with ⟨failed, undoes, order⟩ | ⟨output, there⟩
      · exact .inl ⟨failed, undoes, order.trans (List.sublist_append_left moments later)⟩
      · exact .inr ⟨output, after.keeps call.plugin output there⟩
    · rcases after.lasts call late with ⟨failed, undoes, order⟩ | there
      · exact .inl ⟨failed, undoes, order.trans (List.sublist_append_right moments later)⟩
      · exact .inr there
  once first second pair same := by
    rcases pair_sublist_append pair with early | ⟨started, starts⟩ | late
    · obtain ⟨failed, undoes, order⟩ := before.once first second early same
      exact ⟨failed, undoes, order.trans (List.sublist_append_left moments later)⟩
    · obtain ⟨failed, undoes, order⟩ := before.undone_between after started starts same
      exact ⟨failed, undoes, order.append (List.singleton_sublist.mpr starts)⟩
    · obtain ⟨failed, undoes, order⟩ := after.once first second late same
      exact ⟨failed, undoes, order.trans (List.sublist_append_right moments later)⟩

end Stretch

theorem define_stretch (s : Session σ ω) (kind : String) : s.Stretch [] (s.define kind) := by
  refine .still rfl rfl ⟨_, rfl, ?_⟩
  unfold Schema.define
  split <;> rfl

theorem declare_stretch (s : Session σ ω) (kind : String) (declaration : Declaration) :
    s.Stretch [] (s.declare kind declaration).1 :=
  .silent rfl rfl rfl

theorem finalize_stretch (s : Session σ ω) (kind : String) : s.Stretch [] (s.finalize kind).1 := by
  unfold finalize
  split
  · next schema events finalized =>
    obtain ⟨_, shaped, -, -, -, -, told⟩ := Schema.finalize_ok finalized
    refine .still rfl rfl ⟨events, rfl, ?_⟩
    rw [told]
    exact Event.filter_ofPlugin_map (fun _ => rfl) _
  · exact .silent rfl rfl rfl

theorem audit_stretch (s : Session σ ω) : s.Stretch [] s.audit.1 := by
  obtain ⟨kinds, log⟩ := s.audit_log
  exact .still (by rw [audit_loader]) (by rw [audit_loader])
    ⟨_, log, Event.filter_ofPlugin_map (fun _ => rfl) kinds⟩

theorem close_stretch (s : Session σ ω) : s.Stretch [] s.close.1 := by
  obtain ⟨kinds, log⟩ := s.close_log
  exact .still (by rw [close_loader]) (by rw [close_loader])
    ⟨_, log, Event.filter_ofPlugin_map (fun _ => rfl) kinds⟩

/-- What settling adds to the log: that the plugin is undone, if it is. -/
theorem settle_log (s : Session σ ω) (before : Loader ω) (plugin : String)
    (result : Except Error ω) :
    ∃ events, (s.settle before plugin result).1.log = s.log ++ events ∧
      events.filter Event.ofPlugin =
        match (s.settle before plugin result).2 with
        | .ok _ => []
        | .error error => [.undone plugin error] := by
  cases result with
  | error error =>
    rw [settle_of_error]
    exact ⟨[.undone plugin error], rfl, rfl⟩
  | ok output =>
    obtain ⟨events, log, quiet⟩ := s.close_stretch.reported
    rcases outcome : s.close with ⟨t, error | done⟩
    · rw [outcome] at log
      rw [settle_of_unclosed outcome]
      refine ⟨events ++ [.undone plugin error], ?_, ?_⟩
      · rw [← List.append_assoc, ← log]
        rfl
      · rw [List.filter_append, quiet]
        rfl
    · rw [outcome] at log
      rw [settle_of_closed outcome]
      exact ⟨events, log, quiet⟩

end Session

namespace Call

open Session

variable {call : Call σ ω} {p : Plugin σ ω}

/-- How a use ends that ran a plugin: the loader is what it was, or the output
is kept with those that the plugin left behind. -/
theorem ends_of_runner (ran : call.runner = some p) :
    (∃ error, call.outcome = .error error ∧ call.after.loader = call.before.loader) ∨
      ∃ output, call.outcome = .ok output ∧
        call.after.loader.outputs = (call.plugin, output) :: (call.body p).1.loader.outputs := by
  rcases (call.body p).1.leave.settle_cases call.before.loader call.plugin (call.body p).2 with
    ⟨error, failed, -⟩ | ⟨output, -, passed, kept⟩
  · rw [← outcome_of_runner ran] at failed
    exact .inl ⟨error, failed, Plugin.use_error_loader call.library call.plugin call.before error failed⟩
  · rw [← after_of_runner ran] at kept
    rw [← outcome_of_runner ran] at passed
    exact .inr ⟨output, passed, by rw [kept]; rfl⟩

/-- What a use that ran a plugin adds to the log. -/
theorem log_of_runner (ran : call.runner = some p) :
    ∃ events, call.after.log = (call.body p).1.log ++ events ∧
      events.filter Event.ofPlugin = [.ends call].filterMap Moment.event? := by
  obtain ⟨events, log, told⟩ :=
    (call.body p).1.leave.settle_log call.before.loader call.plugin (call.body p).2
  rw [← after_of_runner ran] at log
  rw [← outcome_of_runner ran] at told
  refine ⟨events, log, told.trans ?_⟩
  rcases ended : call.outcome with error | output <;> simp [Moment.event?, ended]

end Call

namespace Session.Stretch

section Wrap

variable {call : Call σ ω} {p : Plugin σ ω} {inside : List (Moment σ ω)}

theorem mem_wrapped {moment : Moment σ ω} :
    moment ∈ Moment.starts call :: inside ++ [Moment.ends call] ↔
      moment = .starts call ∨ moment ∈ inside ∨ moment = .ends call := by
  rw [List.cons_append, List.mem_cons, List.mem_append, List.mem_singleton]

theorem inside_sublist : inside <+ Moment.starts call :: inside ++ [Moment.ends call] :=
  (List.sublist_cons_self _ _).trans (List.sublist_append_left _ _)

/-- Everything that happens during a use comes before its end. -/
theorem before_end {moment : Moment σ ω} (listed : moment ∈ .starts call :: inside) :
    [moment, .ends call] <+ Moment.starts call :: inside ++ [.ends call] :=
  (List.singleton_sublist.mpr listed).append (List.Sublist.refl _)

/-- Of two plugins that start during a use, both start within it, or the first
is its own. -/
theorem starts_within {first second : Call σ ω}
    (pair : [.starts first, .starts second] <+ .starts call :: inside ++ [.ends call]) :
    (first = call ∧ .starts second ∈ inside) ∨ [.starts first, .starts second] <+ inside := by
  rcases pair_sublist_append pair with early | ⟨-, last⟩ | last
  · have early : [.starts first, .starts second] <+ [.starts call] ++ inside := early
    rcases pair_sublist_append early with both | ⟨own, later⟩ | within
    · exact absurd both.length_le (Nat.lt_irrefl 1)
    · exact .inl ⟨Moment.starts.inj (List.mem_singleton.mp own), later⟩
    · exact .inr within
  · cases List.mem_singleton.mp last
  · exact absurd last.length_le (Nat.lt_irrefl 1)

variable (ran : call.runner = some p)
  (within : (call.before.enter call.plugin).Stretch inside (call.body p).1)
include ran within

theorem wrap_reported : ∃ events, call.after.log = call.before.log ++ events ∧
    events.filter Event.ofPlugin =
      (Moment.starts call :: inside ++ [Moment.ends call]).filterMap Moment.event? := by
  obtain ⟨events, log, told⟩ := within.reported
  obtain ⟨events', log', told'⟩ := Call.log_of_runner ran
  have entered : (call.before.enter call.plugin).log =
      call.before.log ++ [.starting call.plugin] := rfl
  refine ⟨.starting call.plugin :: events ++ events', ?_, ?_⟩
  · rw [log', log, entered, List.append_assoc, List.append_assoc]
    rfl
  · rw [List.filter_append, List.filterMap_append, told']
    exact congrArg (.starting call.plugin :: · ++ _) told

theorem wrap_keeps (plugin : String) (output : ω)
    (there : call.before.loader.outputs.lookup plugin = some output) :
    call.after.loader.outputs.lookup plugin = some output := by
  rcases Call.ends_of_runner ran with ⟨error, -, back⟩ | ⟨handed, -, kept⟩
  · rw [back, there]
  · have other : plugin ≠ call.plugin := by
      rintro rfl
      rw [(Call.runner_eq_some ran).1] at there
      cases there
    rw [kept, Record.lookup_cons_ite, if_neg other]
    exact within.keeps plugin output there

theorem wrap_fresh (other : Call σ ω)
    (listed : .starts other ∈ .starts call :: inside ++ [.ends call]) :
    call.before.loader.outputs.lookup other.plugin = none ∧
      other.plugin ∉ call.before.loader.loading := by
  rcases mem_wrapped.mp listed with own | listed | last
  · obtain ⟨absent, idle, -⟩ := Call.runner_eq_some ran
    obtain rfl := Moment.starts.inj own
    exact ⟨absent, idle⟩
  · obtain ⟨absent, idle⟩ := within.fresh other listed
    exact ⟨absent, fun under => idle (List.mem_cons_of_mem _ under)⟩
  · cases last

/-- The log is longer at the end of a use that runs a plugin, and what happens
within the use comes after its beginning. -/
theorem wrap_later :
    call.before.log.length < call.after.log.length ∧
      ∀ moment ∈ inside, call.before.log.length < moment.call.before.log.length ∧
        moment.call.before.log.length < call.after.log.length := by
  have entered : (call.before.enter call.plugin).log.length = call.before.log.length + 1 :=
    List.length_append
  have longer := within.log_le
  have left : (call.body p).1.log.length ≤ call.after.log.length := by
    obtain ⟨events, log, -⟩ := Call.log_of_runner ran
    rw [log, List.length_append]
    exact Nat.le_add_right _ _
  refine ⟨by omega, fun moment listed => ?_⟩
  have := within.clock moment listed
  omega

theorem wrap_distinct : (.starts call :: inside ++ [.ends call] : List (Moment σ ω)).Nodup := by
  have outside : ∀ moment ∈ inside, moment.call ≠ call := by
    rintro moment listed rfl
    exact Nat.lt_irrefl _ ((wrap_later ran within).2 moment listed).1
  have start : (.starts call :: inside : List (Moment σ ω)).Nodup :=
    List.nodup_cons.mpr ⟨fun listed => outside _ listed rfl, within.distinct⟩
  refine start.append (List.nodup_singleton _) (List.disjoint_singleton.mpr fun listed => ?_)
  rcases List.mem_cons.mp listed with own | listed
  · cases own
  · exact outside _ listed rfl

/-- What has started by the end of a use has its output there, unless it was
undone within the use or together with it. -/
theorem wrap_lasts (led : ∀ moment ∈ inside, call.LeadsTo moment.call) (other : Call σ ω)
    (listed : .starts other ∈ .starts call :: inside ++ [.ends call]) :
    (∃ failed : Call σ ω, failed.Undoes other ∧
        [.starts other, .ends failed] <+ .starts call :: inside ++ [.ends call]) ∨
      ∃ output, call.after.loader.outputs.lookup other.plugin = some output := by
  have ended := Call.ends_of_runner ran
  rcases mem_wrapped.mp listed with own | listed | last
  · obtain rfl := Moment.starts.inj own
    rcases ended with ⟨error, failed, back⟩ | ⟨handed, -, kept⟩
    · exact .inl ⟨other, ⟨.refl, error, failed, back⟩, before_end List.mem_cons_self⟩
    · exact .inr ⟨handed, by rw [kept, List.lookup_cons_self]⟩
  · rcases within.lasts other listed with ⟨failed, undoes, order⟩ | ⟨output, there⟩
    · exact .inl ⟨failed, undoes, order.trans inside_sublist⟩
    rcases ended with ⟨error, failed, back⟩ | ⟨handed, -, kept⟩
    · exact .inl ⟨call, ⟨led _ listed, error, failed, back⟩,
        before_end (List.mem_cons_of_mem _ listed)⟩
    · refine .inr ?_
      rw [kept, Record.lookup_cons_ite]
      split
      · exact ⟨handed, rfl⟩
      · exact ⟨output, there⟩
  · cases last

/-- **In between.**  A part of a run, between the start of a plugin and the
end of the use that runs it, is a part of a run with both of them. -/
theorem wrap (led : ∀ moment ∈ inside, call.LeadsTo moment.call) :
    call.before.Stretch (.starts call :: inside ++ [.ends call]) call.after where
  loading := Plugin.use_loading call.library call.plugin call.before
  reported := wrap_reported ran within
  keeps := wrap_keeps ran within
  fresh := wrap_fresh ran within
  clock moment listed := by
    obtain ⟨longer, later⟩ := wrap_later ran within
    rcases mem_wrapped.mp listed with rfl | listed | rfl
    · exact ⟨Nat.le_refl _, longer⟩
    · exact ⟨Nat.le_of_lt (later moment listed).1, (later moment listed).2⟩
    · exact ⟨Nat.le_refl _, longer⟩
  distinct := wrap_distinct ran within
  lasts := wrap_lasts ran within led
  once first second pair same := by
    rcases starts_within pair with ⟨rfl, later⟩ | pair
    · -- while a plugin runs it is being loaded, so that it does not start again
      exact absurd (same ▸ List.mem_cons_self) (within.fresh second later).2
    · obtain ⟨failed, undoes, order⟩ := within.once first second pair same
      exact ⟨failed, undoes, order.trans inside_sublist⟩

end Wrap

end Session.Stretch

/-- A program is a part of a run, with the moments of the uses that it
makes, if each of these is. -/
theorem Program.stretch {library : List (Plugin σ ω)}
    (uses : ∀ plugin (s : Session σ ω), s.Stretch (Call.mk library plugin s).moments
      (Plugin.use library plugin s).1) (p : Program σ ω α) (s : Session σ ω) :
    s.Stretch
      (((p.uses (Plugin.use library) s).map fun entry => Call.mk library entry.1 entry.2).flatMap
        Call.moments)
      (p.run (Plugin.use library) s).1 := by
  induction p generalizing s with
  | finish answer => exact .silent rfl rfl rfl
  | define kind next ih => exact (s.define_stretch kind).append (ih _)
  | declare kind declaration next ih =>
    exact (s.declare_stretch kind declaration).append (ih _ _)
  | finalize kind next ih => exact (s.finalize_stretch kind).append (ih _ _)
  | audit next ih => exact s.audit_stretch.append (ih _ _)
  | inspect next ih => exact ih _ s
  | use plugin next ih => exact (uses plugin s).append (ih _ _)
  | note change next ih =>
    have noted : s.Stretch [] { s with notes := change s.notes } :=
      .silent rfl rfl rfl
    exact noted.append (ih _ _)

/-- **The step lemma.**  A use is a part of a run. -/
theorem Call.stretch (call : Call σ ω) : call.before.Stretch call.moments call.after := by
  induction size : call.library.length using Nat.strongRecOn generalizing call with
  | _ bound ih =>
    rcases ran : call.runner with - | p
    · rw [moments_of_no_runner ran, after_of_no_runner ran]
      exact .silent rfl rfl rfl
    · have fewer : call.others.length < bound := size ▸ Plugin.others_lt (runner_eq_some ran).2.2
      have within : (call.before.enter call.plugin).Stretch (call.nested.flatMap moments)
          (call.body p).1 := by
        rw [nested_of_runner ran]
        exact p.body.stretch (fun plugin s => ih _ fewer ⟨call.others, plugin, s⟩ rfl) _
      rw [moments_of_runner ran]
      refine Session.Stretch.wrap ran within fun moment listed => ?_
      apply call.leadsTo_of_mem_moments
      rw [moments_of_runner ran]
      exact Session.Stretch.inside_sublist.subset listed

/-- **The run lemma.**  Operations in a row are a part of a run. -/
theorem Session.stretch (library : List (Plugin σ ω)) (s : Session σ ω)
    (operations : List Operation) :
    s.Stretch (moments library s operations) (performAll library s operations) := by
  induction operations generalizing s with
  | nil => exact .silent rfl rfl rfl
  | cons operation rest ih =>
    cases operation with
    | request request =>
      have requested : s.Stretch [] (perform library s (.request request)) :=
        .silent rfl rfl rfl
      exact requested.append (ih _)
    | use plugin => exact (Call.mk library plugin s).stretch.append (ih _)

end NodeSchema
