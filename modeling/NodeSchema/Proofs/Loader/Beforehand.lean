import NodeSchema.Proofs.Loader.Cycles
import NodeSchema.Proofs.Loader.Once
import NodeSchema.Proofs.Loader.Privacy

/-!
# Loading beforehand

A plugin that uses another runs it beneath itself: with one more plugin on
the stack, and without an audit at its end.  If the other is loaded before,
it runs on its own and is audited.  The two runs go side by side, request by
request.

* `Session.Onto` — one session is another on top of further plugins;
* `Program.run_alike`, `Plugin.use_alike` — programs and uses of plugins go
  the same way on both;
* `Session.beforehand_makes_no_difference` — so what a plugin uses first may
  as well be loaded before it.
-/

namespace NodeSchema

variable {σ ω α : Type}

namespace Session

/-- A session is another one on top of plugins that were being loaded before,
if their logs are left aside. -/
structure Onto (outer : List String) (s t : Session σ ω) : Prop where
  schema : t.loader.schema = s.loader.schema
  outputs : t.loader.outputs = s.loader.outputs
  loading : t.loader.loading = s.loader.loading ++ outer
  notes : t.notes = s.notes

/-- Two runs answer the same and end in sessions of which one is the other on
top of further plugins. -/
structure Alike (outer : List String) (r r' : Session σ ω × α) : Prop where
  answer : r'.2 = r.2
  onto : Onto outer r.1 r'.1

namespace Onto

variable {outer : List String} {s t : Session σ ω}

theorem define (onto : Onto outer s t) (kind : String) :
    Onto outer (s.define kind) (t.define kind) := by
  unfold Session.define
  rw [onto.schema]
  exact { onto with schema := rfl }

theorem declare (onto : Onto outer s t) (kind : String) (declaration : Declaration) :
    Alike outer (s.declare kind declaration) (t.declare kind declaration) := by
  unfold Session.declare
  rw [onto.schema]
  exact ⟨rfl, { onto with schema := rfl }⟩

theorem finalize (onto : Onto outer s t) (kind : String) :
    Alike outer (s.finalize kind) (t.finalize kind) := by
  unfold Session.finalize
  rw [onto.schema]
  split
  · exact ⟨rfl, { onto with schema := rfl }⟩
  · exact ⟨rfl, onto⟩

theorem audit (onto : Onto outer s t) : Alike outer s.audit t.audit := by
  unfold Session.audit
  rw [onto.schema]
  split
  · exact ⟨rfl, { onto with }⟩
  · exact ⟨rfl, onto⟩

/-- The two loaders differ in their stacks only. -/
theorem loader (onto : Onto outer s t) :
    t.loader = { s.loader with loading := t.loader.loading } := by
  rcases t with ⟨⟨schema, outputs, loading⟩, notes, log⟩
  obtain ⟨rfl, rfl, -, -⟩ := onto
  rfl

theorem loader_eq (onto : Onto [] s t) : t.loader = s.loader := by
  have stack : t.loader.loading = s.loader.loading := by rw [onto.loading, List.append_nil]
  rw [onto.loader, stack]

theorem enter (onto : Onto outer s t) (plugin : String) :
    Onto outer (s.enter plugin) (t.enter plugin) :=
  { onto with loading := congrArg (plugin :: ·) onto.loading }

/-- A plugin that is not among those beneath is on the stacks of both, or of
neither. -/
theorem mem_loading_iff {plugin : String} (onto : Onto outer s t) (apart : plugin ∉ outer) :
    plugin ∈ t.loader.loading ↔ plugin ∈ s.loader.loading := by
  rw [onto.loading, List.mem_append, or_iff_left apart]

/-- The plugin on top leaves the stacks of both. -/
theorem leave {plugin : String} {rest : List String} (onto : Onto outer s t)
    (top : s.loader.loading = plugin :: rest) : Onto outer s.leave t.leave := by
  have beneath : t.leave.loader.loading = s.leave.loader.loading ++ outer := by
    rw [leave_loading, leave_loading, onto.loading, top]
    rfl
  exact { onto with loading := beneath }

theorem keep (onto : Onto outer s t) (plugin : String) (output : ω) :
    Onto outer (s.keep plugin output) (t.keep plugin output) :=
  { onto with outputs := congrArg ((plugin, output) :: ·) onto.outputs }

/-- An audit of the one alone changes nothing but its log. -/
theorem audited (onto : Onto outer s t) : Onto outer s.audit.1 t := by
  unfold Session.audit
  split
  · exact { onto with }
  · exact onto

/-- The closing audit: both have one, or neither, or the one alone does and
passes it. -/
theorem close (onto : Onto outer s t)
    (passes : s.loader.loading = [] → outer = [] ∨ s.close.2 = .ok ()) :
    Alike outer s.close t.close := by
  by_cases bottom : s.loader.loading = []
  · have audits : s.close = s.audit := if_pos (by rw [bottom]; rfl)
    by_cases none : outer = []
    · have audits' : t.close = t.audit := if_pos (by rw [onto.loading, bottom, none]; rfl)
      rw [audits, audits']
      exact onto.audit
    · have idle : t.close = (t, .ok ()) :=
        if_neg (by rw [onto.loading, bottom]; simpa using none)
      have passed := (passes bottom).resolve_left none
      rw [audits] at passed ⊢
      rw [idle]
      exact ⟨passed.symm, onto.audited⟩
  · have idle : s.close = (s, .ok ()) := if_neg (by simpa using bottom)
    have idle' : t.close = (t, .ok ()) := if_neg (by rw [onto.loading]; simp [bottom])
    rw [idle, idle']
    exact ⟨rfl, onto⟩

/-- Both are undone alike, if the same is put back. -/
theorem undo (onto : Onto outer s t) {before before' : Loader ω}
    (back : before'.schema = before.schema ∧ before'.outputs = before.outputs) (plugin : String)
    (error : Error) : Alike outer (s.undo before plugin error) (t.undo before' plugin error) :=
  ⟨rfl, { onto with schema := back.1, outputs := back.2 }⟩

/-- Both settle with the same answer.  They do so alike if it is an output,
or if the same is put back. -/
theorem settle (onto : Onto outer s t) (before before' : Loader ω) (plugin : String)
    (result : Except Error ω)
    (passes : s.loader.loading = [] →
      outer = [] ∨ ∃ output, (s.settle before plugin result).2 = .ok output) :
    (t.settle before' plugin result).2 = (s.settle before plugin result).2 ∧
      ((∃ output, (s.settle before plugin result).2 = .ok output) ∨
          (before'.schema = before.schema ∧ before'.outputs = before.outputs) →
        Alike outer (s.settle before plugin result) (t.settle before' plugin result)) := by
  cases result with
  | error error =>
    refine ⟨rfl, ?_⟩
    rintro (⟨output, succeeds⟩ | back)
    · cases succeeds
    · exact onto.undo back plugin error
  | ok output =>
    have alike : Alike outer s.close t.close := by
      refine onto.close fun bottom => (passes bottom).imp_right ?_
      rintro ⟨handed, succeeds⟩
      rcases closed : s.close with ⟨u, error | ⟨⟩⟩
      · rw [settle_of_unclosed closed] at succeeds
        cases succeeds
      · rfl
    rcases closed : s.close with ⟨u, answer⟩
    rcases closed' : t.close with ⟨v, answer'⟩
    rw [closed, closed'] at alike
    obtain ⟨same, onto⟩ := alike
    obtain rfl : answer' = answer := same
    rcases answer' with error | ⟨⟩
    · rw [settle_of_unclosed closed, settle_of_unclosed closed']
      refine ⟨rfl, ?_⟩
      rintro (⟨handed, succeeds⟩ | back)
      · cases succeeds
      · exact onto.undo back plugin error
    · rw [settle_of_closed closed, settle_of_closed closed']
      exact ⟨rfl, fun _ => ⟨rfl, onto.keep plugin output⟩⟩

end Onto

end Session

section

open Session

variable {outer : List String} {s t : Session σ ω}

/-- Programs go the same way on both, if the uses of plugins do that they
make. -/
theorem Program.run_alike
    {useWith useWith' : String → Session σ ω → Session σ ω × Except Error ω}
    (p : Program σ ω α) (blind : p.Blind) (onto : Onto outer s t)
    (uses : ∀ entry ∈ p.uses useWith s, ∀ u, Onto outer entry.2 u →
      Alike outer (useWith entry.1 entry.2) (useWith' entry.1 u)) :
    Alike outer (p.run useWith s) (p.run useWith' t) := by
  induction p generalizing s t with
  | finish answer => exact ⟨rfl, onto⟩
  | define kind next ih => exact ih blind (onto.define kind) uses
  | declare kind declaration next ih =>
    obtain ⟨same, onto⟩ := onto.declare kind declaration
    rw [run, run, same]
    exact ih _ (blind _) onto uses
  | finalize kind next ih =>
    obtain ⟨same, onto⟩ := onto.finalize kind
    rw [run, run, same]
    exact ih _ (blind _) onto uses
  | audit next ih =>
    obtain ⟨same, onto⟩ := onto.audit
    rw [run, run, same]
    exact ih _ (blind _) onto uses
  | inspect next ih =>
    obtain ⟨seen, unseen⟩ := blind s.loader
    have same : next t.loader = next s.loader := by rw [onto.loader, unseen]
    rw [run, run, same]
    exact ih _ seen onto uses
  | use plugin next ih =>
    obtain ⟨same, onto⟩ := uses (plugin, s) List.mem_cons_self t onto
    rw [run, run, same]
    exact ih _ (blind _) onto fun entry made => uses entry (List.mem_cons_of_mem _ made)
  | note change next ih =>
    rw [run, run, onto.notes]
    exact ih _ (blind _) { onto with notes := rfl } uses

/-- A use runs a plugin that exists, unless its output is there or it is being
loaded. -/
theorem Call.runner_of {call : Call σ ω} {p : Plugin σ ω}
    (absent : call.before.loader.outputs.lookup call.plugin = none)
    (idle : call.plugin ∉ call.before.loader.loading)
    (found : call.library.find? (·.name == call.plugin) = some p) : call.runner = some p := by
  rw [runner, if_neg (by simp [absent, idle]), found]

/-- A plugin ends with itself on top of the stack. -/
theorem Call.body_loading (call : Call σ ω) (p : Plugin σ ω) :
    (call.body p).1.loader.loading = call.plugin :: call.before.loader.loading :=
  Program.run_keeps (keeps_loading _)
    (fun plugin u on => (Plugin.use_loading _ plugin u).trans on) p.body rfl

/-- A plugin that begins by using another goes on from the answer that the
whole library gives. -/
theorem Call.body_of_use (call : Call σ ω) {p : Plugin σ ω} {needed : String}
    {next : Except Error ω → Program σ ω (Except Error ω)} {u : Session σ ω}
    {answer : Except Error ω} (first : p.body = .use needed next)
    (answers : Plugin.use call.library needed (call.before.enter call.plugin) = (u, answer)) :
    call.body p = (next answer).run (Plugin.use call.others) u := by
  have aside : call.others = Plugin.waiting call.library [call.plugin] := by
    rw [others, ← Plugin.others_waiting, Plugin.waiting_nil]
  have top : [call.plugin] ⊆ (call.before.enter call.plugin).loader.loading := by simp
  have same : Plugin.use call.others needed (call.before.enter call.plugin) = (u, answer) := by
    rw [aside, Plugin.use_waiting needed _ top, answers]
  rw [body, first, Program.run, same]

/-- **Side by side.**  A use of a plugin goes the same way on top of further
plugins, if nothing that is used on its behalf is among them.  If it is the
outermost, it also has to succeed, because only then is it audited. -/
theorem Plugin.use_alike (library : List (Plugin σ ω)) (name : String)
    (blind : ∀ p ∈ library, p.body.Blind) (onto : Onto outer s t)
    (apart : ∀ inner, (Call.mk library name s).LeadsTo inner → inner.plugin ∉ outer)
    (passes : s.loader.loading = [] → outer = [] ∨ ∃ output, (use library name s).2 = .ok output) :
    Alike outer (use library name s) (use library name t) := by
  fun_induction use library name s generalizing t with
  | case1 library name s output cached =>
    rw [use_of_loaded (onto.outputs ▸ cached)]
    exact ⟨rfl, onto⟩
  | case2 library name s absent busy =>
    have busy' := (onto.mem_loading_iff (apart _ .refl)).mpr (List.contains_iff_mem.mp busy)
    rw [use_of_busy busy' (onto.outputs ▸ absent)]
    exact ⟨rfl, onto⟩
  | case3 library name s absent idle unknown =>
    have free : name ∉ t.loader.loading := by
      rw [onto.mem_loading_iff (apart _ .refl)]
      simpa using idle
    rw [use_of_unknown free (onto.outputs ▸ absent) unknown]
    exact ⟨rfl, onto⟩
  | case4 library name s absent idle p found r =>
    rename_i ih
    have free : name ∉ s.loader.loading := by simpa using idle
    have ran : (Call.mk library name s).runner = some p := Call.runner_of absent free found
    have free' : name ∉ t.loader.loading := by rwa [onto.mem_loading_iff (apart _ .refl)]
    have ran' : (Call.mk library name t).runner = some p :=
      Call.runner_of (onto.outputs ▸ absent) free' found
    have body : Alike outer r ((Call.mk library name t).body p) := by
      refine Program.run_alike p.body (blind p (List.mem_of_find?_eq_some found)) (onto.enter name)
        fun entry listed u onto => ?_
      have made : (⟨others library name, entry.1, entry.2⟩ : Call σ ω) ∈
          (Call.mk library name s).nested :=
        Call.nested_of_runner ran ▸ List.mem_map_of_mem listed
      refine ih entry.1 entry.2 (fun p listed => blind p (List.mem_of_mem_filter listed)) onto
        (fun inner leads => apart inner (leads.head made)) fun bottom => ?_
      -- what the plugin uses begins with the plugin on the stack
      have top := Call.loading_of_nested made
      rw [bottom] at top
      cases top
    have used := Call.use_of_runner ran'
    obtain ⟨same, above⟩ := body
    have on : r.1.loader.loading = name :: s.loader.loading :=
      (Call.mk library name s).body_loading p
    have left := above.leave on
    rw [used, same]
    refine (left.settle s.loader t.loader name r.2 ?_).2 (.inr ⟨onto.schema, onto.outputs⟩)
    rw [leave_loading, on]
    exact passes

/-- No request hands over the output of a plugin that is being loaded. -/
theorem Session.keeps_pending (plugin : String) :
    Keeps fun s : Session σ ω =>
      plugin ∈ s.loader.loading ∧ s.loader.outputs.lookup plugin = none where
  define _ h := h
  declare _ _ h := h
  finalize kind h := by
    unfold finalize
    split <;> exact h
  audit h := by rwa [audit_loader]
  note _ h := h

/-- No use does either. -/
theorem Plugin.use_absent {plugin : String} (library : List (Plugin σ ω)) (name : String)
    (s : Session σ ω) (loading : plugin ∈ s.loader.loading)
    (absent : s.loader.outputs.lookup plugin = none) :
    (use library name s).1.loader.outputs.lookup plugin = none := by
  fun_induction use library name s with
  | case1 library name s output cached => exact absent
  | case2 library name s _ busy => exact absent
  | case3 library name s _ idle unknown => exact absent
  | case4 library name s _ idle p found r =>
    rename_i ih
    have entered : plugin ∈ (s.enter name).loader.loading ∧
        (s.enter name).loader.outputs.lookup plugin = none :=
      ⟨List.mem_cons_of_mem name loading, absent⟩
    obtain ⟨-, ran⟩ := Program.run_keeps (keeps_pending plugin)
      (fun other u pending => ⟨(use_loading _ other u).symm ▸ pending.1, ih other u pending.1 pending.2⟩)
      p.body entered
    rcases r.1.leave.settle_cases s.loader name r.2 with ⟨_, _, back⟩ | ⟨_, _, _, kept⟩
    · rw [back]
      exact absent
    · rw [kept]
      have other : plugin ≠ name := fun same => idle (by simpa [same] using loading)
      rw [Record.lookup_cons_ite, if_neg other]
      exact ran

/-- What a plugin needs runs beneath it as it does on its own, if it succeeds
on its own. -/
theorem Plugin.use_beneath {library : List (Plugin σ ω)} (blind : ∀ p ∈ library, p.body.Blind)
    {plugin needed : String} {output : ω} (idle : s.loader.loading = [])
    (apart : ∀ inner, (Call.mk library needed s).LeadsTo inner → inner.plugin ≠ plugin)
    (succeeds : use library needed s = (t, .ok output)) :
    ∃ u, use library needed (s.enter plugin) = (u, .ok output) ∧ Onto [plugin] t u := by
  have entered : Onto [plugin] s (s.enter plugin) :=
    ⟨rfl, rfl, by rw [enter_loading, idle]; rfl, rfl⟩
  obtain ⟨same, beneath⟩ := use_alike library needed blind entered
    (fun inner leads => by simpa using apart inner leads)
    (fun _ => .inr ⟨output, by rw [succeeds]⟩)
  rw [succeeds] at same beneath
  exact ⟨_, Prod.ext rfl same, beneath⟩

/-- Two outermost uses of a plugin, of which it ends in sessions that differ in
their logs only: they answer the same, and leave the same loader if they
succeed. -/
theorem Call.same_of_body (call call' : Call σ ω) {p : Plugin σ ω}
    (named : call'.plugin = call.plugin) (ran : call.runner = some p)
    (ran' : call'.runner = some p) (body : Alike [] (call.body p) (call'.body p)) :
    call.outcome = call'.outcome ∧ ∀ result, call'.outcome = .ok result →
      call.after.loader = call'.after.loader ∧ call.after.notes = call'.after.notes := by
  obtain ⟨same, ended⟩ := body
  have left := ended.leave (call.body_loading p)
  obtain ⟨answers, alike⟩ := left.settle call.before.loader call'.before.loader call.plugin
    (call.body p).2 fun _ => .inl rfl
  rw [outcome_of_runner ran, outcome_of_runner ran', after_of_runner ran, after_of_runner ran',
    named, same]
  refine ⟨answers.symm, fun result succeeds => ?_⟩
  obtain ⟨-, ended⟩ := alike (.inl ⟨result, answers.symm.trans succeeds⟩)
  exact ⟨ended.loader_eq.symm, ended.notes.symm⟩

namespace Session

/-- **Loading beforehand makes no difference.**  Take plugins that, as all do,
have no access to the stack, any loader at rest, and a plugin that is not
loaded and begins by using another.  If the other can be loaded on its own,
whatever that uses and whatever fails on the way, and nothing asks for the
plugin meanwhile, then loading it beforehand does not change what the plugin
answers.  Nor does it change what is in the loader in the end, if the plugin
succeeds: the schema, the outputs and their order. -/
theorem beforehand_makes_no_difference (library : List (Plugin σ ω))
    (blind : ∀ p ∈ library, p.body.Blind) {plugin needed : String} {p : Plugin σ ω}
    {next : Except Error ω → Program σ ω (Except Error ω)} {s t : Session σ ω} {output : ω}
    (idle : s.loader.loading = []) (absent : s.loader.outputs.lookup plugin = none)
    (found : library.find? (·.name == plugin) = some p) (first : p.body = .use needed next)
    (apart : ∀ inner, (Call.mk library needed s).LeadsTo inner → inner.plugin ≠ plugin)
    (succeeds : Plugin.use library needed s = (t, .ok output)) :
    (Plugin.use library plugin t).2 = (Plugin.use library plugin s).2 ∧
      ∀ result, (Plugin.use library plugin s).2 = .ok result →
        (Plugin.use library plugin t).1.loader = (Plugin.use library plugin s).1.loader ∧
          (Plugin.use library plugin t).1.notes = (Plugin.use library plugin s).1.notes := by
  obtain ⟨u, within, beneath⟩ := Plugin.use_beneath blind idle apart succeeds
  have idle' : t.loader.loading = [] := by
    have balanced := Plugin.use_loading library needed s
    rwa [succeeds, idle] at balanced
  have absent' : t.loader.outputs.lookup plugin = none := by
    have still := Plugin.use_absent library needed (s.enter plugin) List.mem_cons_self absent
    rwa [within, beneath.outputs] at still
  have there : (t.enter plugin).loader.outputs.lookup needed = some output := by
    have left := output_of_use (congrArg Prod.snd succeeds)
    rwa [succeeds] at left
  have cached : Plugin.use library needed (t.enter plugin) = (t.enter plugin, .ok output) :=
    Plugin.use_of_loaded there
  -- what is needed has answered both, and from here on they differ in their logs only
  have onto : Onto [] (t.enter plugin) u :=
    ⟨beneath.schema, beneath.outputs, by rw [beneath.loading, enter_loading, idle']; rfl,
      beneath.notes⟩
  have unseeing : (next (.ok output)).Blind := by
    have whole := blind p (List.mem_of_find?_eq_some found)
    rw [first] at whole
    exact whole (.ok output)
  have rest := Program.run_alike (next (.ok output)) unseeing onto
    fun entry _ v onto => Plugin.use_alike (Plugin.others library plugin) entry.1
      (fun p listed => blind p (List.mem_of_mem_filter listed)) onto
      (fun _ _ => List.not_mem_nil) (fun _ => .inl rfl)
  let direct : Call σ ω := ⟨library, plugin, s⟩
  let later : Call σ ω := ⟨library, plugin, t⟩
  have ran : direct.runner = some p :=
    Call.runner_of absent (by rw [idle]; exact List.not_mem_nil) found
  have ran' : later.runner = some p :=
    Call.runner_of absent' (by rw [idle']; exact List.not_mem_nil) found
  have body : Alike [] (later.body p) (direct.body p) := by
    rw [later.body_of_use first cached, direct.body_of_use first within]
    exact rest
  exact later.same_of_body direct rfl ran' ran body

/-- A plugin that fails halfway. -/
def storm : Plugin Unit Nat :=
  ⟨"storm", .define "Debris" (.declare "Debris" (.supertypes ["Debris"]) fun r =>
    .finish (r.map fun _ => 0))⟩

/-- A plugin that goes on after a storm and finalizes what it declares. -/
def hedge : Plugin Unit Nat :=
  ⟨"hedge", .use "storm" fun _ => .define "Hedge" (.declare "Hedge"
    (.field (.required "height" .number)) fun _ => .finalize "Hedge" fun _ => .finish (.ok 1))⟩

/-- A plugin that begins by using a hedge and passes its failure on. -/
def garden : Plugin Unit Nat :=
  ⟨"garden", .use "hedge" fun
    | .error error => .finish (.error error)
    | .ok height => .define "Garden" (.declare "Garden"
      (.field (.required "fence" (.kind "Hedge"))) fun _ => .finish (.ok (height + 1)))⟩

/-- The hedge may be loaded before the garden, or with it. -/
theorem hedge_beforehand :
    let library := [storm, hedge, garden]
    let s : Session Unit Nat := ⟨.empty, (), []⟩
    let t := (Plugin.use library "hedge" s).1
    (Plugin.use library "hedge" s).2 = .ok 1 ∧
      t.loader.schema.names = ["Hedge"] ∧ t.loader.schema.isFinalized "Hedge" = true ∧
      (Plugin.use library "garden" s).2 = .ok 2 ∧ (Plugin.use library "garden" t).2 = .ok 2 ∧
      (Plugin.use library "garden" t).1.loader = (Plugin.use library "garden" s).1.loader := by
  intro library s t
  have blind : ∀ p ∈ library, p.body.Blind := by
    have storm : storm.body.Blind := fun _ => trivial
    have hedge : hedge.body.Blind := fun _ _ _ => trivial
    have garden : garden.body.Blind := fun r => by
      cases r with
      | error error => exact trivial
      | ok height => exact fun _ => trivial
    simp [library, storm, hedge, garden]
  have succeeds : (Plugin.use library "hedge" s).2 = .ok 1 := by decide +kernel
  have grows : (Plugin.use library "garden" s).2 = .ok 2 := by decide +kernel
  have apart : ∀ inner, (Call.mk library "hedge" s).LeadsTo inner → inner.plugin ≠ "garden" := by
    intro inner leads
    rcases leads.cases_head with rfl | ⟨first, made, leads⟩
    · decide
    obtain rfl := List.mem_singleton.mp made
    rcases leads.cases_head with rfl | ⟨second, made, -⟩
    · decide
    · cases made
  have loaded : Plugin.use library "hedge" s = (t, .ok 1) := Prod.ext rfl succeeds
  obtain ⟨answers, alike⟩ :=
    beforehand_makes_no_difference library blind rfl rfl rfl rfl apart loaded
  exact ⟨succeeds, by decide +kernel, by decide +kernel, grows, answers.trans grows,
    (alike 2 grows).1⟩

end Session

end

end NodeSchema
