import NodeSchema.Proofs.Loader.Rollback
import NodeSchema.Proofs.Schema.Growth

/-!
# Runs of a loader

A loader is worked from outside by requests about its schema and by uses of
plugins.  A use runs programs within programs, and what some of them did may
be taken back in the middle of others.  The schema does not show that: where
a use ends, the schema is one that requests alone could have made of the one
where it began.

* `Schema.Becomes` — what requests make of a schema;
* `Plugin.use_becomes` — a use makes nothing else of it, whether it succeeds
  or fails;
* `Session.performAll_becomes` — nor do operations in a row;
* `Session.schema_only_grows` — so a schema only grows, and its finalized
  kinds never change.
-/

namespace NodeSchema

variable {σ ω : Type}

namespace Schema

/-- Requests make `t` of `s`. -/
def Becomes (s t : Schema) : Prop := ∃ requests : List Request, requests.foldl after s = t

variable {s t : Schema}

theorem Becomes.refl (s : Schema) : s.Becomes s := ⟨[], rfl⟩

theorem Becomes.trans {u : Schema} (first : s.Becomes t) (rest : t.Becomes u) : s.Becomes u := by
  obtain ⟨requests, rfl⟩ := first
  obtain ⟨requests', rfl⟩ := rest
  exact ⟨requests ++ requests', List.foldl_append⟩

theorem becomes_after (s : Schema) (request : Request) : s.Becomes (s.after request) :=
  ⟨[request], rfl⟩

theorem Becomes.reachable (becomes : s.Becomes t) (reachable : s.Reachable) : t.Reachable := by
  obtain ⟨requests, rfl⟩ := becomes
  exact reachable.foldl requests

theorem Becomes.grows (becomes : s.Becomes t) : s.Grows t := by
  obtain ⟨requests, rfl⟩ := becomes
  exact s.grows_foldl requests

end Schema

namespace Session

/-- Finalizing within a program is a request for a validator. -/
theorem finalize_schema (s : Session σ ω) (kind : String) :
    (s.finalize kind).1.loader.schema = s.loader.schema.after (.validator kind) := by
  show (s.finalize kind).1.loader.schema = (s.loader.schema.validator kind).1
  unfold finalize Schema.validator
  rcases s.loader.schema.finalize kind with error | ⟨schema, events⟩ <;> rfl

theorem audit_log (s : Session σ ω) :
    ∃ kinds : List String, s.audit.1.log = s.log ++ kinds.map .unused := by
  unfold audit
  split
  · next events passed =>
    obtain ⟨⟨⟩, -, passed⟩ := bind_ok_iff.mp passed
    obtain ⟨⟨⟩, -, passed⟩ := bind_ok_iff.mp passed
    obtain rfl := Except.ok.inj passed
    exact ⟨_, rfl⟩
  · exact ⟨[], (List.append_nil _).symm⟩

/-- Closing adds to the log at most reports of kinds that nothing uses. -/
theorem close_log (s : Session σ ω) :
    ∃ kinds : List String, s.close.1.log = s.log ++ kinds.map .unused := by
  unfold close
  split
  · exact s.audit_log
  · exact ⟨[], (List.append_nil _).symm⟩

/-- What a program does to the schema, uses of plugins apart, is done by
requests. -/
theorem keeps_becomes (schema : Schema) :
    Keeps fun s : Session σ ω => schema.Becomes s.loader.schema where
  define kind h := h.trans (Schema.becomes_after _ (.define kind))
  declare kind declaration h := h.trans (Schema.becomes_after _ (.declare kind declaration))
  finalize kind h := by
    rw [finalize_schema]
    exact h.trans (Schema.becomes_after _ (.validator kind))
  audit h := by rwa [audit_loader]
  note _ h := h

end Session

/-- **A use amounts to requests**, whatever it runs, whatever is taken back on
the way, and whether it succeeds or fails. -/
theorem Plugin.use_becomes (library : List (Plugin σ ω)) (name : String) (s : Session σ ω) :
    s.loader.schema.Becomes (use library name s).1.loader.schema := by
  fun_induction use library name s with
  | case1 library name s output cached => exact .refl _
  | case2 library name s absent busy => exact .refl _
  | case3 library name s absent idle unknown => exact .refl _
  | case4 library name s absent idle p found r ih =>
    have ran : s.loader.schema.Becomes r.1.loader.schema :=
      Program.run_keeps (Session.keeps_becomes s.loader.schema)
        (fun other t h => h.trans (ih other t)) p.body (.refl _)
    rcases Session.settle_cases r.1.leave s.loader name r.2 with ⟨_, _, back⟩ | ⟨_, _, _, kept⟩
    · rw [back]
      exact .refl _
    · rw [kept]
      exact ran

/-- What can be done with a loader from outside. -/
inductive Operation where
  | request (request : Schema.Request)
  | use (plugin : String)

namespace Session

/-- The session after an operation, which may have failed.  Requests from
outside are not logged here. -/
def perform (library : List (Plugin σ ω)) (s : Session σ ω) : Operation → Session σ ω
  | .request request => s.setSchema (s.loader.schema.after request)
  | .use plugin => (Plugin.use library plugin s).1

/-- The session after several operations. -/
def performAll (library : List (Plugin σ ω)) (s : Session σ ω) (operations : List Operation) :
    Session σ ω :=
  operations.foldl (perform library) s

/-- **The step lemma.**  An operation amounts to requests. -/
theorem perform_becomes (library : List (Plugin σ ω)) (s : Session σ ω) (operation : Operation) :
    s.loader.schema.Becomes (perform library s operation).loader.schema := by
  cases operation with
  | request request => exact Schema.becomes_after _ request
  | use plugin => exact Plugin.use_becomes library plugin s

/-- **The run lemma.**  Operations in a row amount to requests. -/
theorem performAll_becomes (library : List (Plugin σ ω)) (s : Session σ ω)
    (operations : List Operation) :
    s.loader.schema.Becomes (performAll library s operations).loader.schema := by
  induction operations generalizing s with
  | nil => exact .refl _
  | cons operation rest ih => exact (perform_becomes library s operation).trans (ih _)

/-- **The schema only grows, and finalized kinds never change.**  Take any
two points of a run of operations on a loader that starts empty, whichever
operations fail.  The earlier names are a prefix of the later ones.  A kind
that is finalized at the earlier point is so at the later one, has the same
shape, and takes no declaration any more.  A kind that resolves at both points
keeps its ancestors and the names of its effective fields, and so remains
below everything that it was below. -/
theorem schema_only_grows (library : List (Plugin σ ω)) (notes : σ)
    (earlier later : List Operation) :
    let start := performAll library ⟨.empty, notes, []⟩ earlier
    let s := start.loader.schema
    let t := (performAll library start later).loader.schema
    s.names <+: t.names ∧
      (∀ kind, s.isFinalized kind = true →
        (∃ shape, s.shape kind = .ok shape ∧ t.isFinalized kind = true ∧ t.shape kind = .ok shape) ∧
        ∀ declaration, t.declare kind declaration = (t, .error (.declaration kind .finalized))) ∧
      (∀ kind before now, s.shape kind = .ok before → t.shape kind = .ok now →
        before.ancestors ⊆ now.ancestors ∧ Field.names before.fields ⊆ Field.names now.fields) ∧
      ∀ sup sub now, s.isSupertypeOf sup sub = true → t.shape sub = .ok now →
        t.isSupertypeOf sup sub = true := by
  intro start s t
  have becomes : s.Becomes t := performAll_becomes library start later
  have reachable : s.Reachable := (performAll_becomes library _ earlier).reachable .empty
  have reachable' : t.Reachable := becomes.reachable reachable
  have coherent := reachable.coherent
  have coherent' := reachable'.coherent
  have grows := becomes.grows
  refine ⟨grows.names, ?_, ?_, ?_⟩
  · intro kind final
    obtain ⟨shape, resolved, still, resolves⟩ := grows.shape_of_finalized final
    exact ⟨⟨shape, resolved, still, resolves⟩, reachable'.declare_of_finalized still⟩
  · intro kind before now resolved resolves
    exact ⟨grows.ancestors_subset coherent coherent' resolved resolves,
      grows.fieldNames_subset coherent coherent' resolved resolves⟩
  · intro sup sub now inherits resolves
    exact grows.isSupertypeOf coherent coherent' inherits resolves

/-- A plugin that goes on after the failure of another and puts pages
between items and nodes. -/
def paging : Plugin Unit Unit :=
  ⟨"paging", .use "halting" fun _ => .define "Page" (.declare "Page" (.supertypes ["Node"]) fun _ =>
    .declare "Page" (.field (.required "number" .number)) fun _ =>
    .declare "Item" (.supertypes ["Page"]) .finish)⟩

/-- Nodes are finalized, items are below them and open. -/
def withItems : List Operation :=
  [.request (.define "Node"), .request (.declare "Node" (.field (.required "id" .string))),
    .request (.validator "Node"), .request (.define "Item"),
    .request (.declare "Item" (.supertypes ["Node"]))]

/-- A use that fails, a declaration that comes too late, and a use that
succeeds although one within it fails. -/
def withPages : List Operation :=
  [.use "halting", .request (.declare "Node" (.field (.required "late" .number))),
    .use "paging"]

/-- Over these operations nodes stay as they were and items keep what they
inherit, while they gain the number of a page. -/
theorem pages_only_add :
    let library := [Call.halting, paging]
    let start : Session Unit Unit := performAll library ⟨.empty, (), []⟩ withItems
    let s := start.loader.schema
    let t := (performAll library start withPages).loader.schema
    s.names = ["Node", "Item"] ∧ t.names = ["Node", "Item", "Page"] ∧ s.names <+: t.names ∧
      s.isFinalized "Node" = true ∧
      (∃ shape, s.shape "Node" = .ok shape ∧ t.isFinalized "Node" = true ∧
        t.shape "Node" = .ok shape) ∧
      s.fieldNames "Item" = .ok ["id"] ∧ t.fieldNames "Item" = .ok ["id", "number"] ∧
      s.isSupertypeOf "Node" "Item" = true ∧ t.isSupertypeOf "Node" "Item" = true := by
  intro library start s t
  obtain ⟨names, finalized, -, inherits⟩ := schema_only_grows library () withItems withPages
  have final : s.isFinalized "Node" = true := by decide +kernel
  have below : s.isSupertypeOf "Node" "Item" = true := by decide +kernel
  have resolves : (t.shape "Item").isOk = true := by decide +kernel
  obtain ⟨now, resolved⟩ := exists_ok_of_isOk resolves
  exact ⟨by decide +kernel, by decide +kernel, names, final, (finalized "Node" final).1,
    by decide +kernel, by decide +kernel, below, inherits "Node" "Item" now below resolved⟩

end Session

end NodeSchema
