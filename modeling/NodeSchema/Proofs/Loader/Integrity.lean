import NodeSchema.Proofs.Loader.History
import NodeSchema.Proofs.Schema.WellFormed

/-!
# Well-formed all along

The schema of a loader is well-formed not only between operations but
wherever a program can look at it: a use, however deep, goes through
well-formed schemas only, and so does one that fails and is undone.

In between, first supertypes stay the first.  The one thing that takes one away
is the failure of a use, which puts back the schema in which it began.

* `Program.passes_becomes`, `Program.passes_pairwise` — a program goes from
  each session to the later ones by requests;
* `Call.passes_pairwise` — so does a use, to its end as well if it succeeds;
* `Session.schemas_well_formed` — the representation invariant, all along.
-/

namespace NodeSchema

variable {σ ω α : Type}

/-- Requests make the schema of `t` of that of `s`. -/
def Session.Becomes (s t : Session σ ω) : Prop := s.loader.schema.Becomes t.loader.schema

/-- The first supertypes of `s` are those of `t` as well. -/
def Session.KeepsFirst (s t : Session σ ω) : Prop :=
  ∀ name base, s.loader.schema.Primary name base → t.loader.schema.Primary name base

theorem Session.Becomes.keepsFirst {s t : Session σ ω} (becomes : s.Becomes t) : s.KeepsFirst t :=
  fun _ _ first => becomes.grows.primary first

namespace Program

variable {useWith : String → Session σ ω → Session σ ω × Except Error ω}
  (uses : ∀ plugin (s : Session σ ω), s.Becomes (useWith plugin s).1)
include uses

theorem run_becomes (p : Program σ ω α) (s : Session σ ω) : s.Becomes (p.run useWith s).1 :=
  run_keeps (Session.keeps_becomes s.loader.schema) (fun plugin _ h => h.trans (uses plugin _)) p
    (.refl _)

/-- A program goes on by requests from where it begins. -/
theorem passes_becomes (p : Program σ ω α) (s : Session σ ω) :
    ∀ t ∈ p.passes useWith s, s.Becomes t :=
  passes_keep (Session.keeps_becomes s.loader.schema) (fun plugin _ h => h.trans (uses plugin _)) p
    (.refl _)

/-- So it does between any two sessions that it goes through, -/
theorem passes_pairwise (p : Program σ ω α) (s : Session σ ω) :
    (p.passes useWith s).Pairwise Session.Becomes := by
  have onward := passes_becomes uses p s
  induction p generalizing s with
  | finish answer => exact List.pairwise_singleton _ s
  | define _ _ ih =>
    exact .cons (List.forall_mem_cons.mp onward).2 (ih _ (passes_becomes uses _ _))
  | declare _ _ _ ih | finalize _ _ ih | audit _ ih | inspect _ ih | use _ _ ih | note _ _ ih =>
    exact .cons (List.forall_mem_cons.mp onward).2 (ih _ _ (passes_becomes uses _ _))

/-- and from each of them to where it ends. -/
theorem passes_become_end (p : Program σ ω α) (s : Session σ ω) :
    ∀ t ∈ p.passes useWith s, t.Becomes (p.run useWith s).1 := by
  have ran := run_becomes uses p s
  induction p generalizing s with
  | finish answer => exact List.forall_mem_singleton.mpr ran
  | define _ _ ih => exact List.forall_mem_cons.mpr ⟨ran, ih _ (run_becomes uses _ _)⟩
  | declare _ _ _ ih | finalize _ _ ih | audit _ ih | inspect _ ih | use _ _ ih | note _ _ ih =>
    exact List.forall_mem_cons.mpr ⟨ran, ih _ _ (run_becomes uses _ _)⟩

end Program

namespace Call

variable {call : Call σ ω} {p : Plugin σ ω}

theorem use_becomes (library : List (Plugin σ ω)) (plugin : String) (s : Session σ ω) :
    s.Becomes (Plugin.use library plugin s).1 :=
  Plugin.use_becomes library plugin s

/-- A use that succeeds ends with the schema that its plugin left. -/
theorem becomes_after (ran : call.runner = some p) {output : ω}
    (succeeds : call.outcome = .ok output) : (call.body p).1.Becomes call.after := by
  rcases (call.body p).1.leave.settle_cases call.before.loader call.plugin (call.body p).2 with
    ⟨error, failed, -⟩ | ⟨handed, -, -, kept⟩
  · rw [← outcome_of_runner ran, succeeds] at failed
    cases failed
  · rw [← after_of_runner ran] at kept
    rw [Session.Becomes, kept]
    exact .refl _

/-- **In order.**  A use goes by requests from each session to the later ones,
except that where it fails it ends with the schema in which it began. -/
theorem passes_pairwise (call : Call σ ω) :
    call.passes.dropLast.Pairwise Session.Becomes ∧
      ∀ output, call.outcome = .ok output → call.passes.Pairwise Session.Becomes := by
  rcases ran : call.runner with - | p
  · rw [passes, ran]
    exact ⟨.nil, fun _ _ => List.pairwise_singleton _ _⟩
  have uses := use_becomes call.others
  have entered : call.before.Becomes (call.before.enter call.plugin) := .refl _
  have within : (call.before ::
      p.body.passes (Plugin.use call.others) (call.before.enter call.plugin)).Pairwise
        Session.Becomes := by
    refine .cons (fun t listed => ?_) (Program.passes_pairwise uses p.body _)
    exact entered.trans (Program.passes_becomes uses p.body _ t listed)
  rw [passes, ran]
  refine ⟨by rwa [List.dropLast_concat], fun output succeeds => ?_⟩
  have settled := becomes_after ran succeeds
  refine List.pairwise_append.mpr ⟨within, List.pairwise_singleton _ _, fun t listed u last => ?_⟩
  obtain rfl := List.mem_singleton.mp last
  rcases List.mem_cons.mp listed with rfl | listed
  · exact (entered.trans (Program.run_becomes uses p.body _)).trans settled
  · exact (Program.passes_become_end uses p.body _ t listed).trans settled

end Call

namespace Session

/-- **Well-formed all along.**  Take any two points of a run of operations on
a loader that starts empty, whichever operations fail.  The schema is
well-formed, and the first supertypes of the earlier point are still the
first.  Both hold as well in every session that the uses go through to which
the later operations lead, to any depth, even if they are undone; and
from each of these sessions to the later ones of the same use, except that a
use that fails ends in the schema in which it began. -/
theorem schemas_well_formed (library : List (Plugin σ ω)) (notes : σ)
    (earlier later : List Operation) :
    let start := performAll library ⟨.empty, notes, []⟩ earlier
    let t := performAll library start later
    t.loader.schema.WellFormed ∧ start.KeepsFirst t ∧
      ∀ outer ∈ calls library start later, ∀ call, outer.LeadsTo call →
        (∀ u ∈ call.passes, u.loader.schema.WellFormed ∧ start.KeepsFirst u) ∧
          call.passes.dropLast.Pairwise KeepsFirst ∧
          ∀ output, call.outcome = .ok output → call.passes.Pairwise KeepsFirst := by
  intro start t
  have wellFormed : ∀ {u : Session σ ω}, start.Becomes u → u.loader.schema.WellFormed := by
    intro u onward
    have reachable := (performAll_becomes library ⟨.empty, notes, []⟩ earlier).reachable .empty
    exact (onward.reachable reachable).wellFormed
  have onward : start.Becomes t := performAll_becomes library start later
  refine ⟨wellFormed onward, onward.keepsFirst, fun outer listed call leads => ?_⟩
  have began : start.Becomes outer.before :=
    calls_keep (fun operation s h => h.trans (perform_becomes library s operation)) later
      (.refl _) outer listed
  have along : ∀ u ∈ call.passes, start.Becomes u :=
    Call.pass_of_leadsTo (keeps_becomes start.loader.schema) (fun _ _ h => h)
      (fun library plugin s h => h.trans (Plugin.use_becomes library plugin s)) began leads
  obtain ⟨inside, throughout⟩ := call.passes_pairwise
  refine ⟨fun u listed => ?_, inside.imp Becomes.keepsFirst, fun output succeeds => ?_⟩
  · exact ⟨wellFormed (along u listed), (along u listed).keepsFirst⟩
  · exact (throughout output succeeds).imp Becomes.keepsFirst

/-- A plugin that goes on after the failure of another, puts pages above
items, and fails when it puts items above themselves. -/
def shelving : Plugin Unit Unit :=
  ⟨"shelving", .use "halting" fun _ => .define "Page"
    (.declare "Item" (.supertypes ["Page", "Item"]) .finish)⟩

/-- What is below nodes stays below them first, while the failing plugin puts
pages behind them and after it is undone.  The items have their place in the
store, whichever requests led to them. -/
theorem shelves_well_formed :
    let library := [Call.halting, shelving]
    let start : Session Unit Unit := performAll library ⟨.empty, (), []⟩ withItems
    let call : Call Unit Unit := ⟨library, "shelving", start⟩
    let t := performAll library start [.use "shelving"]
    start.loader.schema.Primary "Item" "Node" ∧ call.passes.length = 6 ∧
      call.outcome = .error (.declaration "Item" .ownSupertype) ∧
      (∀ u ∈ call.passes, u.loader.schema.WellFormed ∧ u.loader.schema.Primary "Item" "Node") ∧
      t.loader.schema.Primary "Item" "Node" ∧
      ∃ requests : List Schema.Request, requests.foldl Schema.after .empty = t.loader.schema ∧
        (requests.foldl Store.after .empty).places.lookup "Item" = some 1 := by
  intro library start call t
  obtain ⟨wellFormed, keeps, along⟩ := schemas_well_formed library () withItems [.use "shelving"]
  have heads : (start.loader.schema.find? "Item").bind (·.supertypes.head?) = some "Node" := by
    decide +kernel
  have first : start.loader.schema.Primary "Item" "Node" := Option.bind_eq_some_iff.mp heads
  have listed : call ∈ calls library start [.use "shelving"] := List.mem_cons_self
  have inside := (along call listed call .refl).1
  obtain ⟨requests, made⟩ := (performAll_becomes library ⟨.empty, (), []⟩ withItems).trans
    (performAll_becomes library start [.use "shelving"])
  obtain ⟨same, filed, -⟩ := wellFormed.stored requests made
  have second : t.loader.schema.names[1]? = some "Item" := by decide +kernel
  have stands : (requests.foldl Store.after .empty).schema.names[1]? = some "Item" := by
    rw [← second]
    exact congrArg (fun kinds => (kinds.map Kind.name)[1]?) same
  exact ⟨first, by decide +kernel, by decide +kernel,
    fun u listed => ⟨(inside u listed).1, (inside u listed).2 _ _ first⟩, keeps _ _ first,
    requests, made, (filed.place_iff "Item" 1).mpr stands⟩

end Session

end NodeSchema
