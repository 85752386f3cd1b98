import NodeSchema.Proofs.Loader.Rollback
import NodeSchema.Proofs.Schema.Reachable

/-!
# What a program that succeeds has done

A program that succeeds has made all its requests, one after the other, and
so has a plugin.

* `Program.run_bind` — one program after another;
* `Fallible.run_bind_ok`, `Fallible.run_define_ok`, `Fallible.run_forM_ok` —
  a program that succeeds does so in each of its parts;
* `Plugin.use_ok` — what a use leaves behind that succeeds.
-/

namespace NodeSchema

variable {σ ω α β : Type} {useWith : String → Session σ ω → Session σ ω × Except Error ω}

/-- A program that goes on from the answer of another is run after it. -/
theorem Program.run_bind (p : Program σ ω α) (f : α → Program σ ω β) (s : Session σ ω) :
    (p.bind f).run useWith s = (f (p.run useWith s).2).run useWith (p.run useWith s).1 := by
  induction p generalizing s with
  | finish answer => rfl
  | define kind next ih => exact ih _
  | declare kind declaration next ih => exact ih _ _
  | finalize kind next ih => exact ih _ _
  | audit next ih => exact ih _ _
  | inspect next ih => exact ih _ _
  | use plugin next ih => exact ih _ _
  | note change next ih => exact ih _ _

namespace Fallible

variable {s t : Session σ ω}

/-- What succeeds as a whole succeeds in both parts. -/
theorem run_bind_ok {x : Fallible σ ω α} {f : α → Fallible σ ω β} {b : β}
    (h : (x >>= f).run.run useWith s = (t, .ok b)) :
    ∃ u a, x.run.run useWith s = (u, .ok a) ∧ (f a).run.run useWith u = (t, .ok b) := by
  have split : (x >>= f).run.run useWith s =
      (ExceptT.bindCont f (x.run.run useWith s).2).run useWith (x.run.run useWith s).1 :=
    Program.run_bind x.run _ s
  rw [split] at h
  rcases outcome : x.run.run useWith s with ⟨u, error | a⟩
  · rw [outcome] at h
    cases h
  · rw [outcome] at h
    exact ⟨u, a, rfl, h⟩

/-- What going through a list keeps, if each step does: the schema is what
the requests of the steps make of it, and the rest of the loader stays. -/
theorem run_forM_ok {f : α → Fallible σ ω Unit} {requests : α → List Schema.Request}
    (step : ∀ a s t, (f a).run.run useWith s = (t, .ok ()) →
      t.loader = { s.loader with schema := (requests a).foldl Schema.after s.loader.schema })
    {l : List α} (h : (l.forM f).run.run useWith s = (t, .ok ())) :
    t.loader = { s.loader with schema := (l.flatMap requests).foldl Schema.after s.loader.schema } := by
  induction l generalizing s with
  | nil =>
    obtain ⟨rfl, -⟩ := Prod.mk.inj h
    rfl
  | cons a rest ih =>
    obtain ⟨u, ⟨⟩, first, next⟩ := run_bind_ok h
    rw [ih next, step a s u first, List.flatMap_cons, List.foldl_append]

/-- A kind with its declarations, all of which are taken. -/
theorem run_define_ok {kind : String} {declarations : List Declaration}
    (h : (define kind declarations).run.run useWith s = (t, .ok ())) :
    t.loader = { s.loader with
      schema := (.define kind :: declarations.map (.declare kind)).foldl Schema.after
        s.loader.schema } := by
  obtain ⟨u, ⟨⟩, created, declared⟩ := run_bind_ok h
  obtain ⟨rfl, -⟩ := Prod.mk.inj created
  have step : ∀ declaration (s t : Session σ ω),
      (ExceptT.mk (.declare kind declaration .finish) : Fallible σ ω Unit).run.run useWith s =
        (t, .ok ()) →
      t.loader = { s.loader with
        schema := [Schema.Request.declare kind declaration].foldl Schema.after s.loader.schema } := by
    intro declaration s t h
    obtain ⟨rfl, -⟩ := Prod.mk.inj h
    rfl
  rw [run_forM_ok step declared, ← List.map_eq_flatMap]
  rfl

/-- A use within a program that succeeds is one that succeeds. -/
theorem run_use_ok {plugin : String} {output : ω}
    (h : (Fallible.use plugin : Fallible σ ω ω).run.run useWith s = (t, .ok output)) :
    useWith plugin s = (t, .ok output) := h

end Fallible

namespace Session

/-- What a plugin that settles well leaves behind. -/
theorem settle_ok {s t : Session σ ω} {before : Loader ω} {plugin : String}
    {result : Except Error ω} {output : ω}
    (h : s.settle before plugin result = (t, .ok output)) :
    result = .ok output ∧
      t.loader = { s.loader with outputs := (plugin, output) :: s.loader.outputs } := by
  have settled := s.settle_cases before plugin result
  rw [h] at settled
  rcases settled with ⟨error, failed, -⟩ | ⟨handed, result, passed, kept⟩
  · cases failed
  · obtain rfl : output = handed := Except.ok.inj passed
    exact ⟨result, kept⟩

end Session

/-- A plugin that was loaded is not run again. -/
theorem Plugin.use_of_loaded {library : List (Plugin σ ω)} {name : String} {s : Session σ ω}
    {output : ω} (loaded : s.loader.outputs.lookup name = some output) :
    use library name s = (s, .ok output) := by
  unfold use
  rw [loaded]

/-- A use that succeeds and is not answered from an earlier one: the plugin
was found and succeeded, and its output is kept. -/
theorem Plugin.use_ok {library : List (Plugin σ ω)} {name : String} {s t : Session σ ω} {output : ω}
    (h : use library name s = (t, .ok output)) (absent : s.loader.outputs.lookup name = none) :
    ∃ p u, library.find? (·.name == name) = some p ∧
      p.body.run (use (others library name)) (s.enter name) = (u, .ok output) ∧
      t.loader = ⟨u.loader.schema, (name, output) :: u.loader.outputs, s.loader.loading⟩ := by
  have balanced := use_loading library name s
  rw [h] at balanced
  unfold use at h
  rw [absent] at h
  dsimp only at h
  split at h
  · cases h
  split at h
  · cases h
  · next p found =>
    obtain ⟨result, kept⟩ := Session.settle_ok h
    refine ⟨p, _, found, Prod.ext rfl result, ?_⟩
    rw [← balanced, kept]
    rfl

end NodeSchema
