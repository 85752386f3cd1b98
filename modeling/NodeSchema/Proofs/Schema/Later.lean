import NodeSchema.Proofs.Schema.Reachable

/-!
# Between declarations

Requests that declare nothing change no answer: they only let kinds hold
shapes that could not be told from the declared ones anyway.

* `Schema.Later` — one schema comes from another by requests that declare
  nothing;
* `Schema.Alike` — two schemas agree on which kinds are defined and on what
  resolution answers;
* `Later.alike` — a later schema is alike;
* `Alike.check` — alike schemas give the same verdicts.
-/

namespace NodeSchema.Schema

/-- Whether a request declares nothing. -/
def Request.quiet : Request → Bool
  | .define _ | .declare _ _ => false
  | _ => true

/-- The schemas that a schema becomes by requests that declare nothing. -/
inductive Later (s : Schema) : Schema → Prop
  | refl : Later s s
  | step {t : Schema} (before : Later s t) (request : Request) (quiet : request.quiet = true) :
      Later s (t.after request)

/-- Two schemas define the same kinds and resolve them alike. -/
structure Alike (s t : Schema) : Prop where
  contains : ∀ name, t.contains name = s.contains name
  shape : ∀ name, t.shape name = s.shape name

variable {s t : Schema}

theorem Settled.declared {kind : String} (h : s.Settled t kind) : t.declared = s.declared := by
  rcases h with rfl | ⟨events, finalized⟩
  · rfl
  · exact declared_finalize finalized

/-- A request that declares nothing changes no declaration. -/
theorem declared_after {request : Request} (quiet : request.quiet = true) :
    (s.after request).declared = s.declared := by
  rcases s.after_cases request with ⟨kind, rfl⟩ | ⟨kind, declaration, rfl⟩ | ⟨kind, settled⟩
  · cases quiet
  · cases quiet
  · exact settled.declared

theorem Later.declared (later : s.Later t) : t.declared = s.declared := by
  induction later with
  | refl => rfl
  | step _ request quiet ih => rw [declared_after quiet, ih]

theorem Later.coherent (later : s.Later t) (coherent : s.Coherent) : t.Coherent := by
  induction later with
  | refl => exact coherent
  | step _ request _ ih => exact ih.after request

/-- Coherent schemas with the same declarations are alike. -/
theorem Coherent.alike (coherent : s.Coherent) (coherent' : t.Coherent)
    (same : t.declared = s.declared) : s.Alike t where
  contains name := by rw [← contains_declared, same, contains_declared]
  shape name := by rw [← coherent'.shape_declared, same, coherent.shape_declared]

/-- **Requests that declare nothing do not show.** -/
theorem Later.alike (later : s.Later t) (coherent : s.Coherent) : s.Alike t :=
  coherent.alike (later.coherent coherent) later.declared

namespace Alike

theorem checkKind (alike : s.Alike t) (limit : Nat) : t.checkKind limit = s.checkKind limit := by
  induction limit with
  | zero =>
    funext kind value depth
    rfl
  | succ limit ih =>
    funext kind value depth
    rw [checkKind.eq_def, checkKind.eq_def]
    simp only [alike.contains, alike.shape, ih]

/-- Alike schemas give the same verdicts. -/
theorem check (alike : s.Alike t) (limit : Nat) : t.check limit = s.check limit := by
  funext c value depth
  rw [Schema.check, Schema.check, alike.checkKind]

end Alike

end NodeSchema.Schema
