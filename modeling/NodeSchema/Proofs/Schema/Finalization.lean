import NodeSchema.Proofs.Schema.Answers
import NodeSchema.Proofs.Schema.Growth

/-!
# All or nothing

Finalizing a kind goes up to its supertypes, and what it reports on the way
is not taken back.  So it must not fail in the middle.  It does not, because
the kind is resolved first, and what resolves has nothing above it that does
not.

What is finalized is a list that grows at its end, by kinds that have
everything above them finalized or on the list.  So each report comes after
those about the kinds above.

* `Schema.reports` — what a request reports;
* `Settles.split` — each kind on the list has its supertypes before it;
* `Coherent.mem_pending_iff` — the list for a kind that resolves: what is at
  or above it and open;
* `Schema.Finalizes` — a kind and all kinds above it are finalized, and that
  is reported;
* `Coherent.finalizes_or_fails` — what a request that finalizes does;
* `Coherent.reported_once` — a request reports what it finalizes, once.
-/

namespace NodeSchema

/-- The kind that an event reports as finalized. -/
def Event.finalizedKind? : Event → Option String
  | .finalized kind _ => some kind
  | .created _ | .starting _ | .undone _ _ | .unused _ => none

/-- The kinds that are reported as finalized, in order. -/
def Event.finalizedKinds (events : List Event) : List String :=
  events.filterMap finalizedKind?

theorem Event.finalizedKinds_append (earlier later : List Event) :
    finalizedKinds (earlier ++ later) = finalizedKinds earlier ++ finalizedKinds later :=
  List.filterMap_append

namespace Schema

variable {s t : Schema} {kind name : String} {request : Request} {events : List Event}
  {names : List String} {shape : Shape}

namespace Settles

theorem nodup (settles : s.Settles [] names) : names.Nodup := by
  induction settles with
  | none => exact List.nodup_nil
  | @add names last _ new _ _ ih =>
    exact ih.append (List.nodup_singleton last) (List.disjoint_singleton.mpr new)

/-- **In order.**  What is listed before a kind was listed in the same way,
and has its supertypes unless they are finalized. -/
theorem split (settles : s.Settles [] names) :
    ∀ {before after}, names = before ++ name :: after → s.Settles [] before ∧
      ∀ base, s.Extends name base → s.isFinalized base = true ∨ base ∈ before := by
  induction settles with
  | none =>
    intro before after here
    exact absurd here (by simp)
  | @add names last earlier _ _ behind ih =>
    intro before after here
    rcases List.eq_nil_or_concat after with rfl | ⟨rest, final, rfl⟩
    · obtain ⟨rfl, ends⟩ := List.append_inj' here rfl
      obtain rfl : last = name := List.singleton_inj.mp ends
      exact ⟨earlier, behind⟩
    · have longer : names ++ [last] = (before ++ name :: rest) ++ [final] := by simpa using here
      exact ih (List.append_inj' longer rfl).1

end Settles

namespace Coherent

/-- From what is finalized or listed, one only gets to what is finalized or
listed. -/
theorem settled_above (coherent : s.Coherent) (settles : s.Settles [] names)
    (done : s.isFinalized name = true ∨ name ∈ names) {other : String}
    (reach : s.Reaches name other) : s.isFinalized other = true ∨ other ∈ names := by
  induction reach with
  | refl => exact done
  | tail _ up ih =>
    rcases ih with final | listed
    · exact .inl (coherent.closed final up)
    · exact (settles.above _ listed).2 _ up

/-- **What is to be finalized** with a kind that resolves is what is at or
above it and open. -/
theorem mem_pending_iff (coherent : s.Coherent) (resolved : s.shape name = .ok shape)
    {other : String} :
    other ∈ s.pending name ↔ s.Reaches name other ∧ s.isFinalized other = false := by
  have visits := coherent.pending_visits resolved
  constructor
  · intro listed
    exact ⟨coherent.reaches_of_pending resolved listed, (visits.settles.above other listed).1⟩
  · intro ⟨reach, still⟩
    have done := visits.covers name List.mem_cons_self
    rcases coherent.settled_above visits.settles done reach with final | listed
    · rw [still] at final
      cases final
    · exact listed

end Coherent

/-- The kinds at and above `kind` that are not finalized, each once with its
shape and behind those above it. -/
structure Outstanding (s : Schema) (kind : String) (news : List (String × Shape)) : Prop where
  shapes : ∀ entry ∈ news, s.shape entry.1 = .ok entry.2
  distinct : (news.map (·.1)).Nodup
  exactly : ∀ other, other ∈ news.map (·.1) ↔ s.Reaches kind other ∧ s.isFinalized other = false
  inOrder : ∀ before entry after, news = before ++ entry :: after →
    ∀ above, Relation.TransGen s.Extends entry.1 above →
      s.isFinalized above = true ∨ above ∈ before.map (·.1)

/-- `t` is `s` with `kind` and all kinds above it finalized.  There is one
event for each of them that was not, in order, with the number of its
effective fields. -/
structure Finalizes (s t : Schema) (kind : String) (events : List Event) : Prop where
  declared : t.declared = s.declared
  exactly : ∀ other, t.isFinalized other = true ↔ s.isFinalized other = true ∨ s.Reaches kind other
  holds : ∀ other, s.Reaches kind other → ∃ k shape, t.find? other = some k ∧
    k.shape = some shape ∧ s.shape other = .ok shape
  others : ∀ other, ¬ s.Reaches kind other ∨ s.isFinalized other = true →
    t.find? other = s.find? other
  reported : ∃ news, s.Outstanding kind news ∧
    events = news.map fun entry => .finalized entry.1 entry.2.fields.length

namespace Coherent

/-- What is finalized after a kind that resolves was. -/
theorem isFinalized_iff_reaches (coherent : s.Coherent) (resolved : s.shape kind = .ok shape)
    (finalized : s.finalize kind = .ok (t, events)) (other : String) :
    t.isFinalized other = true ↔ s.isFinalized other = true ∨ s.Reaches kind other := by
  rw [coherent.isFinalized_finalize finalized, coherent.mem_pending_iff resolved]
  by_cases before : s.isFinalized other = true
  · simp [before]
  · simp [before]

/-- A kind that is not to be finalized stays as it is. -/
theorem find?_finalize (finalized : s.finalize kind = .ok (t, events)) {other : String}
    (apart : other ∉ s.pending kind) : t.find? other = s.find? other := by
  have defined : t.contains other = s.contains other := by
    rw [← contains_declared, declared_finalize finalized, contains_declared]
  obtain ⟨-, shaped, -, listed, -, rfl, -⟩ := finalize_ok finalized
  rcases found : (s.holdAll shaped).find? other with - | k
  · have absent : s.contains other = false := by rw [← defined, contains, found]; rfl
    exact (Option.not_isSome_iff_eq_none.mp (by simpa [contains] using absent)).symm
  · obtain ⟨before, found', rfl | ⟨shape, member, -⟩⟩ := find?_holdAll found
    · exact found'.symm
    · exact absurd (listed ▸ List.mem_map_of_mem member) apart

/-- What is reported when a kind that resolves is finalized. -/
theorem reported_finalize (coherent : s.Coherent) (resolved : s.shape kind = .ok shape)
    (finalized : s.finalize kind = .ok (t, events)) :
    ∃ news, s.Outstanding kind news ∧
      events = news.map fun entry => .finalized entry.1 entry.2.fields.length := by
  have settles := (coherent.pending_visits resolved).settles
  obtain ⟨-, news, -, listed, shapes, -, told⟩ := finalize_ok finalized
  refine ⟨news, ⟨shapes, ?_, ?_, ?_⟩, told⟩
  · rw [listed]
    exact settles.nodup
  · intro other
    rw [listed, coherent.mem_pending_iff resolved]
  · intro before entry after here above leads
    have places : s.pending kind = before.map (·.1) ++ entry.1 :: after.map (·.1) := by
      rw [← listed, here, List.map_append, List.map_cons]
    obtain ⟨earlier, behind⟩ := settles.split places
    obtain ⟨base, up, rest⟩ := Relation.TransGen.head'_iff.mp leads
    exact coherent.settled_above earlier (behind base up) rest

/-- **Finalizing a kind that resolves** finalizes it and all kinds above
it. -/
theorem finalizes (coherent : s.Coherent) (resolved : s.shape kind = .ok shape)
    (finalized : s.finalize kind = .ok (t, events)) : s.Finalizes t kind events where
  declared := declared_finalize finalized
  exactly := coherent.isFinalized_iff_reaches resolved finalized
  holds other reach := by
    have final := (coherent.isFinalized_iff_reaches resolved finalized other).mpr (.inr reach)
    obtain ⟨k, above, found, held⟩ := isFinalized_iff.mp final
    refine ⟨k, above, found, held, ?_⟩
    rw [← coherent.shape_declared, ← declared_finalize finalized]
    exact (coherent.finalize finalized).held found held
  others other apart := by
    apply find?_finalize finalized
    rw [coherent.mem_pending_iff resolved]
    intro ⟨reach, still⟩
    rcases apart with away | final
    · exact away reach
    · rw [still] at final
      cases final
  reported := coherent.reported_finalize resolved finalized

end Coherent

end Schema

end NodeSchema
