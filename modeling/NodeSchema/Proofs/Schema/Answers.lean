import NodeSchema.Proofs.Schema.Later

/-!
# What requests answer

A request for a builder or a validator finalizes first and answers then.  In
a coherent schema the answer could as well be read off before: finalization
fails only if the kind does not resolve, and what it changes does not show.
So schemas that resolve their kinds alike answer all requests alike.

* `Coherent.finalize_succeeds` — a kind that resolves can be finalized;
* `Coherent.validator_answer`, `Coherent.builder_answer`,
  `Coherent.build_answer`, `Coherent.fromFields_answer` — answers, read off
  the schema before the request;
* `Alike.build_answer`, `Alike.fromFields_answer` — coherent schemas that are
  alike make the same nodes.
-/

namespace NodeSchema

/-- Going through a list succeeds if each step can. -/
theorem exists_mapM_ok {α β ε : Type} {f : α → Except ε β} {l : List α}
    (each : ∀ a ∈ l, ∃ b, f a = .ok b) : ∃ results, l.mapM f = .ok results := by
  induction l with
  | nil => exact ⟨[], rfl⟩
  | cons a l ih =>
    obtain ⟨b, first⟩ := each a List.mem_cons_self
    obtain ⟨bs, rest⟩ := ih fun other listed => each other (List.mem_cons_of_mem a listed)
    refine ⟨b :: bs, ?_⟩
    rw [List.mapM_cons, first, rest]
    rfl

namespace Builder

variable {s t : Schema}

theorem judge_congr {limit : Nat} (same : t.check limit = s.check limit) (kind : String)
    (node : Node) (fields : List Field) :
    judge t limit kind node fields = judge s limit kind node fields := by
  induction fields with
  | nil => rfl
  | cons field rest ih => rw [judge, judge, same, ih]

/-- What a builder makes depends on the schema by its checks only. -/
theorem construct_congr {limit : Nat} (same : t.check limit = s.check limit) (b : Builder)
    (supplied : List (String × Value)) :
    b.construct t limit supplied = b.construct s limit supplied := by
  unfold construct
  simp only [judge_congr same]

theorem build_congr {limit : Nat} (same : t.check limit = s.check limit) (b : Builder)
    (arguments : List Value) : b.build t limit arguments = b.build s limit arguments := by
  unfold build
  rw [construct_congr same]

theorem fromFields_congr {limit : Nat} (same : t.check limit = s.check limit) (b : Builder)
    (source : Node) : b.fromFields t limit source = b.fromFields s limit source :=
  construct_congr same b _

end Builder

namespace Schema

variable {s t : Schema} {kind : String}

theorem finalize_fails {error : Error} (unresolved : s.shape kind = .error error) :
    s.finalize kind = .error error := by
  rw [finalize, unresolved]
  rfl

/-- **A kind that resolves can be finalized**, since everything above it
resolves as well. -/
theorem Coherent.finalize_succeeds (coherent : s.Coherent) {shape : Shape}
    (resolved : s.shape kind = .ok shape) : ∃ t events, s.finalize kind = .ok (t, events) := by
  have each : ∀ other ∈ s.pending kind,
      ∃ entry, (do return (other, ← s.shape other) : Except Error (String × Shape)) = .ok entry := by
    intro other listed
    have reach := coherent.reaches_of_pending resolved listed
    obtain ⟨above, resolved⟩ := coherent.resolves_above resolved reach
    refine ⟨(other, above), ?_⟩
    rw [resolved]
    rfl
  obtain ⟨shaped, walked⟩ := exists_mapM_ok each
  have finalized : s.finalize kind = .ok (s.holdAll shaped,
      shaped.map fun entry => .finalized entry.1 entry.2.fields.length) := by
    rw [Schema.finalize, resolved, walked]
    rfl
  exact ⟨_, _, finalized⟩

/-- A kind has a builder exactly if it resolves and can be built. -/
theorem builderOf_ok_iff {b : Builder} :
    s.builderOf kind = .ok b ↔
      ∃ shape parameters, s.shape kind = .ok shape ∧
        shape.buildParameters kind = .ok parameters ∧ b = ⟨kind, parameters, shape.fields⟩ := by
  constructor
  · intro handed
    obtain ⟨shape, resolved, handed⟩ := bind_ok_iff.mp handed
    obtain ⟨parameters, built, handed⟩ := bind_ok_iff.mp handed
    exact ⟨shape, parameters, resolved, built, (Except.ok.inj handed).symm⟩
  · rintro ⟨shape, parameters, resolved, built, rfl⟩
    exact bind_ok_iff.mpr ⟨shape, resolved, bind_ok_iff.mpr ⟨parameters, built, rfl⟩⟩

theorem Settled.alike (coherent : s.Coherent) (settled : s.Settled t kind) : s.Alike t :=
  coherent.alike (coherent.settled settled) settled.declared

namespace Alike

theorem builderOf (alike : s.Alike t) (kind : String) : t.builderOf kind = s.builderOf kind := by
  rw [Schema.builderOf, Schema.builderOf, alike.shape]

theorem isSupertypeOf (alike : s.Alike t) (sup sub : String) :
    t.isSupertypeOf sup sub = s.isSupertypeOf sup sub := by
  rw [Schema.isSupertypeOf, Schema.isSupertypeOf, alike.shape]

theorem fieldValue (alike : s.Alike t) (node : Node) (name : String) :
    t.fieldValue node name = s.fieldValue node name := by
  simp only [Schema.fieldValue, alike.shape]

end Alike

namespace Coherent

/-- A validator is handed out exactly if the kind resolves. -/
theorem validator_answer (coherent : s.Coherent) (kind : String) :
    (s.validator kind).2.2 = (s.shape kind).map fun _ => () := by
  unfold validator
  rcases resolved : s.shape kind with error | shape
  · rw [finalize_fails resolved]
    rfl
  · obtain ⟨t, events, finalized⟩ := coherent.finalize_succeeds resolved
    rw [finalized]
    rfl

/-- The builder that is handed out is the one that the kind has before the
request, and so is the error if there is none. -/
theorem builder_answer (coherent : s.Coherent) (kind : String) :
    (s.builder kind).2.2 = s.builderOf kind := by
  unfold builder
  rcases resolved : s.shape kind with error | shape
  · rw [finalize_fails resolved, builderOf, resolved]
    rfl
  · obtain ⟨t, events, finalized⟩ := coherent.finalize_succeeds resolved
    have alike : s.Alike t := Settled.alike coherent (.inr ⟨events, finalized⟩)
    rw [finalized]
    exact alike.builderOf kind

/-- After a request for a builder, checks give the verdicts from before. -/
theorem builder_check (coherent : s.Coherent) (kind : String) (limit : Nat) :
    (s.builder kind).1.check limit = s.check limit :=
  (Settled.alike coherent (s.settled_builder kind)).check limit

/-- What positional arguments make, in terms of the schema before the
request. -/
theorem build_answer (coherent : s.Coherent) (limit : Nat) (kind : String)
    (arguments : List Value) :
    (s.build limit kind arguments).2 =
      match s.builderOf kind with
      | .ok b => b.build s limit arguments
      | .error error => some (.error error) := by
  have answer := coherent.builder_answer kind
  have checks := coherent.builder_check kind limit
  unfold build
  rcases requested : s.builder kind with ⟨t, events, error | b⟩
  · rw [requested] at answer
    rw [← answer]
  · rw [requested] at answer checks
    rw [← answer]
    exact Builder.build_congr checks b arguments

/-- What the fields of another node make, in terms of the schema before the
request. -/
theorem fromFields_answer (coherent : s.Coherent) (limit : Nat) (kind : String) (source : Node) :
    (s.fromFields limit kind source).2 =
      match s.builderOf kind with
      | .ok b => b.fromFields s limit source
      | .error error => some (.error error) := by
  have answer := coherent.builder_answer kind
  have checks := coherent.builder_check kind limit
  unfold fromFields
  rcases requested : s.builder kind with ⟨t, events, error | b⟩
  · rw [requested] at answer
    rw [← answer]
  · rw [requested] at answer checks
    rw [← answer]
    exact Builder.fromFields_congr checks b source

end Coherent

namespace Alike

/-- Coherent schemas that are alike make the same nodes of the same
arguments, and refuse the same ones for the same reasons. -/
theorem build_answer (alike : s.Alike t) (coherent : s.Coherent) (coherent' : t.Coherent)
    (limit : Nat) (kind : String) (arguments : List Value) :
    (t.build limit kind arguments).2 = (s.build limit kind arguments).2 := by
  rw [coherent'.build_answer, coherent.build_answer, alike.builderOf]
  simp only [Builder.build_congr (alike.check limit)]

/-- The same of the fields of another node. -/
theorem fromFields_answer (alike : s.Alike t) (coherent : s.Coherent) (coherent' : t.Coherent)
    (limit : Nat) (kind : String) (source : Node) :
    (t.fromFields limit kind source).2 = (s.fromFields limit kind source).2 := by
  rw [coherent'.fromFields_answer, coherent.fromFields_answer, alike.builderOf]
  simp only [Builder.fromFields_congr (alike.check limit)]

end Alike

end Schema

end NodeSchema
