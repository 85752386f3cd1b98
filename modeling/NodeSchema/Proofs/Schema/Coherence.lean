import NodeSchema.Proofs.Schema.Pending
import NodeSchema.Schema.Builder

/-!
# Held shapes stay right

A shape is held from the moment a kind is finalized, while declarations on
other kinds go on.  It stays right because the finalized kinds are closed
upwards: no declaration that is still taken touches a kind at or above a
finalized one.

* `Schema.Coherent` — the finalized kinds are closed upwards, and each holds
  the shape that the declarations give it;
* `Coherent.shape_declared` — in a coherent schema resolution gives the same
  answer, shape or error, whether held shapes are used or not;
* `Coherent.define`, `Coherent.declare`, `Coherent.finalize` — every request
  keeps a schema coherent.
-/

namespace NodeSchema.Schema

variable {s t : Schema} {name : String}

/-- The finalized kinds are closed upwards, and each of them holds the shape
that it has by the declarations. -/
structure Coherent (s : Schema) : Prop where
  closed : ∀ {name base}, s.isFinalized name = true → s.Extends name base →
    s.isFinalized base = true
  held : ∀ {name k shape}, s.find? name = some k → k.shape = some shape →
    s.declared.shape name = .ok shape

theorem extends_declared : s.declared.Extends = s.Extends := by
  funext name base
  simp only [Extends, find?_declared, Option.map_eq_some_iff, eq_iff_iff]
  constructor
  · rintro ⟨_, ⟨k, found, rfl⟩, listed⟩
    exact ⟨k, found, listed⟩
  · rintro ⟨k, found, listed⟩
    exact ⟨_, ⟨k, found, rfl⟩, listed⟩

/-- What resolves by the declarations is grounded, and everything above it
is defined. -/
theorem grounded_of_declared {shape : Shape} (resolved : s.declared.shape name = .ok shape) :
    s.Grounded name := by
  have grounded := grounded_of_shape s.bare_declared resolved
  rwa [Grounded, extends_declared] at grounded

/-- Everything at or above a kind that resolves resolves as well. -/
theorem exists_shape_of_reaches {shape : Shape} (bare : s.Bare)
    (resolved : s.shape name = .ok shape) {other : String} (reach : s.Reaches name other) :
    ∃ shape, s.shape other = .ok shape := by
  induction reach with
  | refl => exact ⟨shape, resolved⟩
  | tail _ up ih =>
    obtain ⟨middle, resolved⟩ := ih
    obtain ⟨k, bases, found, walked, -⟩ := (shape_ok_iff bare).mp resolved
    obtain ⟨above, -, resolved⟩ := exists_ok_of_mapM walked (up.mem found)
    exact ⟨above, resolved⟩

namespace Coherent

/-- Everything at or above a finalized kind is finalized. -/
theorem isFinalized_of_reaches (coherent : s.Coherent) (final : s.isFinalized name = true)
    {other : String} (reach : s.Reaches name other) : s.isFinalized other = true := by
  induction reach with
  | refl => exact final
  | tail _ up ih => exact coherent.closed ih up

/-- Resolution by the declarations runs through the kinds that are under way
as resolution by held shapes does, as long as those are all open. -/
theorem shapeBelow_declared (coherent : s.Coherent) (below : List String) (name : String) :
    (∀ under ∈ below, s.isFinalized under = false) →
      s.declared.shapeBelow below name = s.shapeBelow below name := by
  fun_induction shapeBelow s below name with
  | case1 below name absent =>
    intro _
    exact shapeBelow_of_absent (by rw [find?_declared, absent, Option.map_none])
  | case2 below name k found shape held =>
    intro opened
    have resolved := coherent.held found held
    have final : s.isFinalized name = true := isFinalized_iff.mpr ⟨k, shape, found, held⟩
    rw [shapeBelow_eq_shape s.bare_declared (grounded_of_shape s.bare_declared resolved)
      (contains_of_shapeBelow resolved), resolved]
    -- what is under way is open, and everything above a finalized kind is not
    intro under member reach
    rw [Reaches, extends_declared] at reach
    have final' := coherent.isFinalized_of_reaches final reach
    rw [opened under member] at final'
    cases final'
  | case3 below name k found opened new ih =>
    intro allOpen
    have found' : s.declared.find? name = some k.declared := by
      rw [find?_declared, found, Option.map_some]
    rw [shapeBelow_of_open found' rfl new]
    congr 1
    refine mapM_congr_mem fun base _ => ih base ?_
    intro under member
    rcases List.mem_cons.mp member with rfl | member
    · simp [isFinalized, found, opened]
    · exact allOpen under member
  | case4 below name k found opened under =>
    intro _
    have found' : s.declared.find? name = some k.declared := by
      rw [find?_declared, found, Option.map_some]
    exact shapeBelow_of_cyclic found' rfl (by simpa using under)

/-- **Held shapes do not show.**  Resolution gives the same answer whether
they are used or not. -/
theorem shape_declared (coherent : s.Coherent) (name : String) :
    s.declared.shape name = s.shape name :=
  coherent.shapeBelow_declared [] name (by simp)

/-- A change that leaves the finalized kinds alone and finalizes none keeps a
schema coherent. -/
theorem of_frame (coherent : s.Coherent)
    (keeps : ∀ name, s.isFinalized name = true → t.find? name = s.find? name)
    (finalizes : ∀ name, t.isFinalized name = true → s.isFinalized name = true) :
    t.Coherent := by
  have final_iff : ∀ {name}, s.isFinalized name = true → t.isFinalized name = true := by
    intro name final
    rw [isFinalized, keeps name final]
    exact final
  constructor
  · rintro name base final ⟨k, found, listed⟩
    have before := finalizes name final
    rw [keeps name before] at found
    exact final_iff (coherent.closed before ⟨k, found, listed⟩)
  · intro name k shape found held
    have before := finalizes name (isFinalized_iff.mpr ⟨k, shape, found, held⟩)
    rw [keeps name before] at found
    rw [← coherent.held found held]
    refine shapeBelow_congr [] name fun other reach => ?_
    rw [Reaches, extends_declared] at reach
    rw [find?_declared, find?_declared,
      keeps other (coherent.isFinalized_of_reaches before reach)]

theorem empty : Schema.empty.Coherent where
  closed final := by cases final
  held found := by cases found

theorem define (coherent : s.Coherent) (name : String) : (s.define name).1.Coherent := by
  refine coherent.of_frame ?_ ?_
  · intro other final
    obtain ⟨k, shape, found, -⟩ := isFinalized_iff.mp final
    rw [find?_define, found, Option.some_or]
  · intro other final
    obtain ⟨k, shape, found, held⟩ := isFinalized_iff.mp final
    rw [find?_define, Option.or_eq_some_iff] at found
    rcases found with found | ⟨-, fresh⟩
    · exact isFinalized_iff.mpr ⟨k, shape, found, held⟩
    · split at fresh
      · cases fresh
        cases held
      · cases fresh

theorem declare (coherent : s.Coherent) (name : String) (declaration : Declaration) :
    (s.declare name declaration).1.Coherent := by
  refine coherent.of_frame ?_ ?_
  · intro other final
    obtain ⟨k, shape, found, held⟩ := isFinalized_iff.mp final
    rw [find?_declare, found, Option.map_some]
    split
    · rw [Kind.declare_of_finalized (by rw [held]; rfl)]
    · rfl
  · intro other final
    obtain ⟨k, shape, found, held⟩ := isFinalized_iff.mp final
    rw [find?_declare, Option.map_eq_some_iff] at found
    obtain ⟨before, found, rfl⟩ := found
    refine isFinalized_iff.mpr ⟨before, shape, found, ?_⟩
    split at held
    · rwa [(before.declare_keeps declaration).2] at held
    · exact held

end Coherent

/-- Lets several kinds hold their shapes. -/
def holdAll (s : Schema) (shaped : List (String × Shape)) : Schema :=
  shaped.foldl (fun s entry => s.hold entry.1 entry.2) s

theorem declared_holdAll (s : Schema) (shaped : List (String × Shape)) :
    (s.holdAll shaped).declared = s.declared := by
  induction shaped generalizing s with
  | nil => rfl
  | cons entry rest ih => exact (ih _).trans (declared_hold s entry.1 entry.2)

/-- A kind afterwards is a kind from before, which holds what it held or one
of the shapes on the list. -/
theorem find?_holdAll {shaped : List (String × Shape)} {k : Kind}
    (found : (s.holdAll shaped).find? name = some k) :
    ∃ before, s.find? name = some before ∧
      (k = before ∨ ∃ shape, (name, shape) ∈ shaped ∧ k = { before with shape := some shape }) := by
  induction shaped generalizing s with
  | nil => exact ⟨k, found, .inl rfl⟩
  | cons entry rest ih =>
    obtain ⟨middle, between, change⟩ := ih found
    rw [find?_hold, Option.map_eq_some_iff] at between
    obtain ⟨before, found, rfl⟩ := between
    refine ⟨before, found, ?_⟩
    rcases change with rfl | ⟨shape, listed, rfl⟩
    · split
      · rename_i same
        exact .inr ⟨entry.2, by rw [same]; exact List.mem_cons_self, rfl⟩
      · exact .inl rfl
    · refine .inr ⟨shape, List.mem_cons_of_mem entry listed, ?_⟩
      split <;> rfl

theorem isFinalized_hold (s : Schema) (held : String) (shape : Shape) (name : String) :
    (s.hold held shape).isFinalized name =
      (s.isFinalized name || (name == held && s.contains name)) := by
  simp only [isFinalized, contains, find?_hold]
  cases s.find? name with
  | none => simp
  | some k =>
    by_cases same : name = held
    · simp [same]
    · simp [same]

theorem isFinalized_holdAll (s : Schema) (shaped : List (String × Shape)) (name : String) :
    (s.holdAll shaped).isFinalized name =
      (s.isFinalized name || ((shaped.map (·.1)).contains name && s.contains name)) := by
  induction shaped generalizing s with
  | nil => simp [holdAll]
  | cons entry rest ih =>
    have defined : (s.hold entry.1 entry.2).contains name = s.contains name := by
      simp [contains, find?_hold]
    show (holdAll (s.hold entry.1 entry.2) rest).isFinalized name = _
    rw [ih, isFinalized_hold, defined]
    simp only [List.map_cons, List.contains_cons]
    cases s.isFinalized name <;> cases s.contains name <;> simp

/-- What finalizing does when it succeeds: each kind on the list of those to
be finalized holds its shape. -/
theorem finalize_ok {events : List Event} (h : s.finalize name = .ok (t, events)) :
    ∃ shape shaped, s.shape name = .ok shape ∧ shaped.map (·.1) = s.pending name ∧
      (∀ entry ∈ shaped, s.shape entry.1 = .ok entry.2) ∧ t = s.holdAll shaped ∧
      events = shaped.map fun entry => .finalized entry.1 entry.2.fields.length := by
  obtain ⟨shape, resolved, h⟩ := bind_ok_iff.mp h
  obtain ⟨shaped, walked, h⟩ := bind_ok_iff.mp h
  obtain ⟨rfl, rfl⟩ := Prod.mk.inj (Except.ok.inj h)
  have step : ∀ {kind entry}, (do return (kind, ← s.shape kind) : Except Error _) = .ok entry →
      kind = entry.1 ∧ s.shape entry.1 = .ok entry.2 := by
    intro kind entry h
    obtain ⟨shape, resolved, h⟩ := bind_ok_iff.mp h
    cases h
    exact ⟨rfl, resolved⟩
  have names : List.Forall₂ Eq (s.pending name) (shaped.map (·.1)) :=
    List.forall₂_map_right_iff.mpr ((mapM_ok_iff.mp walked).imp fun _ _ h => (step h).1)
  rw [List.forall₂_eq_eq_eq] at names
  refine ⟨shape, shaped, resolved, names.symm, ?_, rfl, rfl⟩
  intro entry member
  obtain ⟨kind, -, h⟩ := exists_mem_of_mapM walked member
  exact (step h).2

/-- Finalizing changes no declaration. -/
theorem declared_finalize {events : List Event} (h : s.finalize name = .ok (t, events)) :
    t.declared = s.declared := by
  obtain ⟨_, shaped, -, -, -, rfl, -⟩ := finalize_ok h
  exact declared_holdAll s shaped

namespace Coherent

/-- There is no cycle above a kind that resolves. -/
theorem grounded (coherent : s.Coherent) {shape : Shape} (resolved : s.shape name = .ok shape) :
    s.Grounded name := by
  rw [← coherent.shape_declared] at resolved
  exact grounded_of_declared resolved

/-- Everything at or above a kind that resolves resolves as well. -/
theorem resolves_above (coherent : s.Coherent) {shape : Shape}
    (resolved : s.shape name = .ok shape) {other : String} (reach : s.Reaches name other) :
    ∃ above, s.shape other = .ok above := by
  rw [← coherent.shape_declared] at resolved ⊢
  rw [Reaches, ← extends_declared] at reach
  exact exists_shape_of_reaches s.bare_declared resolved reach

/-- So it is defined. -/
theorem contains_above (coherent : s.Coherent) {shape : Shape}
    (resolved : s.shape name = .ok shape) {other : String} (reach : s.Reaches name other) :
    s.contains other = true := by
  obtain ⟨above, resolved⟩ := coherent.resolves_above resolved reach
  exact contains_of_shapeBelow resolved

/-- What is to be finalized with a kind that resolves: the open kinds at and
above it, each once and behind its supertypes. -/
theorem pending_visits (coherent : s.Coherent) {shape : Shape}
    (resolved : s.shape name = .ok shape) : s.Visits [name] [] (s.pending name) :=
  Schema.pending_visits (coherent.grounded resolved)
    fun _ reach => coherent.contains_above resolved reach

/-- What is to be finalized with a kind that resolves is at or above it. -/
theorem reaches_of_pending (coherent : s.Coherent) {shape : Shape}
    (resolved : s.shape name = .ok shape) {other : String} (listed : other ∈ s.pending name) :
    s.Reaches name other := by
  rcases (coherent.pending_visits resolved).above other listed with old | ⟨source, member, reach⟩
  · cases old
  · rwa [← List.mem_singleton.mp member]

/-- What is finalized when a kind has been: what was before, and what was to
be. -/
theorem isFinalized_finalize (coherent : s.Coherent) {events : List Event}
    (h : s.finalize name = .ok (t, events)) (other : String) :
    t.isFinalized other = true ↔ s.isFinalized other = true ∨ other ∈ s.pending name := by
  obtain ⟨shape, shaped, resolved, names, -, rfl, -⟩ := finalize_ok h
  rw [isFinalized_holdAll, names]
  simp only [Bool.or_eq_true, Bool.and_eq_true, List.contains_iff_mem]
  refine or_congr_right (and_iff_left_of_imp fun listed => ?_)
  exact coherent.contains_above resolved (coherent.reaches_of_pending resolved listed)

end Coherent

/-- Finalizing a kind keeps a schema coherent: the kinds that are finalized
with it are those above it that were not. -/
theorem Coherent.finalize (coherent : s.Coherent) {events : List Event}
    (h : s.finalize name = .ok (t, events)) : t.Coherent := by
  have declarations := declared_finalize h
  have final_iff := coherent.isFinalized_finalize h
  obtain ⟨shape, shaped, resolved, names, shapes, rfl, -⟩ := finalize_ok h
  have visits := coherent.pending_visits resolved
  have extendsSame : (s.holdAll shaped).Extends = s.Extends := by
    rw [← extends_declared, declarations, extends_declared]
  constructor
  · intro other base final up
    rw [extendsSame] at up
    refine (final_iff base).mpr ?_
    rcases (final_iff other).mp final with before | listed
    · exact .inl (coherent.closed before up)
    · exact (visits.settles.above other listed).2 base up
  · intro other k held found holds
    rw [declarations]
    obtain ⟨before, found, rfl | ⟨shape, listed, rfl⟩⟩ := find?_holdAll found
    · exact coherent.held found holds
    · obtain rfl := Option.some.inj holds
      exact (coherent.shape_declared other).trans (shapes _ listed)

end NodeSchema.Schema
