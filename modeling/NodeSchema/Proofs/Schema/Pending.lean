import NodeSchema.Proofs.Schema.Resolution

/-!
# The order of finalization

Finalizing a kind walks up to its supertypes first and lists each kind on
the way back.  Where there is no cycle and every supertype is defined, the
list is a topological order.

* `Schema.Settles` — a list is extended by open kinds, each once and behind
  the supertypes that are not finalized yet;
* `pendingBelow_visits` — the walk from one kind extends the list so, ends
  with the kind finalized or listed, and lists only kinds at or above it;
* `pending_visits` — the whole list for one kind.
-/

namespace NodeSchema.Schema

variable {s : Schema} {name : String} {k : Kind} {below settled : List String}

/-- `settled` is extended kind by kind.  Each kind is new, open, and has each
of its supertypes finalized or on the list before it. -/
inductive Settles (s : Schema) (settled : List String) : List String → Prop
  | none : Settles s settled settled
  | add {names : List String} {name : String} (before : Settles s settled names)
      (new : name ∉ names) (opened : s.isFinalized name = false)
      (behind : ∀ base, s.Extends name base → s.isFinalized base = true ∨ base ∈ names) :
      Settles s settled (names ++ [name])

theorem Settles.mono {names : List String} (h : s.Settles settled names) :
    ∀ other ∈ settled, other ∈ names := by
  induction h with
  | none => exact fun _ member => member
  | add _ _ _ _ ih => exact fun other member => List.mem_append_left _ (ih other member)

theorem Settles.trans {middle names : List String} (first : s.Settles settled middle)
    (rest : s.Settles middle names) : s.Settles settled names := by
  induction rest with
  | none => exact first
  | add _ new opened behind ih => exact .add ih new opened behind

/-- What is listed has its supertypes finalized or listed. -/
theorem Settles.above {names : List String} (h : s.Settles [] names) :
    ∀ name ∈ names, s.isFinalized name = false ∧
      ∀ base, s.Extends name base → s.isFinalized base = true ∨ base ∈ names := by
  induction h with
  | none => exact fun _ member => by cases member
  | @add names last _ _ opened behind ih =>
    intro name member
    rcases List.mem_append.mp member with earlier | latest
    · refine ⟨(ih name earlier).1, fun base up => ?_⟩
      exact ((ih name earlier).2 base up).imp_right (List.mem_append_left _)
    · obtain rfl := List.mem_singleton.mp latest
      exact ⟨opened, fun base up => (behind base up).imp_right (List.mem_append_left _)⟩

/-- Nothing is to be done for a kind that is finalized or listed. -/
theorem pendingBelow_of_done (found : s.find? name = some k)
    (done : k.shape.isSome = true ∨ name ∈ settled) :
    s.pendingBelow below settled name = settled := by
  rw [pendingBelow]
  split
  · rfl
  · rename_i k' found'
    obtain rfl : k = k' := Option.some.inj (found.symm.trans found')
    rw [if_pos (by simpa using done)]

/-- An open kind is listed behind what its supertypes add. -/
theorem pendingBelow_of_open (found : s.find? name = some k) (opened : k.shape = none)
    (new : name ∉ settled) (free : name ∉ below) :
    s.pendingBelow below settled name =
      k.supertypes.foldl (s.pendingBelow (name :: below)) settled ++ [name] := by
  rw [pendingBelow]
  split
  · rename_i absent
    rw [found] at absent
    cases absent
  · rename_i k' found'
    obtain rfl : k = k' := Option.some.inj (found.symm.trans found')
    rw [if_neg (by simp [opened, new]), dif_pos (by simpa using free)]

/-- What visiting one kind, or several in turn, does to a list. -/
structure Visits (s : Schema) (names settled result : List String) : Prop where
  settles : s.Settles settled result
  covers : ∀ name ∈ names, s.isFinalized name = true ∨ name ∈ result
  above : ∀ other ∈ result, other ∈ settled ∨ ∃ name ∈ names, s.Reaches name other

/-- Visiting several kinds in turn adds up. -/
theorem visits_foldl {visit : List String → String → List String} {names : List String}
    (one : ∀ name ∈ names, ∀ settled, s.Visits [name] settled (visit settled name)) :
    ∀ settled, s.Visits names settled (names.foldl visit settled) := by
  induction names with
  | nil => exact fun settled => ⟨.none, by simp, fun other member => .inl member⟩
  | cons name rest ih =>
    intro settled
    have first := one name List.mem_cons_self settled
    have others := ih (fun later member => one later (List.mem_cons_of_mem name member))
      (visit settled name)
    refine ⟨first.settles.trans others.settles, ?_, ?_⟩
    · intro other member
      rcases List.mem_cons.mp member with rfl | later
      · exact (first.covers _ List.mem_cons_self).imp_right (others.settles.mono _)
      · exact others.covers other later
    · intro other member
      rcases others.above other member with earlier | ⟨source, listed, reach⟩
      · rcases first.above other earlier with old | ⟨source, listed, reach⟩
        · exact .inl old
        · obtain rfl := List.mem_singleton.mp listed
          exact .inr ⟨source, List.mem_cons_self, reach⟩
      · exact .inr ⟨source, List.mem_cons_of_mem name listed, reach⟩

/-- A kind that is finalized or listed is visited by doing nothing. -/
theorem visits_of_done (found : s.find? name = some k)
    (done : k.shape.isSome = true ∨ name ∈ settled) : s.Visits [name] settled settled := by
  refine ⟨.none, ?_, fun other member => .inl member⟩
  intro other member
  obtain rfl := List.mem_singleton.mp member
  refine done.imp_left fun held => isFinalized_iff.mpr ?_
  obtain ⟨shape, held⟩ := Option.isSome_iff_exists.mp held
  exact ⟨k, shape, found, held⟩

/-- An open kind that is new is visited by visiting its supertypes, none of
which leads back to it, and listing it behind them. -/
theorem Visits.add {names : List String} (bases : s.Visits k.supertypes settled names)
    (found : s.find? name = some k) (opened : k.shape = none) (new : name ∉ settled)
    (back : ∀ base ∈ k.supertypes, ¬ s.Reaches base name) :
    s.Visits [name] settled (names ++ [name]) := by
  have unlisted : name ∉ names := by
    intro member
    rcases bases.above name member with old | ⟨base, listed, reach⟩
    · exact new old
    · exact back base listed reach
  have behind : ∀ base, s.Extends name base → s.isFinalized base = true ∨ base ∈ names := by
    intro base up
    exact bases.covers base (up.mem found)
  have still : s.isFinalized name = false := by
    rw [isFinalized, found]
    simp [opened]
  refine ⟨bases.settles.trans (.add .none unlisted still behind), ?_, ?_⟩
  · intro other member
    obtain rfl := List.mem_singleton.mp member
    exact .inr (List.mem_append_right _ List.mem_cons_self)
  · intro other member
    rcases List.mem_append.mp member with earlier | last
    · rcases bases.above other earlier with old | ⟨base, listed, reach⟩
      · exact .inl old
      · exact .inr ⟨name, List.mem_cons_self, reach.head ⟨k, found, listed⟩⟩
    · obtain rfl := List.mem_singleton.mp last
      exact .inr ⟨other, List.mem_cons_self, .refl⟩

/-- **One walk.**  Above a grounded kind, where everything is defined and
nothing is under way, the walk lists what has to be listed in order. -/
theorem pendingBelow_visits (grounded : s.Grounded name) :
    ∀ {below} (settled), (∀ other, s.Reaches name other → s.contains other = true) →
      (∀ under ∈ below, ¬ s.Reaches name under) →
      s.Visits [name] settled (s.pendingBelow below settled name) := by
  induction grounded with
  | intro name above ih =>
    intro below settled defined free
    obtain ⟨k, found⟩ := contains_iff.mp (defined name .refl)
    by_cases done : k.shape.isSome = true ∨ name ∈ settled
    · rw [pendingBelow_of_done found done]
      exact visits_of_done found done
    · rw [not_or] at done
      have opened : k.shape = none := by simpa using done.1
      have up : ∀ base ∈ k.supertypes, s.Extends name base := fun base listed => ⟨k, found, listed⟩
      have back : ∀ base ∈ k.supertypes, ¬ s.Reaches base name := fun base listed =>
        Grounded.not_reaches ⟨name, above⟩ (up base listed)
      have bases : s.Visits k.supertypes settled
          (k.supertypes.foldl (s.pendingBelow (name :: below)) settled) := by
        refine visits_foldl (fun base listed settled => ?_) settled
        refine ih base (up base listed) settled
          (fun other reach => defined other (reach.head (up base listed))) ?_
        intro under member
        rcases List.mem_cons.mp member with rfl | member
        · exact back base listed
        · exact fun reach => free under member (reach.head (up base listed))
      rw [pendingBelow_of_open found opened done.2 fun under => free name under .refl]
      exact bases.add found opened done.2 back

/-- The list for one kind that resolves. -/
theorem pending_visits (grounded : s.Grounded name)
    (defined : ∀ other, s.Reaches name other → s.contains other = true) :
    s.Visits [name] [] (s.pending name) :=
  pendingBelow_visits grounded [] defined (by simp)

end NodeSchema.Schema
