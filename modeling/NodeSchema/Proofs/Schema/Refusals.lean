import NodeSchema.Proofs.Schema.Growth

/-!
# What refused declarations leave behind

Build parameters are looked through before they are set, and a field before it
is put in, so that a refusal leaves the kind as it was.  A list of supertypes is
taken name by name.  It is refused when the kind itself comes up, and by then the
names before it have been added.

* `Kind.setParameters_refused`, `Kind.addField_refused` — the other declarations
  that a kind refuses;
* `Kind.declare_refused` — what a refusal leaves of a kind;
* `Reachable.refusals_leave` — and of a schema: it is as before, or as after a
  shorter list of supertypes, which is taken;
* `aviary_keeps_half` — half a declaration that was refused.
-/

namespace NodeSchema

namespace Kind

variable {k : Kind} {fault : Fault}

/-- A list of other kinds is taken as long as the kind is open. -/
theorem declare_supertypes_of_others (opened : k.shape = none) {names : List String}
    (other : k.name ∉ names) : k.declare (.supertypes names) = (k.above names, .ok ()) := by
  rw [declare, opened]
  exact addSupertypes_of_others other

/-- The kind is as before if all the names are listed already. -/
theorem above_eq_self_iff {names : List String} : k.above names = k ↔ names ⊆ k.supertypes := by
  constructor
  · intro same name listed
    have kept : addNames k.supertypes names = k.supertypes := congrArg Kind.supertypes same
    rw [← kept]
    exact mem_addNames.mpr (.inr listed)
  · intro listed
    rw [above, addNames_of_subset listed]

/-- Build parameters that are refused are not set. -/
theorem setParameters_refused {names : List String}
    (refused : (k.setParameters names).2 = .error fault) :
    (k.setParameters names).1 = k ∧ fault ≠ .ownSupertype := by
  revert refused
  unfold setParameters
  split
  · rintro ⟨⟩
    exact ⟨rfl, nofun⟩
  · rintro ⟨⟩

/-- A field that is refused is not put in, and replaces no default. -/
theorem addField_refused {field : Field} (refused : (k.addField field).2 = .error fault) :
    (k.addField field).1 = k ∧ fault ≠ .ownSupertype := by
  revert refused
  unfold addField
  split
  · rintro ⟨⟩
    exact ⟨rfl, nofun⟩
  · split
    · split
      · rintro ⟨⟩
      · rintro ⟨⟩
        exact ⟨rfl, nofun⟩
    · rintro ⟨⟩

/-- **What a refusal leaves of a kind.**  The kind is as it was, or it was open
and its own name is on a list of supertypes, of which it has those before. -/
theorem declare_refused {declaration : Declaration}
    (refused : (k.declare declaration).2 = .error fault) :
    ((k.declare declaration).1 = k ∧ fault ≠ .ownSupertype) ∨
      fault = .ownSupertype ∧ k.shape = none ∧ ∃ before after,
        declaration = .supertypes (before ++ k.name :: after) ∧ k.name ∉ before ∧
          (k.declare declaration).1 = k.above before := by
  by_cases final : k.shape.isSome = true
  · rw [declare_of_finalized final] at refused ⊢
    cases refused
    exact .inl ⟨rfl, nofun⟩
  · cases declaration with
    | parameters names =>
      have opened : k.declare (.parameters names) = k.setParameters names := if_neg final
      rw [opened] at refused ⊢
      exact .inl (setParameters_refused refused)
    | field field =>
      have opened : k.declare (.field field) = k.addField field := if_neg final
      rw [opened] at refused ⊢
      exact .inl (addField_refused refused)
    | supertypes names =>
      have opened : k.declare (.supertypes names) = k.addSupertypes names := if_neg final
      rw [opened] at refused ⊢
      by_cases own : k.name ∈ names
      · obtain ⟨before, after, rfl, other⟩ := List.eq_append_cons_of_mem own
        rw [addSupertypes_own other] at refused ⊢
        cases refused
        exact .inr ⟨rfl, Option.not_isSome_iff_eq_none.mp final, before, after, rfl, other, rfl⟩
      · rw [addSupertypes_of_others own] at refused
        cases refused

end Kind

namespace Schema

variable {s : Schema} {kind : String} {declaration : Declaration} {error : Error} {k : Kind}

/-- A declaration on a kind that is there. -/
theorem declare_of_find? (found : s.find? kind = some k) (declaration : Declaration) :
    s.declare kind declaration =
      (s.replace (k.declare declaration).1,
        (k.declare declaration).2.mapError (.declaration kind)) := by
  rw [declare, found]

/-- The reason why a kind that is there refuses a declaration. -/
theorem exists_fault (found : s.find? kind = some k)
    (refused : (s.declare kind declaration).2 = .error error) :
    ∃ fault, (k.declare declaration).2 = .error fault ∧ error = .declaration kind fault := by
  rw [declare_of_find? found] at refused
  cases answer : (k.declare declaration).2 with
  | ok =>
    rw [answer] at refused
    cases refused
  | error fault =>
    rw [answer] at refused
    exact ⟨fault, rfl, (Except.error.inj refused).symm⟩

/-- **What refusals leave of a schema.**  A declaration that is refused, for any
other reason than that the kind is on a list of its own supertypes, leaves the
schema as it was.  For that reason it leaves what the list up to the name of the
kind would have left, which would have been taken: the kind has the names before
its own among its supertypes, and nothing else about it or any other kind has
changed.  So the schema is as it was only if the kind had those names before. -/
theorem Reachable.refusals_leave (reachable : s.Reachable)
    (refused : (s.declare kind declaration).2 = .error error) :
    (error ≠ .declaration kind .ownSupertype → (s.declare kind declaration).1 = s) ∧
      (error = .declaration kind .ownSupertype → ∃ k before after,
        s.find? kind = some k ∧ declaration = .supertypes (before ++ kind :: after) ∧
          kind ∉ before ∧
          s.declare kind (.supertypes before) = ((s.declare kind declaration).1, .ok ()) ∧
          (s.declare kind declaration).1.find? kind =
            some { k with supertypes := addNames k.supertypes before } ∧
          (∀ other, other ≠ kind →
            (s.declare kind declaration).1.find? other = s.find? other) ∧
          ((s.declare kind declaration).1 = s ↔ before ⊆ k.supertypes)) := by
  cases found : s.find? kind with
  | none =>
    have missing : s.declare kind declaration = (s, .error (.unresolved kind none)) := by
      rw [declare, found]
    rw [missing] at refused ⊢
    cases refused
    exact ⟨fun _ => rfl, nofun⟩
  | some k =>
    obtain rfl := name_of_find? found
    obtain ⟨fault, answer, rfl⟩ := exists_fault found refused
    have changed : (s.declare k.name declaration).1 = s.replace (k.declare declaration).1 := by
      rw [declare_of_find? found]
    rcases Kind.declare_refused answer with
      ⟨same, notOwn⟩ | ⟨rfl, opened, before, after, rfl, other, half⟩
    · refine ⟨fun _ => ?_, fun own => absurd (Error.declaration.inj own).2 notOwn⟩
      rw [changed, same, replace_self reachable.nodup_names found]
    · have there : (s.declare k.name (.supertypes (before ++ k.name :: after))).1.find? k.name =
          some (k.above before) := by
        rw [find?_declare, found, Option.map_some, if_pos rfl, half]
      refine ⟨fun notOwn => absurd rfl notOwn, fun _ =>
        ⟨k, before, after, rfl, rfl, other, ?_, there, fun name differs => ?_, ?_⟩⟩
      · rw [changed, half, declare_of_find? found, Kind.declare_supertypes_of_others opened other]
        rfl
      · rw [find?_declare]
        simp only [if_neg differs, Option.map_id']
      · rw [← Kind.above_eq_self_iff]
        constructor
        · intro same
          rw [same, found] at there
          exact (Option.some.inj there).symm
        · intro same
          rw [changed, half, same, replace_self reachable.nodup_names found]

/-- Birds, fire, and phoenixes, of which only the age is known. -/
def aviary : Schema :=
  [.define "Bird", .define "Fire", .define "Phoenix",
    .declare "Phoenix" (.field (.required "age" .number))].foldl after .empty

/-- Phoenixes refuse to be made with two ages, and are as before.  They refuse
to come of birds, phoenixes and fire, and come of birds. -/
theorem aviary_refusals_leave :
    aviary.Reachable ∧
      (aviary.declare "Phoenix" (.parameters ["age", "age"])).2 =
        .error (.declaration "Phoenix" (.repeatedParameter "age")) ∧
      (aviary.declare "Phoenix" (.parameters ["age", "age"])).1 = aviary ∧
      (aviary.declare "Phoenix" (.supertypes ["Bird", "Phoenix", "Fire"])).2 =
        .error (.declaration "Phoenix" .ownSupertype) ∧
      aviary.declare "Phoenix" (.supertypes ["Bird"]) =
        ((aviary.declare "Phoenix" (.supertypes ["Bird", "Phoenix", "Fire"])).1, .ok ()) := by
  have reachable : aviary.Reachable := Reachable.empty.foldl _
  have twice : (aviary.declare "Phoenix" (.parameters ["age", "age"])).2 =
      .error (.declaration "Phoenix" (.repeatedParameter "age")) := by decide +kernel
  have own : (aviary.declare "Phoenix" (.supertypes ["Bird", "Phoenix", "Fire"])).2 =
      .error (.declaration "Phoenix" .ownSupertype) := by decide +kernel
  obtain ⟨unchanged, -⟩ := reachable.refusals_leave twice
  obtain ⟨-, half⟩ := reachable.refusals_leave own
  obtain ⟨k, before, after, -, split, other, taken, -⟩ := half rfl
  have birds : before = ["Bird"] := by
    obtain _ | ⟨first, _ | ⟨second, rest⟩⟩ := before <;> simp_all
  exact ⟨reachable, twice, unchanged (by decide), own, birds ▸ taken⟩

/-- **Half a declaration.**  Phoenixes refuse to come of birds and phoenixes, and
from then on they come of birds. -/
theorem aviary_keeps_half :
    aviary.Reachable ∧
      (aviary.declare "Phoenix" (.supertypes ["Bird", "Phoenix"])).2 =
        .error (.declaration "Phoenix" .ownSupertype) ∧
      (aviary.find? "Phoenix").map (·.supertypes) = some [] ∧
      ((aviary.declare "Phoenix" (.supertypes ["Bird", "Phoenix"])).1.find? "Phoenix").map
        (·.supertypes) = some ["Bird"] ∧
      aviary.supertypesOf "Phoenix" = .ok ["Phoenix"] ∧
      (aviary.declare "Phoenix" (.supertypes ["Bird", "Phoenix"])).1.supertypesOf "Phoenix" =
        .ok ["Phoenix", "Bird"] := by
  exact ⟨Reachable.empty.foldl _, by decide +kernel, by decide +kernel, by decide +kernel,
    by decide +kernel, by decide +kernel⟩

end Schema

end NodeSchema
