import Mathlib.Data.List.Perm.Subperm
import NodeSchema.Proofs.Schema.Reachable
import NodeSchema.Proofs.Schema.Inheritance

/-!
# What stands in the way of resolution

Resolution walks up from a kind and carries the kinds that are under way, so
that it notices a cycle when it comes back to one of them.  On a schema with
cycles and with supertypes that nobody defines it ends like on any other:
each further call has one more kind under way, and there are only so many.

Whether it succeeds can be read off the declarations.  There are three things
that can stand in its way, and the error names the one that it met.

* `Schema.Asks` — one call of the resolution makes another;
* `asks_wellFounded`, `nesting_le` — calls end, and nest at most as deep as
  there are kinds;
* `Schema.InOrder` — nothing stands in the way of a kind;
* `Schema.Obstructs` — what an error says stands in the way, and does;
* `Coherent.obstructs_of_error` — errors are truthful;
* `Coherent.shapeBelow_ok_iff` — a success does not depend on the kinds that
  are under way;
* `Reachable.resolution_decided` — all of this after any requests.
-/

namespace NodeSchema

/-- A walk through a list that fails does so at one of its steps. -/
theorem exists_error_of_mapM {α β ε : Type} {f : α → Except ε β} {l : List α} {error : ε}
    (failed : l.mapM f = .error error) : ∃ a ∈ l, f a = .error error := by
  induction l with
  | nil => cases failed
  | cons a l ih =>
    rw [List.mapM_cons] at failed
    rcases first : f a with error' | b
    · rw [first] at failed
      obtain rfl : error' = error := Except.error.inj failed
      exact ⟨a, List.mem_cons_self, first⟩
    · rcases rest : l.mapM f with error' | bs
      · rw [first, rest] at failed
        obtain rfl : error' = error := Except.error.inj failed
        obtain ⟨other, listed, stops⟩ := ih rest
        exact ⟨other, List.mem_cons_of_mem a listed, stops⟩
      · rw [first, rest] at failed
        cases failed

/-- A shape that cannot be assembled has a build parameter that is no
field. -/
theorem Kind.assemble_error {k : Kind} {bases : List Shape} {error : Error}
    (failed : k.assemble bases = .error error) :
    ∃ stray ∈ (k.effectiveParameters bases).getD [],
      stray ∉ Field.names (k.effectiveFields bases) ∧
        error = .declaration k.name (.strayParameter stray) := by
  unfold assemble at failed
  dsimp only at failed
  split at failed
  · next stray found =>
    have unfound := List.find?_some found
    refine ⟨stray, List.mem_of_find?_eq_some found, ?_, (Except.error.inj failed).symm⟩
    rw [← Field.find?_isSome_iff, ← Option.not_isNone, unfound]
    exact Bool.false_ne_true
  · cases failed

namespace Schema

variable {s : Schema} {name kind : String} {below : List String}

/-- A call of the resolution makes another: for a supertype of an open kind
that is not under way, which is under way from then on. -/
inductive Asks (s : Schema) : List String × String → List String × String → Prop
  | base {below : List String} {name base : String} {k : Kind} (found : s.find? name = some k)
      (opened : k.shape = none) (new : name ∉ below) (listed : base ∈ k.supertypes) :
      Asks s (below, name) (name :: below, base)

/-- **Resolution ends.**  Calls do not go on making calls forever, whatever
the supertypes are. -/
theorem asks_wellFounded (s : Schema) : WellFounded fun inner outer => s.Asks outer inner := by
  refine Subrelation.wf (fun {inner outer} asks => ?_)
    (InvImage.wf (fun call : List String × String => (s.outside call.1).length) Nat.lt_wfRel.wf)
  cases asks with
  | base found _ new _ => exact outside_cons_lt found (by simpa using new)

/-- The kinds that are under way when a call is made: each once, all defined,
and each of them leads to the kind that is asked for. -/
theorem underWay_of_asks (calls : Relation.ReflTransGen s.Asks ([], name) (below, kind)) :
    below.Nodup ∧ ∀ under ∈ below, under ∈ s.names ∧ Relation.TransGen s.Extends under kind := by
  generalize start : (([], name) : List String × String) = first at calls
  generalize finish : (below, kind) = last at calls
  induction calls generalizing below kind with
  | refl =>
    obtain ⟨rfl, -⟩ := Prod.mk.inj (start.trans finish.symm)
    exact ⟨List.nodup_nil, fun under member => by cases member⟩
  | tail _ asks ih =>
    cases asks with
    | @base earlier middle _ k found opened new listed =>
      obtain ⟨rfl, rfl⟩ := Prod.mk.inj finish
      obtain ⟨distinct, before⟩ := ih rfl
      have up : s.Extends middle kind := ⟨k, found, listed⟩
      refine ⟨List.nodup_cons.mpr ⟨new, distinct⟩, fun under member => ?_⟩
      rcases List.mem_cons.mp member with rfl | member
      · exact ⟨mem_names_iff.mpr (contains_iff.mpr ⟨k, found⟩), .single up⟩
      · exact ⟨(before under member).1, (before under member).2.tail up⟩

/-- **Calls nest at most as deep as there are kinds.** -/
theorem nesting_le (calls : Relation.ReflTransGen s.Asks ([], name) (below, kind)) :
    below.length ≤ s.kinds.length := by
  obtain ⟨distinct, known⟩ := underWay_of_asks calls
  have among : below ⊆ s.names := fun under member => (known under member).1
  calc below.length
      ≤ s.names.length := (List.Nodup.subperm distinct among).length_le
    _ = s.kinds.length := List.length_map _

/-- Nothing stands in the way of a kind: what is at or above it is defined and
on no cycle, and has its own build parameters among its fields. -/
structure InOrder (s : Schema) (name : String) : Prop where
  defined : ∀ {other}, s.Reaches name other → s.contains other = true
  acyclic : ∀ {other}, s.Reaches name other → ¬ Relation.TransGen s.Extends other other
  fields : ∀ {other k parameters}, s.Reaches name other → s.find? other = some k →
    k.parameters = some parameters → ∀ parameter ∈ parameters, s.HasField other parameter

/-- The error says what stands in the way of a kind, and that is so. -/
inductive Obstructs (s : Schema) (name : String) : Error → Prop
  | cyclic {other : String} (reach : s.Reaches name other)
      (cycle : Relation.TransGen s.Extends other other) :
      Obstructs s name (.declaration other .cyclic)
  | undefined {user missing : String} (reach : s.Reaches name user)
      (lists : s.Extends user missing) (absent : s.contains missing = false) :
      Obstructs s name (.unresolved missing (some user))
  | stray {other parameter : String} {k : Kind} {parameters : List String}
      (reach : s.Reaches name other) (found : s.find? other = some k)
      (own : k.parameters = some parameters) (listed : parameter ∈ parameters)
      (unknown : ¬ s.HasField other parameter) :
      Obstructs s name (.declaration other (.strayParameter parameter))

/-- What stands in the way of a supertype stands in the way of the kind. -/
theorem Obstructs.head {base : String} {error : Error} (obstructs : s.Obstructs base error)
    (up : s.Extends name base) : s.Obstructs name error := by
  cases obstructs with
  | cyclic reach cycle => exact .cyclic (reach.head up) cycle
  | undefined reach lists absent => exact .undefined (reach.head up) lists absent
  | stray reach found own listed unknown => exact .stray (reach.head up) found own listed unknown

/-- Nothing stands in the way of a kind that is in order. -/
theorem InOrder.not_obstructs {error : Error} (inOrder : s.InOrder name) :
    ¬ s.Obstructs name error := by
  intro obstructs
  cases obstructs with
  | cyclic reach cycle => exact inOrder.acyclic reach cycle
  | undefined reach lists absent =>
    rw [inOrder.defined (reach.tail lists)] at absent
    cases absent
  | stray reach found own listed unknown => exact unknown (inOrder.fields reach found own _ listed)

namespace Coherent

variable {shape : Shape}

/-- The build parameters of a kind that resolves are effective fields. -/
theorem parameters_subset (coherent : s.Coherent) (resolved : s.shape name = .ok shape) :
    ∀ parameter ∈ shape.parameters.getD [], parameter ∈ Field.names shape.fields := by
  obtain ⟨k, bases, -, -, assembled⟩ := coherent.shape_ok_iff.mp resolved
  obtain ⟨all, rfl⟩ := Kind.assemble_ok_iff.mp assembled
  exact fun parameter listed => Field.find?_isSome_iff.mp (all parameter listed)

/-- What resolves with some kinds under way resolves alike without them. -/
theorem shape_of_shapeBelow (coherent : s.Coherent) (below : List String) (name : String) :
    ∀ shape, s.shapeBelow below name = .ok shape → s.shape name = .ok shape := by
  fun_induction shapeBelow s below name with
  | case1 below name absent =>
    intro shape resolved
    cases resolved
  | case2 below name k found held holds =>
    intro shape resolved
    exact (shapeBelow_of_held found holds).trans resolved
  | case3 below name k found opened new ih =>
    intro shape resolved
    obtain ⟨bases, walked, assembled⟩ := bind_ok_iff.mp resolved
    have each := (mapM_ok_iff.mp walked).imp fun base shape => ih base shape
    exact coherent.shape_ok_iff.mpr ⟨k, bases, found, mapM_ok_iff.mpr each, assembled⟩
  | case4 below name k found opened under =>
    intro shape resolved
    cases resolved

/-- Everything at or above a kind that resolves is in order. -/
theorem inOrder (coherent : s.Coherent) (resolved : s.shape name = .ok shape) :
    s.InOrder name := by
  constructor
  · exact fun reach => coherent.contains_above resolved reach
  · intro other reach
    obtain ⟨above, resolved⟩ := coherent.resolves_above resolved reach
    exact (coherent.grounded resolved).not_cycle
  · intro other k parameters reach found own parameter listed
    obtain ⟨above, resolved⟩ := coherent.resolves_above resolved reach
    obtain ⟨k', bases, found', -, assembled⟩ := coherent.shape_ok_iff.mp resolved
    obtain rfl : k = k' := Option.some.inj (found.symm.trans found')
    obtain ⟨-, rfl⟩ := Kind.assemble_ok_iff.mp assembled
    refine (coherent.mem_fieldNames_iff resolved).mp (coherent.parameters_subset resolved _ ?_)
    rw [Kind.effectiveParameters, own, Option.some_or]
    exact listed

/-- A build parameter that is no field is one of the kind's own, as the
inherited ones are fields of the supertype that they come from. -/
theorem stray_is_own (coherent : s.Coherent) {k : Kind} {bases : List Shape} {stray : String}
    (walked : k.supertypes.mapM s.shape = .ok bases)
    (listed : stray ∈ (k.effectiveParameters bases).getD [])
    (unknown : stray ∉ Field.names (k.effectiveFields bases)) :
    ∃ parameters, k.parameters = some parameters ∧ stray ∈ parameters := by
  rcases own : k.parameters with - | parameters
  · rw [Kind.effectiveParameters, own, Option.none_or] at listed
    rcases bases with - | ⟨first, others⟩
    · cases listed
    · obtain ⟨base, -, resolved⟩ := exists_mem_of_mapM walked (b := first) List.mem_cons_self
      have inherited := coherent.parameters_subset resolved stray listed
      exact absurd (Kind.mem_names_effectiveFields.mpr
        (.inl ⟨first, List.mem_cons_self, inherited⟩)) unknown
  · rw [Kind.effectiveParameters, own, Option.some_or] at listed
    exact ⟨parameters, rfl, listed⟩

/-- The effective fields over the shapes of the supertypes are those that are
declared at or above the kind. -/
theorem mem_effectiveFields_iff (coherent : s.Coherent) {k : Kind} {bases : List Shape}
    (found : s.find? name = some k) (walked : k.supertypes.mapM s.shape = .ok bases)
    {field : String} :
    field ∈ Field.names (k.effectiveFields bases) ↔ s.HasField name field := by
  have inherited : (∃ base ∈ bases, field ∈ Field.names base.fields) ↔
      ∃ base ∈ k.supertypes, s.HasField base field :=
    exists_mem_mapM_iff walked fun base _ shape resolved => coherent.mem_fieldNames_iff resolved
  rw [Kind.mem_names_effectiveFields, inherited, hasField_iff found]

/-- **Errors are truthful**, provided that the kinds under way lead to the
one that is asked for. -/
theorem obstructs_of_error (coherent : s.Coherent) (below : List String) (name : String) :
    s.contains name = true → (∀ under ∈ below, Relation.TransGen s.Extends under name) →
      ∀ error, s.shapeBelow below name = .error error → s.Obstructs name error := by
  fun_induction shapeBelow s below name with
  | case1 below name absent =>
    intro defined
    obtain ⟨k, found⟩ := contains_iff.mp defined
    rw [absent] at found
    cases found
  | case2 below name k found held holds =>
    intro _ _ error failed
    cases failed
  | case3 below name k found opened new ih =>
    intro defined leads error failed
    rcases walked : k.supertypes.mapM fun base => s.shapeBelow (name :: below) base with
      error' | bases
    · -- one of the supertypes does not resolve, or is not defined at all
      rw [walked] at failed
      obtain rfl : error' = error := Except.error.inj failed
      obtain ⟨base, listed, failed⟩ := exists_error_of_mapM walked
      have up : s.Extends name base := ⟨k, found, listed⟩
      by_cases known : s.contains base = true
      · refine (ih base known (fun under member => ?_) _ failed).head up
        rcases List.mem_cons.mp member with rfl | member
        · exact .single up
        · exact (leads under member).tail up
      · have absent : s.find? base = none := by simpa [contains] using known
        rw [shapeBelow_of_absent absent] at failed
        obtain rfl := Except.error.inj failed
        exact .undefined .refl up (by simpa using known)
    · -- all of them resolve, and a build parameter is no field
      rw [walked] at failed
      obtain ⟨stray, listed, unknown, rfl⟩ := Kind.assemble_error failed
      have each := (mapM_ok_iff.mp walked).imp fun base shape =>
        coherent.shape_of_shapeBelow (name :: below) base shape
      have walked' : k.supertypes.mapM s.shape = .ok bases := mapM_ok_iff.mpr each
      obtain ⟨parameters, own, listed⟩ := coherent.stray_is_own walked' listed unknown
      rw [coherent.mem_effectiveFields_iff found walked'] at unknown
      rw [name_of_find? found]
      exact .stray .refl found own listed unknown
  | case4 below name k found opened under =>
    intro _ leads error failed
    have member : name ∈ below := by simpa using under
    obtain rfl := Except.error.inj failed
    exact .cyclic .refl (leads name member)

/-- **The kinds under way do not matter to a success**, provided that they
lead to the kind that is asked for. -/
theorem shapeBelow_ok_iff (coherent : s.Coherent)
    (leads : ∀ under ∈ below, Relation.TransGen s.Extends under name) :
    s.shapeBelow below name = .ok shape ↔ s.shape name = .ok shape := by
  constructor
  · exact coherent.shape_of_shapeBelow below name shape
  · intro resolved
    rcases outcome : s.shapeBelow below name with error | shape'
    · have defined := contains_of_shapeBelow resolved
      exact absurd (coherent.obstructs_of_error below name defined leads error outcome)
        (coherent.inOrder resolved).not_obstructs
    · exact (coherent.shape_of_shapeBelow below name shape' outcome).symm.trans resolved

/-- A kind resolves exactly if it is in order. -/
theorem shape_isOk_iff (coherent : s.Coherent) :
    (∃ shape, s.shape name = .ok shape) ↔ s.InOrder name := by
  constructor
  · intro ⟨shape, resolved⟩
    exact coherent.inOrder resolved
  · intro inOrder
    rcases outcome : s.shape name with error | shape
    · have obstructs := coherent.obstructs_of_error [] name (inOrder.defined .refl) (by simp)
        error outcome
      exact absurd obstructs inOrder.not_obstructs
    · exact ⟨shape, rfl⟩

end Coherent

/-- **Resolution is decided by the declarations.**  After any requests, for
every defined kind: resolution ends, with calls nested at most as deep as
there are kinds.  It succeeds exactly if everything at or above the kind is
defined and on no cycle and has its own build parameters among its fields,
which are the effective ones if it resolves.  Otherwise the error names
something that stands in the way, truthfully.  A success does not depend on
the kinds that are under way: with any of them a shape is the one that the
kind has without, and with those that are under way in a resolution it is
found whenever the kind has one. -/
theorem Reachable.resolution_decided (reachable : s.Reachable) (defined : s.contains kind = true) :
    (WellFounded fun inner outer => s.Asks outer inner) ∧
      (∀ below other, Relation.ReflTransGen s.Asks ([], kind) (below, other) →
        below.length ≤ s.kinds.length) ∧
      ((∃ shape, s.shape kind = .ok shape) ↔ s.InOrder kind) ∧
      (∀ shape, s.shape kind = .ok shape →
        ∀ field, field ∈ Field.names shape.fields ↔ s.HasField kind field) ∧
      (∀ error, s.shape kind = .error error → s.Obstructs kind error) ∧
      (∀ below shape, s.shapeBelow below kind = .ok shape → s.shape kind = .ok shape) ∧
      ∀ start below, Relation.ReflTransGen s.Asks ([], start) (below, kind) →
        ∀ shape, s.shapeBelow below kind = .ok shape ↔ s.shape kind = .ok shape := by
  have coherent := reachable.coherent
  refine ⟨s.asks_wellFounded, fun _ _ => nesting_le, coherent.shape_isOk_iff,
    fun _ resolved _ => coherent.mem_fieldNames_iff resolved, ?_, ?_, ?_⟩
  · exact coherent.obstructs_of_error [] kind defined (by simp)
  · exact fun below => coherent.shape_of_shapeBelow below kind
  · intro start below calls shape
    exact coherent.shapeBelow_ok_iff fun under member => ((underWay_of_asks calls).2 under member).2

theorem supertypesOf_error_iff {error : Error} :
    s.supertypesOf kind = .error error ↔ s.shape kind = .error error := by
  unfold supertypesOf
  rcases s.shape kind with error' | shape
  · constructor
    · exact fun failed => congrArg _ (Except.error.inj failed)
    · exact fun failed => congrArg _ (Except.error.inj failed)
  · exact ⟨nofun, nofun⟩

/-- Two kinds below each other, one below both of them, one that lists a kind
that nobody defines, one with a build parameter that is no field, and one that
inherits its parameter and is finalized. -/
def tangle : Schema :=
  [.define "Egg", .declare "Egg" (.supertypes ["Hen"]),
    .define "Hen", .declare "Hen" (.supertypes ["Egg"]),
    .define "Nest", .declare "Nest" (.supertypes ["Egg", "Hen"]),
    .define "Lost", .declare "Lost" (.supertypes ["Ghost"]),
    .define "Bare", .declare "Bare" (.parameters ["field"]),
    .define "Named", .declare "Named" (.field (.required "name" .string)),
    .declare "Named" (.parameters ["name"]), .define "Badge",
    .declare "Badge" (.supertypes ["Named"]), .validator "Badge"].foldl after .empty

/-- In the tangle resolution ends.  The error for the nest names the egg, which
is its own supertype through the hen; those for the other two kinds that do
not resolve name what is missing; and the badge is in order. -/
theorem tangle_decided :
    tangle.Reachable ∧ tangle.contains "Nest" = true ∧
      tangle.Obstructs "Nest" (.declaration "Egg" .cyclic) ∧ ¬ tangle.InOrder "Nest" ∧
      tangle.Obstructs "Lost" (.unresolved "Ghost" (some "Lost")) ∧
      tangle.Obstructs "Bare" (.declaration "Bare" (.strayParameter "field")) ∧
      tangle.InOrder "Badge" := by
  have reachable : tangle.Reachable := Reachable.empty.foldl _
  have nest : tangle.contains "Nest" = true := by decide +kernel
  have decided := fun kind => @Reachable.resolution_decided tangle kind reachable
  have cycle : tangle.shape "Nest" = .error (.declaration "Egg" .cyclic) :=
    supertypesOf_error_iff.mp (by decide +kernel)
  have missing : tangle.shape "Lost" = .error (.unresolved "Ghost" (some "Lost")) :=
    supertypesOf_error_iff.mp (by decide +kernel)
  have stray : tangle.shape "Bare" = .error (.declaration "Bare" (.strayParameter "field")) :=
    supertypesOf_error_iff.mp (by decide +kernel)
  have badge : (tangle.shape "Badge").isOk = true := by decide +kernel
  obtain ⟨-, -, resolves_iff, -, truthful, -⟩ := decided "Nest" nest
  refine ⟨reachable, nest, truthful _ cycle, fun inOrder => ?_, ?_, ?_, ?_⟩
  · obtain ⟨shape, resolved⟩ := resolves_iff.mpr inOrder
    rw [cycle] at resolved
    cases resolved
  · exact (decided "Lost" (by decide +kernel)).2.2.2.2.1 _ missing
  · exact (decided "Bare" (by decide +kernel)).2.2.2.2.1 _ stray
  · exact (decided "Badge" (by decide +kernel)).2.2.1.mp (exists_ok_of_isOk badge)

end Schema

end NodeSchema
