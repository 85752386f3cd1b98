import NodeSchema.Proofs.Schema.Checking
import NodeSchema.Proofs.Schema.WellFormed

/-!
# Which alternatives accept null

A field whose constraint offers `null` twice is refused when it is declared.
What is counted there is a matter of spelling: the literals `null` among the
alternatives, and among the alternatives of those that are unions.  Nothing but
that literal accepts `null`, in whatever state a schema is, so the count is also
the number of alternatives that do.

The count does not look under arrays.  There a union may offer `null` as often
as it likes, and the field is taken.

* `Constraint.leaves` — alternatives, counted through nested unions;
* `Constraint.Contains`, `Constraint.Offers` — the parts of a constraint, and
  those of them that are reached without passing an array;
* `Schema.Carries` — the fields that a schema declares, holds or resolves;
* `countP_leaves_admitsNull` — how many alternatives accept `null`;
* `Reachable.null_admitted_once` — at most one outside of arrays;
* `emptyShelf_admits_null_twice` — but not within them.
-/

namespace NodeSchema

namespace Constraint

mutual

/-- What a constraint chooses between in the end: its alternatives, with
those of a nested union in its place. -/
def leaves : Constraint → List Constraint
  | union alternatives => leavesAmong alternatives
  | c => [c]

/-- The leaves of several constraints. -/
def leavesAmong : List Constraint → List Constraint
  | [] => []
  | c :: rest => leaves c ++ leavesAmong rest

end

/-- A constraint is `part`, or is made of one that contains it. -/
inductive Contains (part : Constraint) : Constraint → Prop
  | here : Contains part part
  | union {alternatives : List Constraint} {c : Constraint} (listed : c ∈ alternatives)
      (inside : Contains part c) : Contains part (.union alternatives)
  | arrayOf {element : Constraint} (inside : Contains part element) :
      Contains part (.arrayOf element)

/-- A constraint is `part`, or is a union with an alternative that offers it. -/
inductive Offers (part : Constraint) : Constraint → Prop
  | here : Offers part part
  | union {alternatives : List Constraint} {c : Constraint} (listed : c ∈ alternatives)
      (inside : Offers part c) : Offers part (.union alternatives)

theorem nullAlternatives_le_among {c : Constraint} {cs : List Constraint} (listed : c ∈ cs) :
    c.nullAlternatives ≤ nullAlternativesAmong cs := by
  induction cs with
  | nil => cases listed
  | cons d rest ih =>
    rw [nullAlternativesAmong]
    rcases List.mem_cons.mp listed with rfl | later
    · exact Nat.le_add_right _ _
    · exact Nat.le_add_left_of_le (ih later)

/-- What is offered does not offer `null` more often than the whole. -/
theorem Offers.nullAlternatives_le {part c : Constraint} (offers : part.Offers c) :
    part.nullAlternatives ≤ c.nullAlternatives := by
  induction offers with
  | here => exact Nat.le_refl _
  | union listed _ ih => exact Nat.le_trans ih (nullAlternatives_le_among listed)

end Constraint

namespace Kind

/-- After a field is added, a constraint that fields have is one from before
or does not offer `null` twice. -/
theorem addField_constraint {k : Kind} {added f : Field}
    (member : f ∈ (k.addField added).1.fields) :
    (∃ before ∈ k.fields, before.constraint = f.constraint) ∨
      f.constraint.nullAlternatives ≤ 1 := by
  unfold addField at member
  split at member
  · exact .inl ⟨f, member, rfl⟩
  next few =>
  split at member
  · next previous found =>
    -- a field that is declared again keeps its constraint
    split at member
    · rcases Field.mem_put member with rfl | before
      · exact .inl ⟨previous, List.mem_of_find?_eq_some found, rfl⟩
      · exact .inl ⟨f, before, rfl⟩
    · exact .inl ⟨f, member, rfl⟩
  · rcases Field.mem_put member with rfl | before
    · exact .inr (Nat.le_of_not_lt few)
    · exact .inl ⟨f, before, rfl⟩

/-- No field of the kind offers `null` twice. -/
def NullOnce (k : Kind) : Prop := ∀ f ∈ k.fields, f.constraint.nullAlternatives ≤ 1

/-- A declaration, taken or refused, brings in no field that offers `null`
twice. -/
theorem NullOnce.declare {k : Kind} (once : k.NullOnce) (declaration : Declaration) :
    (k.declare declaration).1.NullOnce := by
  unfold Kind.declare
  split
  · exact once
  · cases declaration with
    | supertypes names =>
      intro f own
      exact once f (addSupertypes_fields k names ▸ own)
    | parameters names =>
      intro f own
      exact once f ((setParameters_same k names).2 ▸ own)
    | field field =>
      intro f own
      rcases addField_constraint own with ⟨before, there, same⟩ | few
      · exact same ▸ once before there
      · exact few

end Kind

namespace Schema

variable {s : Schema}

/-- A field that a kind declares, that is in a shape which a kind holds, or in
one that is made for a name. -/
inductive Carries (s : Schema) (f : Field) : Prop
  | declared {k : Kind} (listed : k ∈ s.kinds) (own : f ∈ k.fields)
  | held {k : Kind} {shape : Shape} (listed : k ∈ s.kinds) (holds : k.shape = some shape)
      (own : f ∈ shape.fields)
  | resolved {name : String} {shape : Shape} (resolves : s.shape name = .ok shape)
      (own : f ∈ shape.fields)

/-- Whether a check of `null` returns and accepts it. -/
def admitsNull (s : Schema) (limit : Nat) (depth : Depth) (c : Constraint) : Bool :=
  (s.check limit c .null depth).any Except.isOk

/-- `null` is a node of no kind, whatever a schema knows of the kind. -/
theorem checkKind_null (limit : Nat) (depth : Depth) (name : String) :
    ∃ mismatch, s.checkKind (limit + 1) name .null depth = some (.error mismatch) := by
  cases asked : s.contains name with
  | true => exact ⟨_, checkKind_notNode asked (fun _ => Value.noConfusion) limit⟩
  | false => exact ⟨_, checkKind_undefined asked limit .null⟩

theorem admitsNull_kind (limit : Nat) (depth : Depth) (name : String) :
    s.admitsNull limit depth (.kind name) = false := by
  rw [admitsNull, check, Constraint.check.eq_def]
  cases limit with
  | zero => rfl
  | succ limit =>
    obtain ⟨mismatch, refused⟩ := checkKind_null (s := s) limit depth name
    exact congrArg (Option.any Except.isOk) refused

/-- A check of `null` returns as soon as one kind may be checked. -/
theorem check_null_returns (limit : Nat) (depth : Depth) (c : Constraint) :
    ∃ verdict, s.check (limit + 1) c .null depth = some verdict := by
  refine c.check_returns .null fun kind inner within => ?_
  cases within with
  | here =>
    obtain ⟨mismatch, refused⟩ := checkKind_null (s := s) limit depth kind
    exact ⟨_, refused⟩

/-- **Counting nulls.**  As many alternatives accept `null` as are the literal
`null`, counted through nested unions, in every schema and with any limit. -/
theorem countP_leaves_admitsNull (limit : Nat) (depth : Depth) (c : Constraint) :
    c.leaves.countP (s.admitsNull limit depth) = c.nullAlternatives := by
  induction c using Constraint.induction with
  | kind name =>
    change [Constraint.kind name].countP _ = 0
    rw [List.countP_singleton, admitsNull_kind]
    rfl
  | primitive type => cases type <;> rfl
  | literal wanted => cases wanted <;> rfl
  | union cs ih =>
    rw [Constraint.leaves, Constraint.nullAlternatives]
    induction cs with
    | nil => rfl
    | cons c rest among =>
      rw [Constraint.leavesAmong, List.countP_append, Constraint.nullAlternativesAmong,
        ih c List.mem_cons_self, among fun d listed => ih d (List.mem_cons_of_mem c listed)]
  | arrayOf element _ => rfl

/-- In a schema that requests lead to, no declared field offers `null` twice. -/
theorem Reachable.nullOnce (reachable : s.Reachable) : ∀ k ∈ s.kinds, k.NullOnce := by
  refine reachable.forall_kinds (p := Kind.NullOnce) ?_ ?_ ?_
  · intro name f own
    cases own
  · exact fun k declaration once => once.declare declaration
  · exact fun k => Iff.rfl

/-- What is held or inherited has been declared by some kind. -/
theorem Reachable.declared_of_carries (reachable : s.Reachable) {f : Field}
    (carries : s.Carries f) : ∃ k ∈ s.kinds, f ∈ k.fields := by
  cases carries with
  | declared listed own => exact ⟨_, listed, own⟩
  | held listed holds own =>
    have found := find?_of_mem reachable.nodup_names listed
    have resolves : s.shape _ = .ok _ := shapeBelow_of_held found holds
    exact reachable.coherent.declares_field resolves f own
  | resolved resolves own => exact reachable.coherent.declares_field resolves f own

/-- **Null is admitted once.**  Whether a constraint accepts `null` is always
decided, and of the alternatives of a union as many accept it as are the
literal.  In the constraint of a field at most one does, if the union is not
under an array. -/
theorem Reachable.null_admitted_once (reachable : s.Reachable) {f : Field} (carries : s.Carries f) :
    (∀ c limit depth, ∃ verdict, s.check (limit + 1) c .null depth = some verdict) ∧
    (∀ cs limit depth, (Constraint.leavesAmong cs).countP (s.admitsNull limit depth) =
      Constraint.nullAlternativesAmong cs) ∧
    ∀ cs, (Constraint.union cs).Offers f.constraint → ∀ limit depth,
      (Constraint.leavesAmong cs).countP (s.admitsNull limit depth) ≤ 1 := by
  obtain ⟨k, listed, own⟩ := reachable.declared_of_carries carries
  have counted : ∀ cs limit depth, (Constraint.leavesAmong cs).countP (s.admitsNull limit depth) =
      Constraint.nullAlternativesAmong cs :=
    fun cs limit depth => countP_leaves_admitsNull limit depth (.union cs)
  refine ⟨fun c limit depth => check_null_returns limit depth c, counted,
    fun cs offers limit depth => ?_⟩
  calc (Constraint.leavesAmong cs).countP (s.admitsNull limit depth)
      = (Constraint.union cs).nullAlternatives := counted cs limit depth
    _ ≤ f.constraint.nullAlternatives := offers.nullAlternatives_le
    _ ≤ 1 := reachable.nullOnce k listed f own

/-- A row of books and gaps, or the name of one, or nothing. -/
def row : Field :=
  .required "row" (.union [.arrayOf (.union [.kind "Book", .null]), .union [.string, .null]])

/-- Racks are shelves. -/
def shelves : Schema :=
  [.define "Shelf", .declare "Shelf" (.field row), .define "Rack",
    .declare "Rack" (.supertypes ["Shelf"])].foldl after .empty

/-- The row that a rack inherits may be left out in one way, and so may each
book in it. -/
theorem shelves_admit_null_once :
    (∃ shape, shelves.shape "Rack" = .ok shape ∧ row ∈ shape.fields) ∧
    (Constraint.leavesAmong [.kind "Book", .null]).countP (shelves.admitsNull 2 .deep) = 1 ∧
    (Constraint.leavesAmong [.arrayOf (.union [.kind "Book", .null]),
      .union [.string, .null]]).countP (shelves.admitsNull 2 .deep) ≤ 1 := by
  have reachable : shelves.Reachable := Reachable.empty.foldl _
  have shelf : shelves.shape "Shelf" = .ok ⟨[row], ["Shelf"], none⟩ :=
    reachable.coherent.shape_ok_iff.mpr ⟨⟨"Shelf", [], [row], none, none⟩, [], rfl, rfl, rfl⟩
  have rack : shelves.shape "Rack" = .ok ⟨[row], ["Rack", "Shelf"], none⟩ := by
    refine reachable.coherent.shape_ok_iff.mpr ⟨⟨"Rack", ["Shelf"], [], none, none⟩,
      [⟨[row], ["Shelf"], none⟩], rfl, ?_, rfl⟩
    rw [List.mapM_cons, shelf]
    rfl
  obtain ⟨-, counted, once⟩ := reachable.null_admitted_once (.resolved rack List.mem_cons_self)
  exact ⟨⟨_, rack, List.mem_cons_self⟩, counted _ 2 .deep, once _ .here 2 .deep⟩

/-- A row of gaps of two sorts. -/
def gaps : Field := .required "row" (.arrayOf (.union [.null, .null]))

/-- A shelf of gaps. -/
def emptyShelf : Schema :=
  [.define "Shelf", .declare "Shelf" (.field gaps)].foldl after .empty

/-- **Nobody looks under arrays.**  A union that offers `null` twice is refused,
but not if it stands under an array. -/
theorem emptyShelf_admits_null_twice :
    ((Kind.fresh "Shelf").declare (.field (.required "row" (.union [.null, .null])))).2 =
      .error (.ambiguousNull "row" "null | null") ∧
    ((Kind.fresh "Shelf").declare (.field gaps)).2 = .ok () ∧
    emptyShelf.Reachable ∧ emptyShelf.Carries gaps ∧
    (Constraint.union [.null, .null]).Contains gaps.constraint ∧
    ∀ limit depth,
      (Constraint.leavesAmong [.null, .null]).countP (emptyShelf.admitsNull limit depth) = 2 := by
  refine ⟨rfl, rfl, Reachable.empty.foldl _, ?_, .arrayOf .here, fun limit depth => rfl⟩
  exact .declared (k := ⟨"Shelf", [], [gaps], none, none⟩) List.mem_cons_self List.mem_cons_self

end Schema

end NodeSchema
