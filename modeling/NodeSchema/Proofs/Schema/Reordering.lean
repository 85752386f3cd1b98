import NodeSchema.Description.Basic
import NodeSchema.Proofs.Schema.Answers
import NodeSchema.Proofs.Schema.Growth

/-!
# Kinds can be declared in any order

A schema is declared clause by clause: each names a kind, which is created if
it is not there, and makes one declaration on it.  What a clause does depends
on its kind alone, as the clauses before it have left it, and it changes no
other.  So clauses about different kinds can change places, over any
distance; only the order of the kinds shows that they did.

* `Schema.take`, `Schema.takeAll`, `Schema.answers` — clauses with their
  answers;
* `Reordered` — the clauses about each kind are the same, in the same order;
* `takeAll_project` — a kind and the answers about it come from its own
  clauses;
* `Concur` — schemas that cannot be told apart kind by kind, and
  `concur_of_find?` — such are those that find the same kinds;
* `declared_in_any_order` — reordered clauses get the same answers and lead
  to schemas that concur.
-/

namespace NodeSchema.Schema

/-- A kind and a declaration on it. -/
structure Clause where
  kind : String
  declaration : Declaration

/-- Creates the kind of a clause unless it is there, and makes the
declaration. -/
def take (s : Schema) (c : Clause) : Schema × Except Error Unit :=
  (s.define c.kind).1.declare c.kind c.declaration

/-- The schema after clauses, any of which may have been refused. -/
def takeAll (s : Schema) (clauses : List Clause) : Schema :=
  clauses.foldl (fun s c => (s.take c).1) s

/-- Clauses with their answers, each taken after those before it. -/
def answers (s : Schema) : List Clause → List (Clause × Except Error Unit)
  | [] => []
  | c :: rest => (c, (s.take c).2) :: (s.take c).1.answers rest

/-- The clauses about each kind are the same, in the same order. -/
def Reordered (first second : List Clause) : Prop :=
  ∀ kind, first.filter (·.kind == kind) = second.filter (·.kind == kind)

/-- Schemas that answer all questions about single kinds alike, and define
the same kinds, perhaps in another order. -/
structure Concur (s t : Schema) : Prop where
  names : s.names.Perm t.names
  shape : ∀ kind, t.shape kind = s.shape kind
  describe : ∀ kind, t.describe kind = s.describe kind
  isSupertypeOf : ∀ sup sub, t.isSupertypeOf sup sub = s.isSupertypeOf sup sub
  fieldValue : ∀ node name, t.fieldValue node name = s.fieldValue node name
  checkKind : ∀ limit kind value depth,
    t.checkKind limit kind value depth = s.checkKind limit kind value depth
  builder : ∀ kind, (t.builder kind).2.2 = (s.builder kind).2.2
  build : ∀ limit kind arguments,
    (t.build limit kind arguments).2 = (s.build limit kind arguments).2
  fromFields : ∀ limit kind source,
    (t.fromFields limit kind source).2 = (s.fromFields limit kind source).2

variable {s t : Schema} {kind : String}

theorem reachable_take (reachable : s.Reachable) (c : Clause) : (s.take c).1.Reachable :=
  (reachable.step (.define c.kind)).step (.declare c.kind c.declaration)

theorem reachable_takeAll (reachable : s.Reachable) (clauses : List Clause) :
    (s.takeAll clauses).Reachable := by
  induction clauses generalizing s with
  | nil => exact reachable
  | cons c rest ih => exact ih (reachable_take reachable c)

/-- A clause changes its own kind only. -/
theorem find?_take_other (s : Schema) {c : Clause} (other : kind ≠ c.kind) :
    (s.take c).1.find? kind = s.find? kind := by
  have created : (s.define c.kind).1.find? kind = s.find? kind := by
    rw [find?_define, if_neg other, Option.or_none]
  rw [take, find?_declare, created]
  simp only [if_neg other, Option.map_id']

/-- The kind of a clause after it was created. -/
theorem find?_define_self (s : Schema) (kind : String) :
    (s.define kind).1.find? kind = some ((s.find? kind).getD (Kind.fresh kind)) := by
  rw [find?_define, if_pos rfl]
  cases s.find? kind <;> rfl

/-- What a clause does to its kind and what it answers, by the kind as it
was found. -/
theorem take_self (s : Schema) (c : Clause) :
    let declared := ((s.find? c.kind).getD (Kind.fresh c.kind)).declare c.declaration
    (s.take c).1.find? c.kind = some declared.1 ∧
      (s.take c).2 = declared.2.mapError (.declaration c.kind) := by
  have created := s.find?_define_self c.kind
  constructor
  · rw [take, find?_declare, created, Option.map_some, if_pos rfl]
  · rw [take, declare, created]

/-- **One kind at a time.**  What becomes of a kind, and what its clauses
answer, is what comes of these clauses alone, in any schema with the same
kind to begin with. -/
theorem takeAll_project (clauses : List Clause) (same : s.find? kind = t.find? kind) :
    (s.takeAll clauses).find? kind = (t.takeAll (clauses.filter (·.kind == kind))).find? kind ∧
      (s.answers clauses).filter (·.1.kind == kind) =
        t.answers (clauses.filter (·.kind == kind)) := by
  induction clauses generalizing s t with
  | nil => exact ⟨same, rfl⟩
  | cons c rest ih =>
    by_cases about : c.kind = kind
    · obtain ⟨foundS, answerS⟩ := s.take_self c
      obtain ⟨foundT, answerT⟩ := t.take_self c
      have start : s.find? c.kind = t.find? c.kind := by rw [about, same]
      have next : (s.take c).1.find? kind = (t.take c).1.find? kind := by
        rw [← about, foundS, foundT, start]
      have answer : (s.take c).2 = (t.take c).2 := by rw [answerS, answerT, start]
      obtain ⟨found, answered⟩ := ih next
      rw [List.filter_cons_of_pos (by simpa using about)]
      refine ⟨found, ?_⟩
      rw [answers, answers, List.filter_cons_of_pos (by simpa using about), answered, answer]
    · have next : (s.take c).1.find? kind = t.find? kind := by
        rw [s.find?_take_other (Ne.symm about), same]
      obtain ⟨found, answered⟩ := ih next
      rw [List.filter_cons_of_neg (by simpa using about)]
      refine ⟨found, ?_⟩
      rw [answers, List.filter_cons_of_neg (by simpa using about), answered]

/-- Reordered clauses make the same of every kind and get the same
answers. -/
theorem Reordered.project {first second : List Clause} (reordered : Reordered first second)
    (s : Schema) (kind : String) :
    (s.takeAll second).find? kind = (s.takeAll first).find? kind ∧
      (s.answers second).filter (·.1.kind == kind) =
        (s.answers first).filter (·.1.kind == kind) := by
  have same : s.find? kind = s.find? kind := rfl
  obtain ⟨found, answered⟩ := takeAll_project first same
  obtain ⟨found', answered'⟩ := takeAll_project second same
  rw [found, found', answered, answered', reordered kind]
  exact ⟨rfl, rfl⟩

/-- Schemas that find the same kinds resolve them alike. -/
theorem alike_of_find? (same : ∀ name, t.find? name = s.find? name) : s.Alike t where
  contains name := by rw [contains, contains, same]
  shape name := shapeBelow_congr [] name fun other _ => same other

theorem perm_names (distinct : s.names.Nodup) (distinct' : t.names.Nodup)
    (same : ∀ name, t.contains name = s.contains name) : s.names.Perm t.names := by
  rw [List.perm_ext_iff_of_nodup distinct distinct']
  intro name
  rw [mem_names_iff, mem_names_iff, same]

/-- **Schemas that find the same kinds concur.** -/
theorem concur_of_find? (reachable : s.Reachable) (reachable' : t.Reachable)
    (same : ∀ name, t.find? name = s.find? name) : s.Concur t := by
  have alike := alike_of_find? same
  have coherent := reachable.coherent
  have coherent' := reachable'.coherent
  exact {
    names := perm_names reachable.nodup_names reachable'.nodup_names alike.contains
    shape := alike.shape
    describe kind := by rw [Schema.describe, Schema.describe, alike.shape, same]
    isSupertypeOf := alike.isSupertypeOf
    fieldValue := alike.fieldValue
    checkKind limit kind value depth := by rw [alike.checkKind]
    builder kind := by rw [coherent.builder_answer, coherent'.builder_answer, alike.builderOf]
    build := alike.build_answer coherent coherent'
    fromFields := alike.fromFields_answer coherent coherent' }

/-- **Kinds can be declared in any order.**  Take clauses on the empty
schema in two orders that differ in how the clauses about different kinds are
mixed.  Each clause gets the same answer both times, and the two schemas
concur on every kind: on its shape or the error that it has instead, on its
description, supertypes and field values, on all checks against it, and on
its builder and everything that is built with it. -/
theorem declared_in_any_order {first second : List Clause} (reordered : Reordered first second) :
    (∀ kind, (empty.answers second).filter (·.1.kind == kind) =
        (empty.answers first).filter (·.1.kind == kind)) ∧
      (empty.takeAll first).Concur (empty.takeAll second) := by
  refine ⟨fun kind => (reordered.project empty kind).2, ?_⟩
  have one : (empty.takeAll first).Reachable := reachable_takeAll .empty first
  have other : (empty.takeAll second).Reachable := reachable_takeAll .empty second
  exact concur_of_find? one other fun kind => (reordered.project empty kind).1

/-- Leaves are declared before trees, which they refer to, and trees name
themselves as a supertype in vain.  Odd and even things are supertypes of
each other. -/
def leavesFirst : List Clause :=
  [⟨"Leaf", .supertypes ["Tree"]⟩, ⟨"Leaf", .parameters ["size"]⟩,
    ⟨"Odd", .supertypes ["Even"]⟩, ⟨"Leaf", .field (.required "size" .number)⟩,
    ⟨"Even", .supertypes ["Odd"]⟩,
    ⟨"Tree", .field (.optional "label" .string (.constant (.string "none")))⟩,
    ⟨"Tree", .supertypes ["Tree"]⟩]

/-- The same with trees first. -/
def treesFirst : List Clause :=
  [⟨"Tree", .field (.optional "label" .string (.constant (.string "none")))⟩,
    ⟨"Even", .supertypes ["Odd"]⟩, ⟨"Odd", .supertypes ["Even"]⟩,
    ⟨"Tree", .supertypes ["Tree"]⟩, ⟨"Leaf", .supertypes ["Tree"]⟩,
    ⟨"Leaf", .parameters ["size"]⟩, ⟨"Leaf", .field (.required "size" .number)⟩]

theorem leavesFirst_reordered : Reordered leavesFirst treesFirst := by
  intro kind
  by_cases leaf : "Leaf" = kind
  · subst leaf
    rfl
  by_cases tree : "Tree" = kind
  · subst tree
    rfl
  by_cases odd : "Odd" = kind
  · subst odd
    rfl
  by_cases even : "Even" = kind
  · subst even
    rfl
  simp [leavesFirst, treesFirst, leaf, tree, odd, even]

/-- Both orders refuse the tree above trees, find the same cycle and make the
same leaves, but name the kinds in their own order. -/
theorem trees_and_leaves_in_any_order :
    Reordered leavesFirst treesFirst ∧
      (empty.answers leavesFirst).map (·.2.isOk) = [true, true, true, true, true, true, false] ∧
      (empty.answers treesFirst).filter (·.1.kind == "Tree") =
        (empty.answers leavesFirst).filter (·.1.kind == "Tree") ∧
      (empty.takeAll leavesFirst).names = ["Leaf", "Odd", "Even", "Tree"] ∧
      (empty.takeAll treesFirst).names = ["Tree", "Even", "Odd", "Leaf"] ∧
      (empty.takeAll leavesFirst).Concur (empty.takeAll treesFirst) ∧
      ((empty.takeAll leavesFirst).shape "Leaf").isOk = true ∧
      (empty.takeAll treesFirst).describe "Odd" = .error (.declaration "Odd" .cyclic) := by
  have reordered := leavesFirst_reordered
  obtain ⟨answered, concur⟩ := declared_in_any_order reordered
  have cycle :
      (empty.takeAll leavesFirst).describe "Odd" = .error (.declaration "Odd" .cyclic) := by
    decide +kernel
  refine ⟨reordered, by decide +kernel, answered "Tree", by decide +kernel, by decide +kernel,
    concur, by decide +kernel, ?_⟩
  rw [concur.describe, cycle]

end NodeSchema.Schema
