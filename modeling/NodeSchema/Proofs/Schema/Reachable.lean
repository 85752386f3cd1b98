import NodeSchema.Proofs.Schema.Coherence

/-!
# Schemas that requests lead to

A schema starts empty and changes by requests: kinds are defined and
declared, and a request for a builder or a validator finalizes.  Building a
node and judging a value start with such a request and change nothing else.

* `Schema.build`, `Schema.fromFields`, `Schema.isKind` — the requests that
  finalize a kind and go on with it;
* `Schema.Reachable` — the schemas that requests lead to from the empty one,
  in any order and whether they succeed or fail;
* `after_cases` — what a request can do;
* `Reachable.coherent` — every such schema is coherent;
* `Reachable.held_shapes_do_not_show` — so the shapes that are held cannot
  be told from the shapes that the declarations give.
-/

namespace NodeSchema.Schema

/-- Finalizes a kind and makes a node of it from positional arguments. -/
def build (s : Schema) (limit : Nat) (kind : String) (arguments : List Value) :
    Schema × Option (Except Error Node) :=
  match s.builder kind with
  | (s, _, .ok builder) => (s, builder.build s limit arguments)
  | (s, _, .error error) => (s, some (.error error))

/-- Finalizes a kind and makes a node of it from the fields of another. -/
def fromFields (s : Schema) (limit : Nat) (kind : String) (source : Node) :
    Schema × Option (Except Error Node) :=
  match s.builder kind with
  | (s, _, .ok builder) => (s, builder.fromFields s limit source)
  | (s, _, .error error) => (s, some (.error error))

/-- Finalizes a kind and judges whether a value is of it; no value is of a
kind that does not resolve. -/
def isKind (s : Schema) (limit : Nat) (kind : String) (value : Value) : Schema × Option Bool :=
  match s.validator kind with
  | (s, _, .ok ()) =>
    (s, (s.checkKind limit kind value .shallow).map fun verdict => verdict.toBool)
  | (s, _, .error _) => (s, some false)

/-- A request that may change a schema. -/
inductive Request where
  | define (kind : String)
  | declare (kind : String) (declaration : Declaration)
  | builder (kind : String)
  | validator (kind : String)
  | build (limit : Nat) (kind : String) (arguments : List Value)
  | fromFields (limit : Nat) (kind : String) (source : Node)
  | isKind (limit : Nat) (kind : String) (value : Value)

/-- The schema after a request, which may have failed. -/
def after (s : Schema) : Request → Schema
  | .define kind => (s.define kind).1
  | .declare kind declaration => (s.declare kind declaration).1
  | .builder kind => (s.builder kind).1
  | .validator kind => (s.validator kind).1
  | .build limit kind arguments => (s.build limit kind arguments).1
  | .fromFields limit kind source => (s.fromFields limit kind source).1
  | .isKind limit kind value => (s.isKind limit kind value).1

/-- The schemas that requests lead to from the empty one. -/
inductive Reachable : Schema → Prop
  | empty : Reachable .empty
  | step {s : Schema} (before : Reachable s) (request : Request) : Reachable (s.after request)

variable {s : Schema}

/-- A request that finalizes either finalizes the kind or changes nothing. -/
def Settled (s t : Schema) (kind : String) : Prop :=
  t = s ∨ ∃ events, s.finalize kind = .ok (t, events)

theorem settled_builder (s : Schema) (kind : String) : s.Settled (s.builder kind).1 kind := by
  unfold builder
  split
  · exact .inl rfl
  · rename_i t events finalized
    exact .inr ⟨events, finalized⟩

theorem settled_validator (s : Schema) (kind : String) : s.Settled (s.validator kind).1 kind := by
  unfold validator
  split
  · exact .inl rfl
  · rename_i t events finalized
    exact .inr ⟨events, finalized⟩

theorem build_fst (s : Schema) (limit : Nat) (kind : String) (arguments : List Value) :
    (s.build limit kind arguments).1 = (s.builder kind).1 := by
  unfold build
  rcases s.builder kind with ⟨t, events, error | builder⟩ <;> rfl

theorem fromFields_fst (s : Schema) (limit : Nat) (kind : String) (source : Node) :
    (s.fromFields limit kind source).1 = (s.builder kind).1 := by
  unfold fromFields
  rcases s.builder kind with ⟨t, events, error | builder⟩ <;> rfl

theorem isKind_fst (s : Schema) (limit : Nat) (kind : String) (value : Value) :
    (s.isKind limit kind value).1 = (s.validator kind).1 := by
  unfold isKind
  rcases s.validator kind with ⟨t, events, error | done⟩ <;> rfl

theorem Coherent.settled {t : Schema} {kind : String} (coherent : s.Coherent)
    (h : s.Settled t kind) : t.Coherent := by
  rcases h with rfl | ⟨events, finalized⟩
  · exact coherent
  · exact coherent.finalize finalized

/-- **What a request can do.**  It defines a kind, or makes a declaration, or
finalizes. -/
theorem after_cases (s : Schema) (request : Request) :
    (∃ kind, request = .define kind) ∨
      (∃ kind declaration, request = .declare kind declaration) ∨
      ∃ kind, s.Settled (s.after request) kind := by
  cases request with
  | define kind => exact .inl ⟨kind, rfl⟩
  | declare kind declaration => exact .inr (.inl ⟨kind, declaration, rfl⟩)
  | builder kind => exact .inr (.inr ⟨kind, s.settled_builder kind⟩)
  | validator kind => exact .inr (.inr ⟨kind, s.settled_validator kind⟩)
  | build limit kind arguments =>
    have same : s.after (.build limit kind arguments) = (s.builder kind).1 :=
      s.build_fst limit kind arguments
    exact .inr (.inr ⟨kind, same ▸ s.settled_builder kind⟩)
  | fromFields limit kind source =>
    have same : s.after (.fromFields limit kind source) = (s.builder kind).1 :=
      s.fromFields_fst limit kind source
    exact .inr (.inr ⟨kind, same ▸ s.settled_builder kind⟩)
  | isKind limit kind value =>
    have same : s.after (.isKind limit kind value) = (s.validator kind).1 :=
      s.isKind_fst limit kind value
    exact .inr (.inr ⟨kind, same ▸ s.settled_validator kind⟩)

/-- **The step lemma.**  Every request keeps a schema coherent. -/
theorem Coherent.after (coherent : s.Coherent) (request : Request) :
    (s.after request).Coherent := by
  rcases s.after_cases request with ⟨kind, rfl⟩ | ⟨kind, declaration, rfl⟩ | ⟨kind, settled⟩
  · exact coherent.define kind
  · exact coherent.declare kind declaration
  · exact coherent.settled settled

/-- **The run lemma.**  Every schema that requests lead to is coherent. -/
theorem Reachable.coherent (reachable : s.Reachable) : s.Coherent := by
  induction reachable with
  | empty => exact .empty
  | step _ request ih => exact ih.after request

/-- **Held shapes do not show.**  After any requests: the supertypes of a
finalized kind are defined and finalized, it is on no supertype cycle, and
the shape that it holds is the one that the declarations of the whole schema
give it.  So resolution answers alike, with a shape or an error, whether the
shapes that are held are used or not. -/
theorem Reachable.held_shapes_do_not_show (reachable : s.Reachable) :
    (∀ name k shape, s.find? name = some k → k.shape = some shape →
      (∀ base ∈ k.supertypes, s.contains base = true ∧ s.isFinalized base = true) ∧
        ¬ Relation.TransGen s.Extends name name ∧ s.declared.shape name = .ok shape) ∧
      ∀ name, s.shape name = s.declared.shape name := by
  have coherent := reachable.coherent
  refine ⟨fun name k shape found held => ⟨?_, ?_, coherent.held found held⟩,
    fun name => (coherent.shape_declared name).symm⟩
  · intro base listed
    have final : s.isFinalized base = true :=
      coherent.closed (isFinalized_iff.mpr ⟨k, shape, found, held⟩) ⟨k, found, listed⟩
    exact ⟨contains_of_isFinalized final, final⟩
  · exact (grounded_of_declared (coherent.held found held)).not_cycle

theorem Reachable.foldl (reachable : s.Reachable) (requests : List Request) :
    (requests.foldl after s).Reachable := by
  induction requests generalizing s with
  | nil => exact reachable
  | cons request rest ih => exact ih (reachable.step request)

/-- A diamond that is finalized between declarations, one of which comes too
late, with a kind below it that names a supertype in vain. -/
def diamond : Schema :=
  [.define "Node", .declare "Node" (.field (.required "id" .string)),
    .define "Left", .declare "Left" (.supertypes ["Node"]),
    .define "Right", .declare "Right" (.supertypes ["Node"]),
    .define "Both", .declare "Both" (.supertypes ["Left", "Right"]), .validator "Both",
    .declare "Node" (.field (.required "late" .number)),
    .define "Lost", .declare "Lost" (.supertypes ["Both", "Ghost"])].foldl after .empty

/-- The tip of the diamond holds the shape that the declarations give it,
and the kind below it fails alike with and without held shapes. -/
theorem diamond_held_shapes :
    diamond.Reachable ∧
      (∃ k shape, diamond.find? "Both" = some k ∧ k.shape = some shape ∧
        (∀ base ∈ k.supertypes, diamond.contains base = true ∧ diamond.isFinalized base = true) ∧
        ¬ Relation.TransGen diamond.Extends "Both" "Both" ∧
        diamond.declared.shape "Both" = .ok shape) ∧
      diamond.isFinalized "Lost" = false ∧
      diamond.shape "Lost" = diamond.declared.shape "Lost" := by
  have reachable : diamond.Reachable := Reachable.empty.foldl _
  have finalized : diamond.isFinalized "Both" = true := by decide +kernel
  obtain ⟨k, shape, found, held⟩ := isFinalized_iff.mp finalized
  have conclusion := reachable.held_shapes_do_not_show
  exact ⟨reachable, ⟨k, shape, found, held, conclusion.1 "Both" k shape found held⟩, by decide +kernel,
    conclusion.2 "Lost"⟩

end NodeSchema.Schema
