import NodeSchema.Description.Basic
import NodeSchema.Proofs.Schema.Answers

/-!
# How far a declaration reaches

A request that creates a kind or declares something on it changes that kind
and no other.  Resolution of a kind looks at the kinds at and above it.  So
what was declared shows in the kind itself and in the kinds below it, and
nowhere else.

This includes kinds that do not resolve.  A name that is missing above one
kind is not made good by the creation of another, and a cycle that is closed
elsewhere does not get in the way of an error that was there before.

* `Request.subject?` — the kind that a request is a declaration on;
* `SameAbove` — two schemas that find the same kinds at and above a kind, and
  `SameAbove.reaches_iff` — so that the same kinds are above it in both;
* `sameAbove_of_requests` — declarations on kinds that are not above it;
* `AgreeOn` — all questions about one kind have the same answers;
* `Reachable.declarations_stay_below` — declarations do not show elsewhere.
-/

namespace NodeSchema.Schema

/-- The kind that a request creates or declares something on, if it is a
request of this sort. -/
def Request.subject? : Request → Option String
  | .define kind | .declare kind _ => some kind
  | .builder _ | .validator _ | .build _ _ _ | .fromFields _ _ _ | .isKind _ _ _ => none

/-- Two schemas find the same kinds at and above a kind. -/
def SameAbove (s t : Schema) (kind : String) : Prop :=
  ∀ other, s.Reaches kind other → t.find? other = s.find? other

/-- All questions about one kind have the same answers in two schemas, errors
included. -/
structure AgreeOn (s t : Schema) (kind : String) : Prop where
  shape : t.shape kind = s.shape kind
  fieldNames : t.fieldNames kind = s.fieldNames kind
  traversalFields : t.traversalFields kind = s.traversalFields kind
  supertypesOf : t.supertypesOf kind = s.supertypesOf kind
  describe : t.describe kind = s.describe kind
  builder : (t.builder kind).2.2 = (s.builder kind).2.2

variable {s t : Schema} {kind other : String}

/-- A declaration changes its own kind only, whether it is taken or
refused. -/
theorem find?_after_of_subject {request : Request} {declared : String}
    (subject : request.subject? = some declared) (differs : other ≠ declared) :
    (s.after request).find? other = s.find? other := by
  cases request with
  | define kind =>
    obtain rfl := Option.some.inj subject
    rw [after, find?_define, if_neg differs, Option.or_none]
  | declare kind declaration =>
    obtain rfl := Option.some.inj subject
    rw [after, find?_declare]
    simp only [if_neg differs, Option.map_id']
  | builder | validator | build | fromFields | isKind => cases subject

namespace SameAbove

/-- The same kinds are above a kind in two schemas that find the same there.
Were it otherwise, the first step at which the ways up part would be from a
kind that both find alike. -/
theorem reaches_iff (same : s.SameAbove t kind) : t.Reaches kind other ↔ s.Reaches kind other := by
  constructor
  · intro reach
    induction reach with
    | refl => exact .refl
    | tail _ up ih =>
      obtain ⟨k, found, listed⟩ := up
      exact ih.tail ⟨k, same _ ih ▸ found, listed⟩
  · intro reach
    induction reach with
    | refl => exact .refl
    | tail before up ih =>
      obtain ⟨k, found, listed⟩ := up
      exact ih.tail ⟨k, (same _ before).trans found, listed⟩

theorem refl (s : Schema) (kind : String) : s.SameAbove s kind := fun _ _ => rfl

theorem trans {u : Schema} (first : s.SameAbove t kind) (rest : t.SameAbove u kind) :
    s.SameAbove u kind :=
  fun other reach => (rest other (first.reaches_iff.mpr reach)).trans (first other reach)

/-- Coherent schemas that find the same kinds at and above a kind agree on
it. -/
theorem agreeOn (same : s.SameAbove t kind) (coherent : s.Coherent) (coherent' : t.Coherent) :
    s.AgreeOn t kind := by
  have shape : t.shape kind = s.shape kind := shapeBelow_congr [] kind same
  have found : t.find? kind = s.find? kind := same kind .refl
  exact {
    shape := shape
    fieldNames := by rw [Schema.fieldNames, Schema.fieldNames, shape]
    traversalFields := by rw [Schema.traversalFields, Schema.traversalFields, shape]
    supertypesOf := by rw [Schema.supertypesOf, Schema.supertypesOf, shape]
    describe := by rw [Schema.describe, Schema.describe, shape, found]
    builder := by
      rw [coherent'.builder_answer, coherent.builder_answer, builderOf, builderOf, shape] }

end SameAbove

/-- **The step lemma.**  A declaration on a kind that is not above another
leaves everything above that one as it was. -/
theorem sameAbove_after {request : Request} {declared : String}
    (subject : request.subject? = some declared) (apart : ¬ s.Reaches kind declared) :
    s.SameAbove (s.after request) kind := by
  intro other reach
  apply find?_after_of_subject subject
  rintro rfl
  exact apart reach

/-- **The run lemma.**  So do declarations in a row.  None of them puts its
kind above the other, so that it is enough to look at the beginning. -/
theorem sameAbove_of_requests {requests : List Request}
    (apart : ∀ request ∈ requests,
      ∃ declared, request.subject? = some declared ∧ ¬ s.Reaches kind declared) :
    s.SameAbove (requests.foldl after s) kind := by
  induction requests generalizing s with
  | nil => exact .refl s kind
  | cons request rest ih =>
    obtain ⟨declared, subject, away⟩ := apart request List.mem_cons_self
    have first : s.SameAbove (s.after request) kind := sameAbove_after subject away
    refine first.trans (ih fun later listed => ?_)
    obtain ⟨declared, subject, away⟩ := apart later (List.mem_cons_of_mem request listed)
    exact ⟨declared, subject, mt first.reaches_iff.mp away⟩

/-- **Declarations stay below.**  After any requests, take a kind and further
requests, each of which creates a kind or makes a declaration on it, and is
taken or refused.  If none of these kinds is the first one or is above it,
the first one has the same shape as before, or fails to resolve for the same
reason; its fields, supertypes and description are the same, and so is its
builder or the reason why it has none. -/
theorem Reachable.declarations_stay_below (reachable : s.Reachable) {requests : List Request}
    (apart : ∀ request ∈ requests,
      ∃ declared, request.subject? = some declared ∧ ¬ s.Reaches kind declared) :
    s.AgreeOn (requests.foldl after s) kind :=
  (sameAbove_of_requests apart).agreeOn reachable.coherent (reachable.foldl requests).coherent

/-- Names that contain the supertypes of all kinds among them contain whatever
is above one of them. -/
theorem mem_of_reaches {names : List String}
    (closed : ∀ name ∈ names, ((s.find? name).elim [] (·.supertypes)) ⊆ names)
    (start : kind ∈ names) (reach : s.Reaches kind other) : other ∈ names := by
  induction reach with
  | refl => exact start
  | tail _ up ih =>
    obtain ⟨k, found, listed⟩ := up
    have within := closed _ ih
    rw [found] at within
    exact within listed

/-- Ducks are birds.  Frogs have a supertype that is not there, and odd and
even things are supertypes of each other. -/
def pond : Schema :=
  [.define "Bird", .declare "Bird" (.parameters ["wings"]),
    .declare "Bird" (.field (.required "wings" .number)),
    .define "Duck", .declare "Duck" (.supertypes ["Bird"]),
    .define "Frog", .declare "Frog" (.supertypes ["Ghost"]),
    .define "Odd", .declare "Odd" (.supertypes ["Even"]),
    .define "Even", .declare "Even" (.supertypes ["Odd"])].foldl after .empty

/-- Moss is put below ducks and odd things, and below itself in vain, and
frogs get a field and the missing supertype. -/
def overgrowth : List Request :=
  [.define "Moss", .declare "Moss" (.supertypes ["Duck", "Odd", "Moss"]),
    .declare "Frog" (.field (.required "wings" .string)), .define "Ghost",
    .declare "Ghost" (.supertypes ["Duck", "Moss"])]

/-- Ducks can be built as before, and odd things still fail on the cycle that
they are on. -/
theorem overgrowth_below :
    pond.Reachable ∧
      (∀ request ∈ overgrowth,
        ∃ declared, request.subject? = some declared ∧ ¬ pond.Reaches "Duck" declared) ∧
      (∀ request ∈ overgrowth,
        ∃ declared, request.subject? = some declared ∧ ¬ pond.Reaches "Odd" declared) ∧
      (pond.builder "Duck").2.2.isOk = true ∧
      pond.AgreeOn (overgrowth.foldl after pond) "Duck" ∧
      (overgrowth.foldl after pond).describe "Odd" = .error (.declaration "Odd" .cyclic) := by
  have reachable : pond.Reachable := Reachable.empty.foldl _
  have duck : ∀ declared ∉ ["Duck", "Bird"], ¬ pond.Reaches "Duck" declared :=
    fun _ outside => mt (mem_of_reaches (by decide +kernel) List.mem_cons_self) outside
  have odd : ∀ declared ∉ ["Odd", "Even"], ¬ pond.Reaches "Odd" declared :=
    fun _ outside => mt (mem_of_reaches (by decide +kernel) List.mem_cons_self) outside
  have fromDuck : ∀ request ∈ overgrowth,
      ∃ declared, request.subject? = some declared ∧ ¬ pond.Reaches "Duck" declared := by
    simp [overgrowth, Request.subject?, duck]
  have fromOdd : ∀ request ∈ overgrowth,
      ∃ declared, request.subject? = some declared ∧ ¬ pond.Reaches "Odd" declared := by
    simp [overgrowth, Request.subject?, odd]
  have cycle : pond.describe "Odd" = .error (.declaration "Odd" .cyclic) := by decide +kernel
  refine ⟨reachable, fromDuck, fromOdd, by decide +kernel,
    reachable.declarations_stay_below fromDuck, ?_⟩
  rw [(reachable.declarations_stay_below fromOdd).describe, cycle]

end NodeSchema.Schema
