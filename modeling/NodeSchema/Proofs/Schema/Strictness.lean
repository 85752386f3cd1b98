import NodeSchema.Proofs.Schema.Answers
import NodeSchema.Proofs.Schema.Limits

/-!
# Deep checks are stricter

A deep check looks into nodes that a shallow check believes by their tags, so
it accepts less.  The two may still go different ways: what the shallow check
accepts as the first of several alternatives, the deep check may refuse as
that one and accept as a later one, and then the shallow check goes on to
elements that the deep check never saw.  So the argument is not about the
checks but about what they accept.

* `Accepts.shallow` — what is accepted deeply is accepted shallowly;
* `deep_is_stricter` — so a deep check that passes leaves a shallow check, if
  it returns, no choice;
* `shallow_may_not_return` — though it need not return.
-/

namespace NodeSchema.Schema

variable {s : Schema} {depth : Depth} {c : Constraint} {value : Value}

/-- A node that is accepted as a kind by its tag is accepted shallowly. -/
theorem Judges.accepts_shallow {kind owner : String} {node : Node} {shape : Shape}
    (asked : s.contains kind = true) (judges : s.Judges depth kind node owner shape)
    (fields : ∀ f ∈ shape.fields, s.AcceptsField .shallow node f) :
    s.Accepts .shallow (.kind kind) (.node node) := by
  cases judges with
  | untagged loose resolves => exact accepts_of_acceptsField asked (.untagged loose resolves) fields
  | tagged tagged _ defined resolves below => exact .tag asked rfl tagged defined resolves below

/-- **What is accepted deeply is accepted shallowly.**  A node without a tag is
judged by the same fields, whose values are accepted shallowly in their turn,
and of a node with a tag the tag is enough. -/
theorem Accepts.shallow (accepted : s.Accepts depth c value) : s.Accepts .shallow c value := by
  induction accepted with
  | string text => exact .string text
  | boolean holds => exact .boolean holds
  | number value => exact .number value
  | literal equal => exact .literal equal
  | union listed _ ih => exact .union listed ih
  | array _ ih => exact .array ih
  | fields asked judges filled _ ih =>
    refine judges.accepts_shallow asked fun f listed => ?_
    obtain ⟨value, read⟩ := Option.isSome_iff_exists.mp (filled f listed)
    exact ⟨value, read, ih f listed value read⟩
  | tag asked _ tagged defined resolves below =>
    exact .tag asked rfl tagged defined resolves below

/-- A shallow check that returns passes if a deep one does. -/
theorem check_shallow_of_deep {limit limit' : Nat} {verdict : Verdict}
    (deep : s.check limit c value .deep = some (.ok ()))
    (returns : s.check limit' c value .shallow = some verdict) : verdict = .ok () := by
  have accepted : s.Accepts .deep c value := check_decides deep
  exact (check_decides_acceptance returns).1.mpr accepted.shallow

/-- What `isKind` answers of a kind that has a validator: the verdict of the
shallow check. -/
theorem Coherent.isKind_answer (coherent : s.Coherent) {kind : String}
    (handed : (s.validator kind).2.2 = .ok ()) (limit : Nat) (value : Value) :
    (s.isKind limit kind value).2 =
      (s.checkKind limit kind value .shallow).map fun verdict => verdict.toBool := by
  have alike : s.Alike (s.validator kind).1 := Settled.alike coherent (s.settled_validator kind)
  unfold isKind
  rcases requested : s.validator kind with ⟨t, events, error | done⟩
  · rw [requested] at handed
    cases handed
  · rw [requested] at alike
    dsimp only
    rw [alike.checkKind]

/-- **Deep checks are stricter.**  In any schema, if the deep check of a value
against a constraint passes, the shallow check passes whenever it returns.  In
particular, if the validator of a kind accepts a value deeply at some time
before the next declaration, then the value is of that kind. -/
theorem deep_is_stricter :
    (∀ (s : Schema) c value limit limit' verdict,
      s.check limit c value .deep = some (.ok ()) →
        s.check limit' c value .shallow = some verdict → verdict = .ok ()) ∧
      ∀ {s t : Schema} {kind : String}, s.Reachable → (s.validator kind).2.2 = .ok () → s.Later t →
        ∀ value limit limit' answer, t.checkKind limit kind value .deep = some (.ok ()) →
          (t.isKind limit' kind value).2 = some answer → answer = true := by
  constructor
  · intro s c value limit limit' verdict deep returns
    exact check_shallow_of_deep deep returns
  · intro s t kind reachable handed later value limit limit' answer deep answers
    have coherent := later.coherent reachable.coherent
    have handed : (t.validator kind).2.2 = .ok () := by
      rw [coherent.validator_answer, (later.alike reachable.coherent).shape]
      rwa [reachable.coherent.validator_answer] at handed
    rw [coherent.isKind_answer handed] at answers
    obtain ⟨verdict, returns, same⟩ := Option.map_eq_some_iff.mp answers
    have accepted : t.Accepts .deep (.kind kind) value := checkKind_decides limit kind value _ deep
    cases verdict with
    | ok => exact same.symm
    | error mismatch =>
      have rejected := checkKind_decides limit' kind value _ returns
      exact absurd accepted.shallow rejected.not_accepts

/-- A leaf without a label. -/
def hollow : Value := .node (Record.tagged "Leaf")

/-- A leaf with one. -/
def green : Value := .node ((Record.tagged "Leaf").set "label" (.string "green"))

/-- A leaf without a label is refused by the deep check as a leaf, and the
check goes on to a further alternative; the shallow check takes it as a leaf.
A leaf that a validator accepts deeply is of the kind. -/
theorem hollow_believed :
    let either : Constraint := .union [.kind "Leaf", .literal hollow]
    let t := (trees.validator "Tree").1
    trees.check 1 (.kind "Leaf") hollow .deep = some (.error (.missingField "Leaf" "label")) ∧
      trees.check 1 either hollow .deep = some (.ok ()) ∧
      trees.check 1 either hollow .shallow = some (.ok ()) ∧
      trees.Reachable ∧ (trees.validator "Tree").2.2 = .ok () ∧
      t.checkKind 1 "Tree" green .deep = some (.ok ()) ∧
      (t.isKind 1 "Tree" green).2 = some true := by
  intro either t
  have refused : trees.check 1 (.kind "Leaf") hollow .deep =
      some (.error (.missingField "Leaf" "label")) := by decide +kernel
  have deep : trees.check 1 either hollow .deep = some (.ok ()) := by decide +kernel
  have shallow : (trees.check 1 either hollow .shallow).isSome = true := by decide +kernel
  have reachable : trees.Reachable := Reachable.empty.foldl _
  have handed : (trees.validator "Tree").2.2 = .ok () := by decide +kernel
  have valid : t.checkKind 1 "Tree" green .deep = some (.ok ()) := by decide +kernel
  have answers : (t.isKind 1 "Tree" green).2.isSome = true := by decide +kernel
  obtain ⟨general, validators⟩ := deep_is_stricter
  obtain ⟨verdict, returns⟩ := Option.isSome_iff_exists.mp shallow
  obtain rfl := general trees either hollow 1 1 verdict deep returns
  obtain ⟨answer, answered⟩ := Option.isSome_iff_exists.mp answers
  have later : trees.Later t := .step .refl (.validator "Tree") rfl
  obtain rfl := validators reachable handed later green 1 1 answer valid answered
  exact ⟨refused, deep, returns, reachable, handed, valid, answered⟩

/-- A mirror that is spoilt, before one whose field is left out. -/
def mirrors : Value :=
  .array [.node ((Record.tagged "Mirror").set "self" .null), .node Record.untagged]

/-- **A shallow check need not return** where the deep one passes.  The deep
check refuses the first mirror and never gets to the second, which keeps the
shallow check from ending. -/
theorem shallow_may_not_return (limit : Nat) :
    mirror.check 2 (.union [.arrayOf (.kind "Mirror"), .literal mirrors]) mirrors .deep =
        some (.ok ()) ∧
      mirror.check limit (.union [.arrayOf (.kind "Mirror"), .literal mirrors]) mirrors .shallow =
        none := by
  refine ⟨by decide +kernel, ?_⟩
  have defined : mirror.contains "Mirror" = true := contains_of_shapeBelow mirror_shape
  have stuck : mirror.checkKind limit "Mirror" (.node Record.untagged) .shallow = none :=
    mirror_stuck rfl (.untagged rfl mirror_shape) limit
  have items : (Constraint.arrayOf (.kind "Mirror")).check (mirror.checkKind limit) .shallow
      mirrors = none := by
    rw [mirrors, Constraint.check]
    cases limit with
    | zero => rfl
    | succ limit =>
      rw [Constraint.checkItems, Constraint.check,
        checkKind_believed defined rfl defined mirror_shape List.mem_cons_self]
      dsimp only [Option.bind_eq_bind, Option.bind_some]
      rw [Constraint.checkItems, Constraint.check, stuck]
      rfl
  rw [check, Constraint.check, Constraint.accepts, items]
  rfl

end NodeSchema.Schema
