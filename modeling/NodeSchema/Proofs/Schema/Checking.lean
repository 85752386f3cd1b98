import NodeSchema.Proofs.Constraint.Acceptance
import NodeSchema.Proofs.Schema.Reachable

/-!
# Checks decide acceptance

A check that returns is right in both directions: it passes exactly the
accepted values, and what it reports of the others is the first failure.  The
argument follows the three functions that call each other: a check against a
constraint is right if the answers about named kinds are, the check of a list
of fields is right if the checks of their constraints are, and the answers
about named kinds are right by induction on the limit.

* `Schema.Decides` — a verdict is right;
* `Faithful.check` — a constraint, given right answers about kinds;
* `checkFields_decides` — the fields of a node;
* `checkKind_step`, `checkKind_decides` — a named kind;
* `check_decides` — every verdict is right;
* `check_decides_acceptance` — the verdict and the relations determine each
  other.
-/

namespace NodeSchema.Schema

/-- A verdict is right: the value is accepted, or rejected for that reason. -/
def Decides (s : Schema) (depth : Depth) (c : Constraint) (value : Value) : Verdict → Prop
  | .ok () => s.Accepts depth c value
  | .error mismatch => s.Rejects depth c value mismatch

/-- A resolver whose answers about kinds are right whenever it gives one. -/
def Faithful (s : Schema) (depth : Depth) (ask : Resolver Option) : Prop :=
  ∀ kind value verdict, ask kind value depth = some verdict →
    s.Decides depth (.kind kind) value verdict

variable {s : Schema} {depth : Depth} {ask : Resolver Option}

/-- A value has a primitive type exactly if the type accepts it. -/
theorem admits_iff {type : Primitive} {value : Value} :
    type.admits value = true ↔ s.Accepts depth (.primitive type) value := by
  constructor
  · intro admitted
    cases type <;> cases value <;> simp only [Primitive.admits, Bool.false_eq_true] at admitted
    · exact .string _
    · exact .boolean _
    · exact .number _
  · intro accepted
    cases accepted <;> rfl

/-- A value equals a literal exactly if the literal accepts it. -/
theorem beq_iff_accepts {wanted value : Value} :
    (wanted == value) = true ↔ s.Accepts depth (.literal wanted) value := by
  constructor
  · exact .literal
  · intro accepted
    cases accepted with
    | literal equal => exact equal

/-- The elements of an array, of which those in `before` have passed. -/
theorem checkItems_decides {element : Constraint} {check : Value → Option Verdict}
    (right : ∀ item verdict, check item = some verdict → s.Decides depth element item verdict)
    {before items : List Value} {verdict : Verdict}
    (passed : ∀ item ∈ before, s.Accepts depth element item)
    (returns : Constraint.checkItems check before.length items = some verdict) :
    s.Decides depth (.arrayOf element) (.array (before ++ items)) verdict := by
  induction items generalizing before with
  | nil =>
    obtain rfl := Option.some.inj returns
    rw [List.append_nil]
    exact Accepts.array passed
  | cons item rest ih =>
    obtain ⟨first, checked, next⟩ := Option.bind_eq_some_iff.mp returns
    have decided := right item first checked
    cases first with
    | ok =>
      -- the element joins those that have passed, and the index moves on
      have passed' : ∀ other ∈ before ++ [item], s.Accepts depth element other := by
        intro other member
        rcases List.mem_append.mp member with earlier | last
        · exact passed other earlier
        · rw [List.mem_singleton.mp last]
          exact decided
      have result := ih passed' (by rw [List.length_append]; exact next)
      rwa [List.append_assoc] at result
    | error cause =>
      obtain rfl := Option.some.inj next
      exact Rejects.element passed decided

/-- Several alternatives, given that the check of each is right: the search
finds one that accepts exactly if there is one. -/
theorem accepts_decides {alternatives : List Constraint} {value : Value} {found : Bool}
    (right : ∀ c ∈ alternatives, ∀ verdict, c.check ask depth value = some verdict →
      s.Decides depth c value verdict)
    (returns : Constraint.accepts ask depth alternatives value = some found) :
    found = true ↔ ∃ c ∈ alternatives, s.Accepts depth c value := by
  induction alternatives with
  | nil =>
    obtain rfl := Option.some.inj returns
    simp
  | cons c rest ih =>
    rw [Constraint.accepts] at returns
    obtain ⟨first, checked, next⟩ := Option.bind_eq_some_iff.mp returns
    have decided := right c List.mem_cons_self first checked
    cases first with
    | ok =>
      obtain rfl := Option.some.inj next
      exact ⟨fun _ => ⟨c, List.mem_cons_self, decided⟩, fun _ => rfl⟩
    | error mismatch =>
      have refuted : ¬ s.Accepts depth c value := Rejects.not_accepts decided
      have others := ih (fun c member => right c (List.mem_cons_of_mem _ member)) next
      rw [others]
      simp [refuted]

/-- **Constraints.** A check is right if the answers about kinds are. -/
theorem Faithful.check (faithful : s.Faithful depth ask) (c : Constraint) :
    ∀ value verdict, c.check ask depth value = some verdict → s.Decides depth c value verdict := by
  induction c using Constraint.induction with
  | kind name =>
    intro value verdict returns
    rw [Constraint.check] at returns
    exact faithful name value verdict returns
  | primitive type =>
    intro value verdict returns
    rw [Constraint.check] at returns
    obtain rfl := Option.some.inj returns
    split
    · next admitted => exact admits_iff.mp admitted
    · next refused =>
      have wrong : ¬ s.Accepts depth (.primitive type) value := mt admits_iff.mpr refused
      exact Rejects.primitive wrong
  | literal wanted =>
    intro value verdict returns
    rw [Constraint.check] at returns
    obtain rfl := Option.some.inj returns
    split
    · next equal => exact Accepts.literal equal
    · next differs =>
      have wrong : ¬ s.Accepts depth (.literal wanted) value := mt beq_iff_accepts.mpr differs
      exact Rejects.literal wrong
  | union alternatives ih =>
    intro value verdict returns
    rw [Constraint.check] at returns
    obtain ⟨found, searched, next⟩ := Option.bind_eq_some_iff.mp returns
    have right := accepts_decides (fun c member => ih c member value) searched
    cases found with
    | true =>
      obtain rfl := Option.some.inj next
      obtain ⟨c, listed, accepted⟩ := right.mp rfl
      exact Accepts.union listed accepted
    | false =>
      obtain rfl := Option.some.inj next
      have wrong : ∀ c ∈ alternatives, ¬ s.Accepts depth c value := by
        intro c listed accepted
        have found := right.mpr ⟨c, listed, accepted⟩
        cases found
      exact Rejects.union wrong
  | arrayOf element ih =>
    intro value verdict returns
    cases value with
    | array items =>
      rw [Constraint.check] at returns
      have none_passed : ∀ item ∈ ([] : List Value), s.Accepts depth element item := by
        intro item member
        cases member
      exact checkItems_decides ih none_passed returns
    | null | bool _ | number _ | string _ | node _ =>
      rw [Constraint.check] at returns
      · obtain rfl := Option.some.inj returns
        exact Rejects.notArray fun items => Value.noConfusion
      · exact fun items => Value.noConfusion

/-- **Fields.** The fields of a node that `owner` judges, of which those in
`before` have passed. -/
theorem checkFields_decides (faithful : s.Faithful depth ask) {kind owner : String} {shape : Shape}
    {node : Node} (asked : s.contains kind = true) (judges : s.Judges depth kind node owner shape)
    {before fields : List Field} (split : shape.fields = before ++ fields)
    (passed : ∀ field ∈ before, s.AcceptsField depth node field) {verdict : Verdict}
    (returns : checkFields ask depth owner node fields = some verdict) :
    s.Decides depth (.kind kind) (.node node) verdict := by
  induction fields generalizing before with
  | nil =>
    obtain rfl := Option.some.inj returns
    rw [List.append_nil] at split
    exact accepts_of_acceptsField asked judges (split ▸ passed)
  | cons field rest ih =>
    rcases read : field.reading node with - | value
    · have step : checkFields ask depth owner node (field :: rest) =
          some (.error (.missingField owner field.name)) := by
        rw [Field.reading] at read
        rw [checkFields, read]
      obtain rfl := Option.some.inj (step.symm.trans returns)
      exact Rejects.missing asked judges split passed read
    · rw [checkFields, ← Field.reading, read] at returns
      obtain ⟨first, checked, next⟩ := Option.bind_eq_some_iff.mp returns
      have decided := faithful.check field.constraint value first checked
      cases first with
      | ok =>
        have passed' : ∀ other ∈ before ++ [field], s.AcceptsField depth node other := by
          intro other member
          rcases List.mem_append.mp member with earlier | last
          · exact passed other earlier
          · rw [List.mem_singleton.mp last]
            exact ⟨value, read, decided⟩
        exact ih (by rw [split, List.append_assoc]; rfl) passed' next
      | error cause =>
        obtain rfl := Option.some.inj next
        exact Rejects.field asked judges split passed read decided

/-- A check of an undefined kind. -/
theorem checkKind_undefined {kind : String} (absent : s.contains kind = false) (limit : Nat)
    (value : Value) : s.checkKind (limit + 1) kind value depth = some (.error (.unresolved kind)) := by
  rw [checkKind.eq_def]
  simp [absent]

/-- A check of a value that is no node. -/
theorem checkKind_notNode {kind : String} {value : Value} (asked : s.contains kind = true)
    (wrong : ∀ node, value ≠ .node node) (limit : Nat) :
    s.checkKind (limit + 1) kind value depth = some (.error (.expected kind value.text)) := by
  rw [checkKind.eq_def]
  cases value with
  | node node => exact absurd rfl (wrong node)
  | null | bool _ | number _ | string _ | array _ => simp [asked]

/-- A check of a node that is refused. -/
theorem checkKind_refused {kind : String} {node : Node} {mismatch : Mismatch}
    (asked : s.contains kind = true) (refused : s.Refuses kind node mismatch) (limit : Nat) :
    s.checkKind (limit + 1) kind (.node node) depth = some (.error mismatch) := by
  cases refused with
  | malformed loose unresolved => simp [checkKind, asked, loose, unresolved]
  | undefinedTag tagged absent => simp [checkKind, asked, tagged, absent]
  | malformedTag tagged defined unresolved => simp [checkKind, asked, tagged, defined, unresolved]
  | notBelow tagged defined resolves wrong =>
    simp [checkKind, asked, tagged, defined, resolves, wrong]

/-- A check of a node that is judged by its fields. -/
theorem checkKind_judged {kind owner : String} {node : Node} {shape : Shape}
    (asked : s.contains kind = true) (judges : s.Judges depth kind node owner shape)
    (limit : Nat) :
    s.checkKind (limit + 1) kind (.node node) depth =
      checkFields (s.checkKind limit) depth owner node shape.fields := by
  cases judges with
  | untagged loose resolves => simp [checkKind, asked, loose, resolves]
  | tagged tagged deep defined resolves below =>
    subst deep
    simp [checkKind, asked, tagged, defined, resolves, below]

/-- A check of a node that is believed by its tag. -/
theorem checkKind_believed {kind tag : String} {node : Node} {shape : Shape}
    (asked : s.contains kind = true) (tagged : node.tag = some tag)
    (defined : s.contains tag = true) (resolves : s.shape tag = .ok shape)
    (below : kind ∈ shape.ancestors) (limit : Nat) :
    s.checkKind (limit + 1) kind (.node node) .shallow = some (.ok ()) := by
  simp [checkKind, asked, tagged, defined, resolves, below]

/-- A node that is asked for as a defined kind is refused, or judged by its
fields, or believed by its tag. -/
theorem refused_or_judged_or_believed (s : Schema) (depth : Depth) (kind : String) (node : Node) :
    (∃ mismatch, s.Refuses kind node mismatch) ∨
      (∃ owner shape, s.Judges depth kind node owner shape) ∨
        depth = .shallow ∧ ∃ tag shape, node.tag = some tag ∧ s.contains tag = true ∧
          s.shape tag = .ok shape ∧ kind ∈ shape.ancestors := by
  rcases tagged : node.tag with - | tag
  · rcases resolves : s.shape kind with error | shape
    · exact .inl ⟨_, .malformed tagged resolves⟩
    · exact .inr (.inl ⟨_, _, .untagged tagged resolves⟩)
  · rcases defined : s.contains tag with - | -
    · exact .inl ⟨_, .undefinedTag tagged defined⟩
    rcases resolves : s.shape tag with error | shape
    · exact .inl ⟨_, .malformedTag tagged defined resolves⟩
    by_cases below : kind ∈ shape.ancestors
    · cases depth with
      | shallow => exact .inr (.inr ⟨rfl, _, _, rfl, defined, resolves, below⟩)
      | deep => exact .inr (.inl ⟨_, _, .tagged tagged rfl defined resolves below⟩)
    · exact .inl ⟨_, .notBelow tagged defined resolves below⟩

/-- **What one check of a kind does.**  Either the verdict is there at any
limit, and right, or a node is judged by its fields. -/
theorem checkKind_step (s : Schema) (depth : Depth) (kind : String) (value : Value) :
    (∃ verdict, s.Decides depth (.kind kind) value verdict ∧
        ∀ limit, s.checkKind (limit + 1) kind value depth = some verdict) ∨
      ∃ node owner shape, value = .node node ∧ s.contains kind = true ∧
        s.Judges depth kind node owner shape := by
  rcases asked : s.contains kind with - | -
  · exact .inl ⟨.error _, Rejects.undefined asked, fun limit =>
      checkKind_undefined asked limit value⟩
  by_cases node : ∃ node, value = .node node
  · obtain ⟨node, rfl⟩ := node
    obtain ⟨mismatch, refused⟩ | ⟨owner, shape, judges⟩ | ⟨rfl, tag, shape, tagged, defined,
      resolves, below⟩ := s.refused_or_judged_or_believed depth kind node
    · exact .inl ⟨.error mismatch, Rejects.refused asked refused, checkKind_refused asked refused⟩
    · exact .inr ⟨node, owner, shape, rfl, rfl, judges⟩
    · exact .inl ⟨.ok (), Accepts.tag asked rfl tagged defined resolves below,
        checkKind_believed asked tagged defined resolves below⟩
  · have wrong : ∀ other, value ≠ .node other := fun other same => node ⟨other, same⟩
    exact .inl ⟨.error _, Rejects.notNode asked wrong, checkKind_notNode asked wrong⟩

/-- **Kinds.** The answers of a schema about its kinds are right. -/
theorem checkKind_decides (limit : Nat) : s.Faithful depth (s.checkKind limit) := by
  induction limit with
  | zero =>
    intro kind value verdict returns
    cases returns
  | succ limit faithful =>
    intro kind value verdict returns
    obtain ⟨verdict', decided, answer⟩ | ⟨node, owner, shape, rfl, asked, judges⟩ :=
      s.checkKind_step depth kind value
    · obtain rfl := Option.some.inj ((answer limit).symm.trans returns)
      exact decided
    · rw [checkKind_judged asked judges] at returns
      have none_passed : ∀ field ∈ ([] : List Field), s.AcceptsField depth node field := by
        intro field member
        cases member
      exact checkFields_decides faithful asked judges rfl none_passed returns

/-- **Checks.** The verdict of a check that returns is right. -/
theorem check_decides {limit : Nat} {c : Constraint} {value : Value} {verdict : Verdict}
    (returns : s.check limit c value depth = some verdict) : s.Decides depth c value verdict :=
  (checkKind_decides limit).check c value verdict returns

/-- **Checks decide acceptance.** Whenever a check returns, it passes exactly
the accepted values, and reports a mismatch exactly if that is why and where
the value is rejected. -/
theorem check_decides_acceptance {limit : Nat} {c : Constraint} {value : Value} {verdict : Verdict}
    (returns : s.check limit c value depth = some verdict) :
    (verdict = .ok () ↔ s.Accepts depth c value) ∧
      ∀ mismatch, verdict = .error mismatch ↔ s.Rejects depth c value mismatch := by
  have decided := check_decides returns
  cases verdict with
  | ok =>
    refine ⟨⟨fun _ => decided, fun _ => rfl⟩, fun mismatch => ⟨fun same => ?_, ?_⟩⟩
    · cases same
    · intro rejected
      exact absurd decided rejected.not_accepts
  | error reason =>
    have rejected : s.Rejects depth c value reason := decided
    refine ⟨⟨fun same => ?_, fun accepted => absurd accepted rejected.not_accepts⟩, ?_⟩
    · cases same
    intro mismatch
    constructor
    · intro same
      rw [← Except.error.inj same]
      exact rejected
    · intro rejected'
      rw [rejected.unique rejected']

/-- Trees whose nodes have a label and children, the latter empty unless
they are given. -/
def trees : Schema :=
  [.define "Tree", .declare "Tree" (.field (.required "label" .string)),
    .declare "Tree" (.field (.optional "children" (.arrayOf (.kind "Tree")) (.constant (.array [])))),
    .define "Leaf", .declare "Leaf" (.supertypes ["Tree"])].foldl after .empty

/-- A tree whose root and second child have no tag; the second grandchild is
no tree. -/
def spoiltTree : Value :=
  .node (Record.untagged.setAll [("label", .string "root"), ("children", .array [
    .node ((Record.tagged "Leaf").set "label" (.string "first")),
    .node (Record.untagged.setAll [("label", .string "second"), ("children", .array [
      .node ((Record.tagged "Leaf").set "label" (.string "third")), .bool true])])])])

/-- The report leads to the first thing that is wrong, and nothing before it
is. -/
theorem spoiltTree_rejected :
    trees.check 3 (.kind "Tree") spoiltTree .deep =
        some (.error (.field "Tree" "children"
          (.element 1 (.field "Tree" "children" (.element 1 (.expected "Tree" "true")))))) ∧
      ¬ trees.Accepts .deep (.kind "Tree") spoiltTree ∧
      trees.Rejects .deep (.kind "Tree") spoiltTree (.field "Tree" "children"
        (.element 1 (.field "Tree" "children" (.element 1 (.expected "Tree" "true"))))) := by
  have returns : trees.check 3 (.kind "Tree") spoiltTree .deep =
      some (.error (.field "Tree" "children"
        (.element 1 (.field "Tree" "children" (.element 1 (.expected "Tree" "true")))))) := by
    decide +kernel
  have right := check_decides_acceptance returns
  refine ⟨returns, fun accepted => ?_, (right.2 _).mp rfl⟩
  cases right.1.mpr accepted

end NodeSchema.Schema

