import NodeSchema.Constraint.Questions
import NodeSchema.Proofs.Bundle.Tables
import NodeSchema.Proofs.Schema.Limits

/-!
# How deeply checks nest

The check of a node leads to checks of its fields, and a field whose
constraint names a kind leads to a further check of a kind while the first is
still under way.  Recursive kinds lead back to themselves, and an absent
field goes on with a value that was not there before.

Which checks of kinds are under way at some moment is described without the
limit that checks carry: a check gets to an alternative when the earlier ones
have been refused, and to an element or a field when the earlier ones have
passed.

* `Schema.Concludes` — the verdict of a check, at whatever limit it returns;
* `Schema.Nested` — the checks of kinds that are under way at some moment;
* `Nested.length_le` — a check that returns never had more of them under way
  than its limit;
* `exists_nested_of_check_eq_none` — a check that reached its limit had;
* `check_returns_iff` — so the limit of a check is the number of checks of
  kinds that may be nested in one another, no more and no less;
* `checks_end_within_depth` — if no default makes a node, every check ends, and
  nests at most one check of a kind more than nodes are nested in the value.
-/

namespace NodeSchema

namespace Constraint

variable {ask : Resolver Option} {depth : Depth}

/-- The search among alternatives gets to one if the earlier ones, when their
checks return, are refused. -/
theorem accepts_reaches {before after : List Constraint} {c : Constraint} {value : Value}
    {found : Bool}
    (earlier : ∀ other ∈ before, ∀ verdict, other.check ask depth value = some verdict →
      verdict ≠ .ok ())
    (returns : accepts ask depth (before ++ c :: after) value = some found) :
    ∃ verdict, c.check ask depth value = some verdict := by
  induction before with
  | nil =>
    rw [List.nil_append, accepts] at returns
    obtain ⟨verdict, checked, -⟩ := Option.bind_eq_some_iff.mp returns
    exact ⟨verdict, checked⟩
  | cons first rest ih =>
    rw [List.cons_append, accepts] at returns
    obtain ⟨verdict, checked, next⟩ := Option.bind_eq_some_iff.mp returns
    cases verdict with
    | ok => exact absurd rfl (earlier first List.mem_cons_self _ checked)
    | error mismatch =>
      exact ih (fun other listed => earlier other (List.mem_cons_of_mem _ listed)) next

/-- A search among alternatives that does not return gets stuck at one. -/
theorem accepts_stuck {alternatives : List Constraint} {value : Value}
    (stuck : accepts ask depth alternatives value = none) :
    ∃ before c after, alternatives = before ++ c :: after ∧
      (∀ other ∈ before, ∃ mismatch, other.check ask depth value = some (.error mismatch)) ∧
      c.check ask depth value = none := by
  induction alternatives with
  | nil => cases stuck
  | cons first rest ih =>
    rw [accepts] at stuck
    rcases checked : first.check ask depth value with - | (mismatch | done)
    · exact ⟨[], first, rest, rfl, fun other listed => absurd listed List.not_mem_nil, checked⟩
    · rw [checked] at stuck
      obtain ⟨before, c, after, rfl, earlier, here⟩ := ih stuck
      refine ⟨first :: before, c, after, rfl, fun other listed => ?_, here⟩
      rcases List.mem_cons.mp listed with rfl | listed
      · exact ⟨mismatch, checked⟩
      · exact earlier other listed
    · rw [checked] at stuck
      cases stuck

/-- The check of elements gets to one if the earlier ones, when their checks
return, pass. -/
theorem checkItems_reaches {check : Value → Option Verdict} {before after : List Value}
    {item : Value} {index : Nat} {verdict : Verdict}
    (earlier : ∀ other ∈ before, ∀ verdict, check other = some verdict → verdict = .ok ())
    (returns : checkItems check index (before ++ item :: after) = some verdict) :
    ∃ verdict, check item = some verdict := by
  induction before generalizing index with
  | nil =>
    obtain ⟨first, checked, -⟩ := Option.bind_eq_some_iff.mp returns
    exact ⟨first, checked⟩
  | cons first rest ih =>
    obtain ⟨answer, checked, next⟩ := Option.bind_eq_some_iff.mp returns
    obtain rfl := earlier first List.mem_cons_self _ checked
    exact ih (fun other listed => earlier other (List.mem_cons_of_mem _ listed)) next

/-- A check of elements that does not return gets stuck at one. -/
theorem checkItems_stuck {check : Value → Option Verdict} {items : List Value} {index : Nat}
    (stuck : checkItems check index items = none) :
    ∃ before item after, items = before ++ item :: after ∧
      (∀ other ∈ before, check other = some (.ok ())) ∧ check item = none := by
  induction items generalizing index with
  | nil => cases stuck
  | cons first rest ih =>
    rw [checkItems] at stuck
    rcases checked : check first with - | (mismatch | done)
    · exact ⟨[], first, rest, rfl, fun other listed => absurd listed List.not_mem_nil, checked⟩
    · rw [checked] at stuck
      cases stuck
    · rw [checked] at stuck
      obtain ⟨before, item, after, rfl, earlier, here⟩ := ih stuck
      refine ⟨first :: before, item, after, rfl, fun other listed => ?_, here⟩
      rcases List.mem_cons.mp listed with rfl | listed
      · exact checked
      · exact earlier other listed

end Constraint

namespace Schema

variable {s : Schema} {depth : Depth} {c : Constraint} {value : Value} {limit : Nat}

/-- The check of fields gets to one if the earlier ones, when their checks
return, pass. -/
theorem checkFields_reaches {ask : Resolver Option} {owner : String} {node : Node}
    {before after : List Field} {field : Field} {verdict : Verdict}
    (earlier : ∀ other ∈ before, ∃ value, other.reading node = some value ∧
      ∀ verdict, other.constraint.check ask depth value = some verdict → verdict = .ok ())
    (read : field.reading node = some value)
    (returns : checkFields ask depth owner node (before ++ field :: after) = some verdict) :
    ∃ verdict, field.constraint.check ask depth value = some verdict := by
  induction before with
  | nil =>
    rw [List.nil_append, checkFields, ← Field.reading, read] at returns
    obtain ⟨first, checked, -⟩ := Option.bind_eq_some_iff.mp returns
    exact ⟨first, checked⟩
  | cons first rest ih =>
    obtain ⟨there, read', passes⟩ := earlier first List.mem_cons_self
    rw [List.cons_append, checkFields, ← Field.reading, read'] at returns
    obtain ⟨answer, checked, next⟩ := Option.bind_eq_some_iff.mp returns
    obtain rfl := passes _ checked
    exact ih (fun other listed => earlier other (List.mem_cons_of_mem _ listed)) next

/-- A check of fields that does not return gets stuck at one. -/
theorem checkFields_stuck {ask : Resolver Option} {owner : String} {node : Node}
    {fields : List Field} (stuck : checkFields ask depth owner node fields = none) :
    ∃ before field after value, fields = before ++ field :: after ∧
      (∀ other ∈ before, ∃ value, other.reading node = some value ∧
        other.constraint.check ask depth value = some (.ok ())) ∧
      field.reading node = some value ∧ field.constraint.check ask depth value = none := by
  induction fields with
  | nil => cases stuck
  | cons first rest ih =>
    rcases read : first.reading node with - | value
    · rw [checkFields, ← Field.reading, read] at stuck
      cases stuck
    rw [checkFields, ← Field.reading, read] at stuck
    dsimp only at stuck
    rcases checked : first.constraint.check ask depth value with - | (mismatch | done)
    · exact ⟨[], first, rest, value, rfl, fun other listed => absurd listed List.not_mem_nil, read,
        checked⟩
    · rw [checked] at stuck
      cases stuck
    · rw [checked] at stuck
      obtain ⟨before, field, after, value', rfl, earlier, here⟩ := ih stuck
      refine ⟨first :: before, field, after, value', rfl, fun other listed => ?_, here⟩
      rcases List.mem_cons.mp listed with rfl | listed
      · exact ⟨value, read, checked⟩
      · exact earlier other listed

/-- A check ends with this verdict, if its limit is high enough. -/
def Concludes (s : Schema) (depth : Depth) (c : Constraint) (value : Value) (verdict : Verdict) :
    Prop :=
  ∃ limit, s.check limit c value depth = some verdict

/-- A check that returns gives the verdict that it ends with. -/
theorem Concludes.unique {verdict verdict' : Verdict}
    (concludes : s.Concludes depth c value verdict)
    (returns : s.check limit c value depth = some verdict') : verdict' = verdict := by
  obtain ⟨other, ends⟩ := concludes
  have high := check_mono (Nat.le_max_left limit other) returns
  have high' := check_mono (Nat.le_max_right limit other) ends
  exact Option.some.inj (high.symm.trans high')

/-- The checks of kinds that are under way at some moment while a value is
checked against a constraint, each nested in the one before it. -/
inductive Nested (s : Schema) (depth : Depth) : Constraint → Value → List Question → Prop
  | idle {c : Constraint} {value : Value} : Nested s depth c value []
  | asked {kind : String} {value : Value} :
      Nested s depth (.kind kind) value [⟨kind, value, depth⟩]
  | alternative {before after : List Constraint} {c : Constraint} {value : Value}
      {questions : List Question}
      (earlier : ∀ other ∈ before, ∃ mismatch, s.Concludes depth other value (.error mismatch))
      (inside : Nested s depth c value questions) :
      Nested s depth (.union (before ++ c :: after)) value questions
  | element {element : Constraint} {before after : List Value} {item : Value}
      {questions : List Question}
      (earlier : ∀ other ∈ before, s.Concludes depth element other (.ok ()))
      (inside : Nested s depth element item questions) :
      Nested s depth (.arrayOf element) (.array (before ++ item :: after)) questions
  | field {kind owner : String} {shape : Shape} {node : Node} {before after : List Field}
      {field : Field} {value : Value} {questions : List Question} (asked : s.contains kind = true)
      (judges : s.Judges depth kind node owner shape)
      (split : shape.fields = before ++ field :: after)
      (earlier : ∀ other ∈ before, ∃ value, other.reading node = some value ∧
        s.Concludes depth other.constraint value (.ok ()))
      (read : field.reading node = some value)
      (inside : Nested s depth field.constraint value questions) :
      Nested s depth (.kind kind) (.node node) (⟨kind, .node node, depth⟩ :: questions)

/-- A check that returns never has more checks of kinds under way than its
limit. -/
theorem Nested.length_le {questions : List Question} (nested : s.Nested depth c value questions) :
    ∀ {limit verdict}, s.check limit c value depth = some verdict → questions.length ≤ limit := by
  induction nested with
  | idle => exact fun _ => Nat.zero_le _
  | @asked kind value =>
    intro limit verdict returns
    rw [check, Constraint.check] at returns
    cases limit with
    | zero => cases returns
    | succ limit => exact Nat.succ_le_succ (Nat.zero_le limit)
  | @alternative before _ _ value _ earlier _ ih =>
    intro limit verdict returns
    rw [check, Constraint.check] at returns
    obtain ⟨found, searched, -⟩ := Option.bind_eq_some_iff.mp returns
    have refused : ∀ other ∈ before, ∀ verdict,
        other.check (s.checkKind limit) depth value = some verdict → verdict ≠ .ok () := by
      intro other listed verdict checked
      obtain ⟨mismatch, concludes⟩ := earlier other listed
      rw [concludes.unique checked]
      intro same
      cases same
    obtain ⟨_, reached⟩ := Constraint.accepts_reaches refused searched
    exact ih reached
  | element earlier _ ih =>
    intro limit verdict returns
    rw [check, Constraint.check] at returns
    obtain ⟨_, reached⟩ := Constraint.checkItems_reaches
      (fun other listed _ checked => (earlier other listed).unique checked) returns
    exact ih reached
  | @field _ _ _ node before _ _ _ _ asked judges split earlier read _ ih =>
    intro limit verdict returns
    rw [check, Constraint.check] at returns
    cases limit with
    | zero => cases returns
    | succ limit =>
      rw [checkKind_judged asked judges, split] at returns
      have passes : ∀ other ∈ before, ∃ value, other.reading node = some value ∧ ∀ verdict,
          other.constraint.check (s.checkKind limit) depth value = some verdict →
            verdict = .ok () := by
        intro other listed
        obtain ⟨value, read, concludes⟩ := earlier other listed
        exact ⟨value, read, fun _ checked => concludes.unique checked⟩
      obtain ⟨_, reached⟩ := checkFields_reaches passes read returns
      exact Nat.succ_le_succ (ih reached)

/-- **Constraints.**  If a check of a kind that reached the limit had too many
checks of kinds under way, so had every check that reached it. -/
theorem exists_nested_of_kinds
    (kinds : ∀ kind value, s.checkKind limit kind value depth = none →
      ∃ questions, s.Nested depth (.kind kind) value questions ∧ limit < questions.length)
    (c : Constraint) : ∀ value, s.check limit c value depth = none →
      ∃ questions, s.Nested depth c value questions ∧ limit < questions.length := by
  induction c using Constraint.induction with
  | kind name =>
    intro value stuck
    rw [check, Constraint.check] at stuck
    exact kinds name value stuck
  | primitive type =>
    intro value stuck
    rw [check, Constraint.check] at stuck
    cases stuck
  | literal wanted =>
    intro value stuck
    rw [check, Constraint.check] at stuck
    cases stuck
  | union alternatives ih =>
    intro value stuck
    rw [check, Constraint.check] at stuck
    have search : Constraint.accepts (s.checkKind limit) depth alternatives value = none := by
      rcases searched : Constraint.accepts (s.checkKind limit) depth alternatives value with
        - | (found | found)
      · rfl
      all_goals rw [searched] at stuck; cases stuck
    obtain ⟨before, c, after, rfl, earlier, here⟩ := Constraint.accepts_stuck search
    obtain ⟨questions, nested, more⟩ := ih c (by simp) value here
    refine ⟨questions, .alternative (fun other listed => ?_) nested, more⟩
    obtain ⟨mismatch, refused⟩ := earlier other listed
    exact ⟨mismatch, limit, refused⟩
  | arrayOf element ih =>
    intro value stuck
    cases value with
    | array items =>
      rw [check, Constraint.check] at stuck
      obtain ⟨before, item, after, rfl, earlier, here⟩ := Constraint.checkItems_stuck stuck
      obtain ⟨questions, nested, more⟩ := ih item here
      exact ⟨questions, .element (fun other listed => ⟨limit, earlier other listed⟩) nested, more⟩
    | null | bool _ | number _ | string _ | node _ =>
      rw [check, Constraint.check] at stuck
      · cases stuck
      · exact fun items => Value.noConfusion

/-- A check that reached its limit had more checks of kinds under way than the
limit allows. -/
theorem exists_nested_of_check_eq_none (limit : Nat) :
    ∀ c value, s.check limit c value depth = none →
      ∃ questions, s.Nested depth c value questions ∧ limit < questions.length := by
  induction limit with
  | zero =>
    refine exists_nested_of_kinds fun kind value _ => ?_
    exact ⟨[⟨kind, value, depth⟩], .asked, Nat.zero_lt_one⟩
  | succ limit ih =>
    refine exists_nested_of_kinds fun kind value stuck => ?_
    obtain ⟨verdict, -, answer⟩ | ⟨node, owner, shape, rfl, asked, judges⟩ :=
      s.checkKind_step depth kind value
    · rw [answer] at stuck
      cases stuck
    rw [checkKind_judged asked judges] at stuck
    obtain ⟨before, field, after, value, split, earlier, read, here⟩ := checkFields_stuck stuck
    obtain ⟨questions, nested, more⟩ := ih field.constraint value here
    refine ⟨_, .field asked judges split (fun other listed => ?_) read nested,
      Nat.succ_lt_succ more⟩
    obtain ⟨value, read, passed⟩ := earlier other listed
    exact ⟨value, read, limit, passed⟩

/-- **The limit counts nested checks.**  A check returns at exactly those
limits that the number of checks of kinds under way never exceeds. -/
theorem check_returns_iff :
    (∃ verdict, s.check limit c value depth = some verdict) ↔
      ∀ questions, s.Nested depth c value questions → questions.length ≤ limit := by
  constructor
  · rintro ⟨verdict, returns⟩ questions nested
    exact nested.length_le returns
  · intro few
    rcases checked : s.check limit c value depth with - | verdict
    · obtain ⟨questions, nested, more⟩ := exists_nested_of_check_eq_none limit c value checked
      exact absurd (few questions nested) (Nat.not_le_of_lt more)
    · exact ⟨verdict, rfl⟩

/-- **Checks end within the depth of the value.**  Take any schema that
requests lead to, whose kinds may refer to themselves and to each other, and
suppose that what a default gives for a node holds no node or is found inside
that node.  Then every check ends with a verdict, which it gives at every limit
above the depth of the value, and at no moment are more checks of kinds nested
in one another than nodes are in the value, and one.  The limit is no more than
a count of them, and the bundled kinds have defaults of this sort. -/
theorem checks_end_within_depth :
    (∀ {s : Schema}, s.Reachable → s.Tame → ∀ c value depth,
      (∃ verdict, ∀ limit, value.depth < limit → s.check limit c value depth = some verdict) ∧
        ∀ questions, s.Nested depth c value questions → questions.length ≤ value.depth + 1) ∧
      (∀ (s : Schema) limit c value depth, (∃ verdict, s.check limit c value depth = some verdict) ↔
        ∀ questions, s.Nested depth c value questions → questions.length ≤ limit) ∧
      Bundle.jsxSchema.Reachable ∧ Bundle.jsxSchema.Tame := by
  refine ⟨fun {s} reachable tame c value depth => ?_, fun s limit c value depth =>
    check_returns_iff, Bundle.jsxSchema_reachable, Bundle.jsxSchema_tame⟩
  obtain ⟨verdict, returns⟩ : ∃ verdict, s.check (value.depth + 1) c value depth = some verdict :=
    tame.check_returns reachable.coherent c (Nat.lt_succ_self _)
  exact ⟨⟨verdict, fun limit enough => check_mono enough returns⟩,
    check_returns_iff.mp ⟨verdict, returns⟩⟩

/-- A tree whose only child is no tree. -/
def twig : Value :=
  .node ((Record.untagged.set "label" (.string "twig")).set "children" (.array [.bool true]))

theorem trees_tame : trees.Tame := by
  refine Tame.empty.foldl _ fun kind declaration listed => ?_
  have empty : (Default.constant (.array [])).Tame :=
    Default.tame_constant (Value.nodeFree_array fun _ listed => nomatch listed)
  simp only [List.mem_cons, List.not_mem_nil, or_false, reduceCtorEq, false_or,
    Request.declare.injEq] at listed
  rcases listed with ⟨rfl, rfl⟩ | ⟨rfl, rfl⟩ | ⟨rfl, rfl⟩
  · exact Field.tame_required _ _
  · exact Field.tame_optional.mpr empty
  · trivial

/-- Trees are checked through trees, and the bound is attained: when the child
of a single node is looked at, two checks are under way. -/
theorem twig_nests :
    trees.Reachable ∧ trees.Tame ∧ twig.depth = 1 ∧
      (∃ verdict, ∀ limit, 1 < limit → trees.check limit (.kind "Tree") twig .deep = some verdict) ∧
      (∀ questions, trees.Nested .deep (.kind "Tree") twig questions → questions.length ≤ 2) ∧
      ∃ questions, trees.Nested .deep (.kind "Tree") twig questions ∧ questions.length = 2 := by
  have reachable : trees.Reachable := Reachable.empty.foldl _
  have single : twig.depth = 1 := by decide +kernel
  obtain ⟨returns, bound⟩ :=
    checks_end_within_depth.1 reachable trees_tame (.kind "Tree") twig .deep
  rw [single] at returns bound
  have stuck : trees.check 1 (.kind "Tree") twig .deep = none := by decide +kernel
  obtain ⟨questions, nested, more⟩ := exists_nested_of_check_eq_none 1 (.kind "Tree") twig stuck
  have two : questions.length = 2 := Nat.le_antisymm (bound questions nested) more
  exact ⟨reachable, trees_tame, single, returns, bound, questions, nested, two⟩

end Schema

end NodeSchema
