import NodeSchema.Proofs.Schema.Checking
import NodeSchema.Proofs.Schema.Tame

/-!
# What the limit of a check means

A check that returns gives the verdict that it gives at every higher limit,
so the limit only decides whether there is a verdict.  If no default makes a
node there is one as soon as the limit exceeds the depth of the value: each
check of a kind that is nested in another is about a value that is less deep.

* `check_mono` — a higher limit keeps every verdict;
* `Tame.check_returns` — a limit above the depth of the value is enough;
* `mirror_never_returns` — a default that hands back the node itself is a
  reason for a check not to end.
-/

namespace NodeSchema

namespace Constraint

variable {ask ask' : Resolver Option} {depth : Depth}

theorem checkItems_mono {check check' : Value → Option Verdict}
    (more : ∀ item verdict, check item = some verdict → check' item = some verdict)
    {items : List Value} {index : Nat} {verdict : Verdict}
    (returns : checkItems check index items = some verdict) :
    checkItems check' index items = some verdict := by
  induction items generalizing index with
  | nil => exact returns
  | cons item rest ih =>
    obtain ⟨first, checked, next⟩ := Option.bind_eq_some_iff.mp returns
    refine Option.bind_eq_some_iff.mpr ⟨first, more item first checked, ?_⟩
    cases first with
    | ok => exact ih next
    | error cause => exact next

theorem accepts_mono {alternatives : List Constraint} {value : Value} {found : Bool}
    (more : ∀ c ∈ alternatives, ∀ verdict, c.check ask depth value = some verdict →
      c.check ask' depth value = some verdict)
    (returns : accepts ask depth alternatives value = some found) :
    accepts ask' depth alternatives value = some found := by
  induction alternatives with
  | nil => exact returns
  | cons c rest ih =>
    rw [accepts] at returns ⊢
    obtain ⟨first, checked, next⟩ := Option.bind_eq_some_iff.mp returns
    refine Option.bind_eq_some_iff.mpr ⟨first, more c List.mem_cons_self first checked, ?_⟩
    cases first with
    | ok => exact next
    | error cause => exact ih (fun c listed => more c (List.mem_cons_of_mem _ listed)) next

/-- If a resolver answers whenever another does, and alike, so do the checks
that ask it. -/
theorem check_mono (more : ∀ kind value verdict, ask kind value depth = some verdict →
    ask' kind value depth = some verdict) (c : Constraint) :
    ∀ value verdict, c.check ask depth value = some verdict →
      c.check ask' depth value = some verdict := by
  induction c using Constraint.induction with
  | kind name =>
    intro value verdict returns
    rw [check] at returns ⊢
    exact more name value verdict returns
  | primitive type =>
    intro value verdict returns
    rw [check] at returns ⊢
    exact returns
  | literal wanted =>
    intro value verdict returns
    rw [check] at returns ⊢
    exact returns
  | union alternatives ih =>
    intro value verdict returns
    rw [check] at returns ⊢
    obtain ⟨found, searched, next⟩ := Option.bind_eq_some_iff.mp returns
    refine Option.bind_eq_some_iff.mpr ⟨found, ?_, next⟩
    exact accepts_mono (fun c listed => ih c listed value) searched
  | arrayOf element ih =>
    intro value verdict returns
    cases value with
    | array items =>
      rw [check] at returns ⊢
      exact checkItems_mono ih returns
    | null | bool _ | number _ | string _ | node _ =>
      rw [check] at returns ⊢
      all_goals first | exact returns | exact fun items => Value.noConfusion

theorem checkItems_returns {check : Value → Option Verdict} {items : List Value}
    (each : ∀ item ∈ items, ∃ verdict, check item = some verdict) (index : Nat) :
    ∃ verdict, checkItems check index items = some verdict := by
  induction items generalizing index with
  | nil => exact ⟨_, rfl⟩
  | cons item rest ih =>
    obtain ⟨first, checked⟩ := each item List.mem_cons_self
    cases first with
    | ok =>
      obtain ⟨verdict, returns⟩ :=
        ih (fun other listed => each other (List.mem_cons_of_mem item listed)) (index + 1)
      exact ⟨verdict, Option.bind_eq_some_iff.mpr ⟨_, checked, returns⟩⟩
    | error cause => exact ⟨_, Option.bind_eq_some_iff.mpr ⟨_, checked, rfl⟩⟩

theorem accepts_returns {alternatives : List Constraint} {value : Value}
    (each : ∀ c ∈ alternatives, ∃ verdict, c.check ask depth value = some verdict) :
    ∃ found, accepts ask depth alternatives value = some found := by
  induction alternatives with
  | nil => exact ⟨_, rfl⟩
  | cons c rest ih =>
    rw [accepts]
    obtain ⟨first, checked⟩ := each c List.mem_cons_self
    cases first with
    | ok => exact ⟨_, Option.bind_eq_some_iff.mpr ⟨_, checked, rfl⟩⟩
    | error cause =>
      obtain ⟨found, returns⟩ := ih fun c listed => each c (List.mem_cons_of_mem _ listed)
      exact ⟨found, Option.bind_eq_some_iff.mpr ⟨_, checked, returns⟩⟩

/-- A check returns if the resolver answers about everything that occurs in
the value. -/
theorem check_returns (c : Constraint) :
    ∀ value, (∀ kind inner, inner.Occurs value → ∃ verdict, ask kind inner depth = some verdict) →
      ∃ verdict, c.check ask depth value = some verdict := by
  induction c using Constraint.induction with
  | kind name =>
    intro value answers
    rw [check]
    exact answers name value .here
  | primitive type =>
    intro value answers
    rw [check]
    exact ⟨_, rfl⟩
  | literal wanted =>
    intro value answers
    rw [check]
    exact ⟨_, rfl⟩
  | union alternatives ih =>
    intro value answers
    rw [check]
    obtain ⟨found, returns⟩ := accepts_returns fun c listed => ih c listed value answers
    cases found with
    | true => exact ⟨_, Option.bind_eq_some_iff.mpr ⟨_, returns, rfl⟩⟩
    | false => exact ⟨_, Option.bind_eq_some_iff.mpr ⟨_, returns, rfl⟩⟩
  | arrayOf element ih =>
    intro value answers
    cases value with
    | array items =>
      rw [check]
      refine checkItems_returns (fun item listed => ih item ?_) 0
      intro kind inner within
      exact answers kind inner (.item listed within)
    | null | bool _ | number _ | string _ | node _ =>
      rw [check]
      all_goals first | exact ⟨_, rfl⟩ | exact fun items => Value.noConfusion

end Constraint

namespace Schema

variable {s : Schema} {depth : Depth}

theorem checkFields_mono {ask ask' : Resolver Option}
    (more : ∀ kind value verdict, ask kind value depth = some verdict →
      ask' kind value depth = some verdict)
    {kind : String} {node : Node} {fields : List Field} {verdict : Verdict}
    (returns : checkFields ask depth kind node fields = some verdict) :
    checkFields ask' depth kind node fields = some verdict := by
  induction fields with
  | nil => exact returns
  | cons field rest ih =>
    rcases read : field.reading node with - | value
    · rw [checkFields, ← Field.reading, read] at returns ⊢
      exact returns
    · rw [checkFields, ← Field.reading, read] at returns ⊢
      obtain ⟨first, checked, next⟩ := Option.bind_eq_some_iff.mp returns
      refine Option.bind_eq_some_iff.mpr
        ⟨first, Constraint.check_mono more field.constraint value first checked, ?_⟩
      cases first with
      | ok => exact ih next
      | error cause => exact next

/-- One more check of a kind that may be nested changes no verdict. -/
theorem checkKind_succ (limit : Nat) :
    ∀ kind value verdict, s.checkKind limit kind value depth = some verdict →
      s.checkKind (limit + 1) kind value depth = some verdict := by
  induction limit with
  | zero =>
    intro kind value verdict returns
    cases returns
  | succ limit ih =>
    intro kind value verdict returns
    obtain ⟨verdict', -, answer⟩ | ⟨node, owner, shape, rfl, asked, judges⟩ :=
      s.checkKind_step depth kind value
    · rw [answer] at returns ⊢
      exact returns
    · rw [checkKind_judged asked judges] at returns ⊢
      exact checkFields_mono ih returns

/-- **Verdicts do not depend on the limit.**  A check that returns gives the
same verdict at every higher limit. -/
theorem check_mono {limit higher : Nat} (le : limit ≤ higher) {c : Constraint} {value : Value}
    {verdict : Verdict} (returns : s.check limit c value depth = some verdict) :
    s.check higher c value depth = some verdict := by
  induction le with
  | refl => exact returns
  | step _ ih => exact Constraint.check_mono (checkKind_succ _) c value verdict ih

theorem checkFields_returns {ask : Resolver Option} {kind : String} {node : Node}
    {fields : List Field}
    (each : ∀ f ∈ fields, ∀ value, f.reading node = some value →
      ∃ verdict, f.constraint.check ask depth value = some verdict) :
    ∃ verdict, checkFields ask depth kind node fields = some verdict := by
  induction fields with
  | nil => exact ⟨_, rfl⟩
  | cons field rest ih =>
    rcases read : field.reading node with - | value
    · rw [checkFields, ← Field.reading, read]
      exact ⟨_, rfl⟩
    · rw [checkFields, ← Field.reading, read]
      obtain ⟨first, checked⟩ := each field List.mem_cons_self value read
      cases first with
      | ok =>
        obtain ⟨verdict, returns⟩ := ih fun f listed => each f (List.mem_cons_of_mem field listed)
        exact ⟨verdict, Option.bind_eq_some_iff.mpr ⟨_, checked, returns⟩⟩
      | error cause => exact ⟨_, Option.bind_eq_some_iff.mpr ⟨_, checked, rfl⟩⟩

/-- A node that is judged by its fields is judged by those of a kind that
resolves. -/
theorem Judges.resolves {kind owner : String} {node : Node} {shape : Shape}
    (judges : s.Judges depth kind node owner shape) : s.shape owner = .ok shape := by
  cases judges with
  | untagged _ resolves => exact resolves
  | tagged _ _ _ resolves => exact resolves

/-- **Checks end.**  If no default makes a node, the check of a kind returns
as soon as the limit exceeds the depth of the value. -/
theorem Tame.checkKind_returns (tame : s.Tame) (coherent : s.Coherent) (limit : Nat) :
    ∀ kind value, value.depth < limit →
      ∃ verdict, s.checkKind limit kind value depth = some verdict := by
  induction limit with
  | zero =>
    intro kind value enough
    cases enough
  | succ limit ih =>
    intro kind value enough
    obtain ⟨verdict, -, answer⟩ | ⟨node, owner, shape, rfl, asked, judges⟩ :=
      s.checkKind_step depth kind value
    · exact ⟨verdict, answer limit⟩
    · rw [checkKind_judged asked judges]
      refine checkFields_returns fun f listed value read => ?_
      refine f.constraint.check_returns value fun kind inner within => ih kind inner ?_
      -- what the field is judged by is less deep than the node
      have less := (tame.fields coherent judges.resolves f listed).reading_depth_lt read
      have within := within.depth_le
      omega

/-- A check against a constraint returns as soon as the limit exceeds the
depth of the value. -/
theorem Tame.check_returns (tame : s.Tame) (coherent : s.Coherent) {limit : Nat}
    (c : Constraint) {value : Value} (enough : value.depth < limit) :
    ∃ verdict, s.check limit c value depth = some verdict :=
  c.check_returns value fun kind inner within =>
    tame.checkKind_returns coherent limit kind inner (Nat.lt_of_le_of_lt within.depth_le enough)

/-- The field of a mirror: if it is absent, the mirror itself stands for it. -/
def reflection : Field := .optional "self" (.kind "Mirror") (.computed .node)

/-- A kind with a default that hands back the node it is asked about. -/
def mirror : Schema :=
  [.define "Mirror", .declare "Mirror" (.field reflection)].foldl after .empty

theorem mirror_reachable : mirror.Reachable := Reachable.empty.foldl _

theorem mirror_shape : mirror.shape "Mirror" = .ok ⟨[reflection], ["Mirror"], none⟩ :=
  mirror_reachable.coherent.shape_ok_iff.mpr
    ⟨⟨"Mirror", [], [reflection], none, none⟩, [], rfl, rfl, rfl⟩

/-- A mirror that is judged by its fields and does not have the field is
judged by itself, so its check does not return at any limit. -/
theorem mirror_stuck {node : Node} {shape : Shape} (absent : node.get? "self" = none)
    (judges : mirror.Judges depth "Mirror" node "Mirror" shape) (limit : Nat) :
    mirror.checkKind limit "Mirror" (.node node) depth = none := by
  obtain rfl := Except.ok.inj (judges.resolves.symm.trans mirror_shape)
  have asked : mirror.contains "Mirror" = true := contains_of_shapeBelow mirror_shape
  have read : reflection.reading node = some (.node node) := by
    rw [Field.reading, reflection, Field.optional, absent]
    rfl
  induction limit with
  | zero => rfl
  | succ limit ih =>
    have nested : reflection.constraint.check (mirror.checkKind limit) depth (.node node) = none := by
      rw [reflection, Field.optional, Constraint.check]
      exact ih
    rw [checkKind_judged asked judges, checkFields, ← Field.reading, read]
    exact Option.bind_eq_none_iff.mpr fun verdict checked => by rw [nested] at checked; cases checked

/-- **Tame defaults are needed.**  A default that hands back the node itself
keeps a deep check from ending at any limit. -/
theorem mirror_never_returns (limit : Nat) :
    mirror.checkKind limit "Mirror" (.node (Record.tagged "Mirror")) .deep = none :=
  mirror_stuck rfl (.tagged rfl rfl (contains_of_shapeBelow mirror_shape) mirror_shape
    List.mem_cons_self) limit

end Schema

end NodeSchema
