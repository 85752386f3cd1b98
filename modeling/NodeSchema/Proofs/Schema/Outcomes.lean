import NodeSchema.Proofs.Schema.Answers
import NodeSchema.Proofs.Schema.Assembly
import NodeSchema.Proofs.Schema.WellFormed

/-!
# What `build` returns

The arguments of `build` fix one node: which one, does not depend on what the
checks of its fields say.  Either all of them pass and this node is returned,
or the first that does not is reported.

* `Value.text_ne_nothing` — no value is shown as `nothing`, which stands in
  the report of a missing field;
* `Builder.WellFormed` — what every builder that is handed out is, with
  `Reachable.builder_wellFormed`;
* `WellFormed.build_eq` — the arguments are assembled, then judged;
* `Builder.Outcome` — the three ways in which `build` ends;
* `Builder.Exact` — it ends in these ways and in no other;
* `Reachable.build_exact` — builders that are handed out are exact.
-/

namespace NodeSchema

/-- A number is laid out in digits, with a point perhaps. -/
theorem Decimal.isDigit_of_mem_layout {d : Decimal} {c : Char} (member : c ∈ d.layout) :
    c.isDigit = true ∨ c = '.' := by
  have digits : ∀ c ∈ digitChars d.digits, c.isDigit = true := fun _ listed =>
    Nat.isDigit_of_mem_toDigits (by decide) (by decide) listed
  have zeros : ∀ n, ∀ c ∈ List.replicate n '0', c.isDigit = true := by
    intro n c listed
    rw [List.eq_of_mem_replicate listed]
    rfl
  have either : ∀ n, ∀ c ∈ List.replicate n '0' ++ digitChars d.digits, c.isDigit = true :=
    fun n c listed => (List.mem_append.mp listed).elim (zeros n c) (digits c)
  unfold layout at member
  dsimp only at member
  split at member
  · exact .inl ((List.mem_append.mp member).elim (digits c) (zeros _ c))
  · rcases List.mem_append.mp member with whole | fraction
    · exact .inl (either _ c (List.mem_of_mem_take whole))
    · rcases List.mem_cons.mp fraction with rfl | fraction
      · exact .inr rfl
      · exact .inl (either _ c (List.mem_of_mem_drop fraction))

/-- No number is written with an `o`. -/
theorem Decimal.o_not_mem_write (x : Float) : 'o' ∉ (write x).toList := by
  have magnitude : 'o' ∉ magnitude x.toBits := by
    intro member
    unfold Decimal.magnitude at member
    dsimp only at member
    split at member
    · exact absurd member (by decide)
    · rcases isDigit_of_mem_layout member with digit | point
      · exact absurd digit (by decide)
      · exact absurd point (by decide)
  unfold write
  dsimp only
  split
  · decide
  · split <;> split <;> simp [magnitude]

/-- **No value is shown as `nothing`.**  Each form of value has a character in
its text that the word does not have, or lacks one that it has. -/
theorem Value.text_ne_nothing (value : Value) : value.text ≠ "nothing" := by
  have apart : ∀ {shown : String} (c : Char), c ∈ shown.toList → c ∉ "nothing".toList →
      shown ≠ "nothing" := fun _ member other same => other (same ▸ member)
  cases value with
  | null => decide
  | bool b => cases b <;> decide
  | number x =>
    intro same
    have letter : 'o' ∉ (number x).text.toList := Decimal.o_not_mem_write x
    rw [same] at letter
    exact letter (by decide)
  | string s => exact apart '"' (by simp [text, Text.quote]) (by decide)
  | array items => exact apart '[' (by simp [text]) (by decide)
  | node n => exact apart '\x7d' (by simp [text]) (by decide)

namespace Builder

/-- A builder names no field and no parameter twice, its parameters are
fields, and every other field has a default. -/
structure WellFormed (b : Builder) : Prop where
  fields : (Field.names b.fields).Nodup
  parameters : b.parameters.Nodup
  among : b.parameters ⊆ Field.names b.fields
  fillable : ∀ f ∈ b.fields, f.name ∈ b.parameters ∨ f.default.isSome = true

variable {s : Schema} {b : Builder} {limit : Nat} {arguments : List Value} {node : Node}

/-- The fields of what is assembled are present. -/
theorem Assembles.present {given : List (String × Value)} (assembles : b.Assembles given node) :
    ∀ f ∈ b.fields, node.has f.name = true := by
  intro f listed
  rw [Record.has_iff, assembles.names]
  exact Field.name_mem_names listed

/-- **Arguments are assembled, then judged.**  Nothing is left for the branch
that reports a missing field. -/
theorem WellFormed.build_eq (wf : b.WellFormed) (fit : arguments.length = b.parameters.length) :
    ∃ node, b.Assembles (b.parameters.zip arguments) node ∧
      ∀ s limit, b.build s limit arguments =
        (judge s limit b.kind node b.fields).map fun verdict => verdict.map fun () => node := by
  have names : (b.parameters.zip arguments).map (·.1) = b.parameters :=
    List.map_fst_zip (Nat.le_of_eq fit.symm)
  have once : ((b.parameters.zip arguments).map (·.1)).Nodup := names.symm ▸ wf.parameters
  have among : (b.parameters.zip arguments).map (·.1) ⊆ Field.names b.fields :=
    names.symm ▸ wf.among
  have start : (Record.tagged b.kind).setAll (b.parameters.zip arguments) =
      ⟨some b.kind, b.parameters.zip arguments⟩ := Record.setAll_of_new once
  obtain ⟨filled, done⟩ : ∃ filled, fill b.kind ((Record.tagged b.kind).setAll
      (b.parameters.zip arguments)) b.fields = .ok filled := by
    refine fill_succeeds fun f listed => (wf.fillable f listed).imp_left fun parameter => ?_
    rw [start, Record.has_iff, Record.names, names]
    exact parameter
  refine ⟨_, assembles_of_fill wf.fields once among done, fun s limit => ?_⟩
  rw [build, if_pos fit, construct_of_fill done]

/-- How `build` ends.  The number of arguments is wrong; or every field of
what is assembled is accepted, and this is returned; or the first field that
is not accepted is reported, with its value. -/
inductive Outcome (b : Builder) (s : Schema) (limit : Nat) (arguments : List Value) :
    Except Error Node → Prop
  | arity (differ : arguments.length ≠ b.parameters.length) :
      Outcome b s limit arguments (.error (.arity b.kind b.parameters arguments.length))
  | node {node : Node} (fit : arguments.length = b.parameters.length)
      (assembles : b.Assembles (b.parameters.zip arguments) node)
      (accepted : ∀ f ∈ b.fields, FieldAccepted s limit node f) :
      Outcome b s limit arguments (.ok node)
  | violation {node : Node} {error : Error} (fit : arguments.length = b.parameters.length)
      (assembles : b.Assembles (b.parameters.zip arguments) node)
      (rejected : FirstRejected s limit b.kind node b.fields error) :
      Outcome b s limit arguments (.error error)

/-- Errors are about the number of arguments or about the value of a field. -/
theorem Outcome.of_error {error : Error} (outcome : b.Outcome s limit arguments (.error error)) :
    (arguments.length ≠ b.parameters.length ∧
        error = .arity b.kind b.parameters arguments.length) ∨
      ∃ (f : Field) (value : Value) (mismatch : Mismatch),
        error = .violation b.kind f.name f.constraint.text value.text mismatch := by
  cases outcome with
  | arity differ => exact .inl ⟨differ, rfl⟩
  | violation _ _ rejected =>
    obtain ⟨-, f, -, value, mismatch, -, -, -, -, shown⟩ := rejected
    exact .inr ⟨f, value, mismatch, shown⟩

/-- **`build` ends in one of these ways.** -/
theorem WellFormed.build_iff (wf : b.WellFormed) {result : Except Error Node} :
    b.build s limit arguments = some result ↔ b.Outcome s limit arguments result := by
  by_cases fit : arguments.length = b.parameters.length
  · obtain ⟨node, assembles, answer⟩ := wf.build_eq fit
    rw [answer]
    constructor
    · intro returns
      obtain ⟨verdict, judged, rfl⟩ := Option.map_eq_some_iff.mp returns
      cases verdict with
      | ok => exact .node fit assembles ((judge_ok_iff assembles.present).mp judged)
      | error error =>
        exact .violation fit assembles ((judge_error_iff assembles.present).mp judged)
    · intro outcome
      cases outcome with
      | arity differ => exact absurd fit differ
      | node _ assembles' accepted =>
        obtain rfl := assembles.unique wf.fields assembles'
        rw [(judge_ok_iff assembles.present).mpr accepted]
        rfl
      | violation _ assembles' rejected =>
        obtain rfl := assembles.unique wf.fields assembles'
        rw [(judge_error_iff assembles.present).mpr rejected]
        rfl
  · rw [build, if_neg fit]
    constructor
    · intro returns
      obtain rfl := Option.some.inj returns
      exact .arity fit
    · intro outcome
      cases outcome with
      | arity => rfl
      | node fit' => exact absurd fit' fit
      | violation fit' => exact absurd fit' fit

/-- What `build` does with any arguments, whichever schema the fields are
judged by: it returns if the checks do; it ends in one of the three ways; it
complains about the number of arguments exactly if that is wrong; and it never
reports that there is nothing in a field.  If the number is right, exactly one
node is assembled. -/
structure Exact (b : Builder) : Prop where
  assembled : ∀ arguments, arguments.length = b.parameters.length →
    ∃ node, b.Assembles (b.parameters.zip arguments) node ∧
      ∀ other, b.Assembles (b.parameters.zip arguments) other → other = node
  returns : ∀ s limit arguments node, b.Assembles (b.parameters.zip arguments) node →
    (∀ f ∈ b.fields, ∀ value, node.get? f.name = some value →
      ∃ verdict, s.check limit f.constraint value .shallow = some verdict) →
    ∃ result, b.build s limit arguments = some result
  outcome : ∀ s limit arguments result,
    b.build s limit arguments = some result ↔ b.Outcome s limit arguments result
  arity : ∀ s limit arguments,
    (∃ kind parameters given,
      b.build s limit arguments = some (.error (.arity kind parameters given))) ↔
      arguments.length ≠ b.parameters.length
  present : ∀ s limit arguments kind field expected mismatch,
    b.build s limit arguments ≠
      some (.error (.violation kind field expected "nothing" mismatch))

theorem WellFormed.exact (wf : b.WellFormed) : b.Exact where
  assembled arguments fit := by
    obtain ⟨node, assembles, -⟩ := wf.build_eq fit
    exact ⟨node, assembles, fun other assembles' => assembles'.unique wf.fields assembles⟩
  returns s limit arguments node assembles checks := by
    by_cases fit : arguments.length = b.parameters.length
    · obtain ⟨node', assembles', answer⟩ := wf.build_eq fit
      obtain rfl := assembles.unique wf.fields assembles'
      obtain ⟨verdict, judged⟩ := judge_returns checks
      rw [answer, judged]
      exact ⟨_, rfl⟩
    · exact ⟨_, wf.build_iff.mpr (.arity fit)⟩
  outcome s limit arguments result := wf.build_iff
  arity s limit arguments := by
    constructor
    · rintro ⟨kind, parameters, given, returns⟩
      rcases (wf.build_iff.mp returns).of_error with ⟨differ, -⟩ | ⟨f, value, mismatch, shown⟩
      · exact differ
      · cases shown
    · exact fun differ => ⟨_, _, _, wf.build_iff.mpr (.arity differ)⟩
  present s limit arguments kind field expected mismatch returns := by
    rcases (wf.build_iff.mp returns).of_error with ⟨-, shown⟩ | ⟨f, value, mismatch', shown⟩
    · cases shown
    · injection shown with _ _ _ nothing
      exact value.text_ne_nothing nothing.symm

end Builder

namespace Schema

variable {s : Schema} {kind : String}

/-- A builder that is handed out has the fields and the build parameters of
its kind. -/
theorem Coherent.builder_shape (coherent : s.Coherent) {b : Builder}
    (handed : (s.builder kind).2.2 = .ok b) :
    b.kind = kind ∧ ∃ shape, s.shape kind = .ok shape ∧ shape.fields = b.fields ∧
      shape.parameters = some b.parameters ∧ shape.Fillable b.parameters := by
  rw [coherent.builder_answer] at handed
  obtain ⟨shape, parameters, resolved, built, rfl⟩ := builderOf_ok_iff.mp handed
  obtain ⟨has, fillable⟩ := Shape.buildParameters_ok_iff.mp built
  exact ⟨rfl, shape, resolved, rfl, has, fillable⟩

/-- **Builders that are handed out are well-formed**, also if their parameters
are those of a kind above. -/
theorem Reachable.builder_wellFormed (reachable : s.Reachable) {b : Builder}
    (handed : (s.builder kind).2.2 = .ok b) : b.WellFormed := by
  obtain ⟨-, shape, resolved, fields, has, fillable⟩ := reachable.coherent.builder_shape handed
  have wf := reachable.wellFormed.resolved kind shape resolved
  obtain ⟨once, among⟩ := wf.parameters b.parameters has
  exact ⟨fields ▸ wf.fields, once, fields ▸ among, fields ▸ fillable⟩

/-- **What `build` returns.**  After any requests, a builder that is handed
out makes nodes of its kind, has the effective fields and the build parameters
of the kind, and does exactly what its arguments ask for. -/
theorem Reachable.build_exact (reachable : s.Reachable) {b : Builder}
    (handed : (s.builder kind).2.2 = .ok b) :
    (b.kind = kind ∧ ∃ shape, s.shape kind = .ok shape ∧ shape.fields = b.fields ∧
        shape.parameters = some b.parameters) ∧ b.Exact := by
  obtain ⟨named, shape, resolved, fields, has, -⟩ := reachable.coherent.builder_shape handed
  exact ⟨⟨named, shape, resolved, fields, has⟩, (reachable.builder_wellFormed handed).exact⟩

/-- What stands on a base is computed from it, one field from the other. -/
def stairs : Schema :=
  [.define "Base", .declare "Base" (.parameters ["base"]),
    .declare "Base" (.field (.required "base" (.union [.string, .null]))),
    .define "Stairs", .declare "Stairs" (.supertypes ["Base"]),
    .declare "Stairs" (.field (.optional "first" .string (.copied ["base"] .null))),
    .declare "Stairs" (.field (.optional "second" .string (.copied ["first"] .null)))].foldl
      after .empty

/-- The fields of stairs. -/
def stairsFields : List Field :=
  [.required "base" (.union [.string, .null]), .optional "first" .string (.copied ["base"] .null),
    .optional "second" .string (.copied ["first"] .null)]

/-- The builder of stairs has the parameters of the base. -/
def stairsBuilder : Builder := ⟨"Stairs", ["base"], stairsFields⟩

/-- Stairs with every field the same. -/
def flight (value : Value) : Node :=
  ⟨some "Stairs", [("base", value), ("first", value), ("second", value)]⟩

theorem stairs_reachable : stairs.Reachable := Reachable.empty.foldl _

theorem stairs_shape :
    stairs.shape "Stairs" = .ok ⟨stairsFields, ["Stairs", "Base"], some ["base"]⟩ := by
  have coherent := stairs_reachable.coherent
  have base : stairs.shape "Base" =
      .ok ⟨[.required "base" (.union [.string, .null])], ["Base"], some ["base"]⟩ :=
    coherent.shape_ok_iff.mpr ⟨_, [], rfl, rfl, rfl⟩
  exact coherent.shape_ok_iff.mpr ⟨_, [_], rfl, mapM_ok_iff.mpr (.cons base .nil), rfl⟩

theorem stairs_handed : (stairs.builder "Stairs").2.2 = .ok stairsBuilder := by
  rw [stairs_reachable.coherent.builder_answer]
  exact builderOf_ok_iff.mpr ⟨_, ["base"], stairs_shape, rfl, rfl⟩

/-- From a string stairs are built; on `null` the first field is reported that
is computed from it; and nothing is built on nothing. -/
theorem stairs_outcomes :
    stairs.Reachable ∧ (stairs.builder "Stairs").2.2 = .ok stairsBuilder ∧
      stairsBuilder.Outcome stairs 0 [.string "stone"] (.ok (flight (.string "stone"))) ∧
      stairsBuilder.Outcome stairs 0 [.null]
        (.error (.violation "Stairs" "first" "string" "null" (.expected "string" "null"))) ∧
      stairsBuilder.Outcome stairs 0 [] (.error (.arity "Stairs" ["base"] 0)) := by
  obtain ⟨-, exact⟩ := stairs_reachable.build_exact stairs_handed
  exact ⟨stairs_reachable, stairs_handed, (exact.outcome _ _ _ _).mp rfl,
    (exact.outcome _ _ _ _).mp rfl, (exact.outcome _ _ _ _).mp rfl⟩

end Schema

end NodeSchema
