import NodeSchema.Schema.Conformance

/-!
# What a constraint accepts

Acceptance is stated without the checker: `Schema.Accepts` is the least
relation that is closed under one rule per form of constraint, with two rules
for named kinds, one for nodes that are judged by their fields and one for
nodes that are believed by their tag.  `Schema.Rejects` says why a value is
not accepted: everything that comes before the place of failure is accepted,
and the place itself fails for the cause that is given; `Schema.Refuses` is
the part of it that concerns kinds and tags only.

* `Constraint.induction` — induction over a constraint and its alternatives;
* `Field.reading` — the value that a field of a node is judged by;
* `Schema.FailsAt` — the first field for which a node is not accepted;
* `Rejects.not_accepts` — what is rejected is not accepted;
* `Rejects.unique` — there is at most one reason.
-/

namespace NodeSchema

/-- Induction over constraints, where the alternatives of a union are given
one by one. -/
@[elab_as_elim]
theorem Constraint.induction {motive : Constraint → Prop}
    (kind : ∀ name, motive (.kind name))
    (primitive : ∀ type, motive (.primitive type))
    (literal : ∀ wanted, motive (.literal wanted))
    (union : ∀ alternatives, (∀ c ∈ alternatives, motive c) → motive (.union alternatives))
    (arrayOf : ∀ element, motive element → motive (.arrayOf element)) (c : Constraint) :
    motive c :=
  @Constraint.rec motive (fun alternatives => ∀ c ∈ alternatives, motive c)
    kind primitive literal union arrayOf (fun _ member => by cases member)
    (fun _ _ first rest _ member => by
      rcases List.mem_cons.mp member with rfl | later
      · exact first
      · exact rest _ later) c

/-- The value that a field of a node is judged by: the one that the node
has, or else what the default of the field gives for the node. -/
def Field.reading (field : Field) (node : Node) : Option Value :=
  (node.get? field.name).or (field.default.map (·.produce node))

namespace Schema

/-- `owner` is the kind by whose fields, those of `shape`, a node is judged
when it is asked for as a `kind`: the kind itself if the node has no tag, and
the tag at depth `deep` if that is a kind at or below the one asked for. -/
inductive Judges (s : Schema) (depth : Depth) (kind : String) (node : Node) :
    String → Shape → Prop
  | untagged {shape : Shape} (loose : node.tag = none) (resolves : s.shape kind = .ok shape) :
      Judges s depth kind node kind shape
  | tagged {tag : String} {shape : Shape} (tagged : node.tag = some tag) (deep : depth = .deep)
      (defined : s.contains tag = true) (resolves : s.shape tag = .ok shape)
      (below : kind ∈ shape.ancestors) : Judges s depth kind node tag shape

/-- What a constraint accepts in a schema. -/
inductive Accepts (s : Schema) (depth : Depth) : Constraint → Value → Prop
  | string (text : String) : Accepts s depth (.primitive .string) (.string text)
  | boolean (holds : Bool) : Accepts s depth (.primitive .boolean) (.bool holds)
  | number (value : Float) : Accepts s depth (.primitive .number) (.number value)
  | literal {wanted value : Value} (equal : (wanted == value) = true) :
      Accepts s depth (.literal wanted) value
  | union {alternatives : List Constraint} {c : Constraint} {value : Value}
      (listed : c ∈ alternatives) (accepted : Accepts s depth c value) :
      Accepts s depth (.union alternatives) value
  | array {element : Constraint} {items : List Value}
      (each : ∀ item ∈ items, Accepts s depth element item) :
      Accepts s depth (.arrayOf element) (.array items)
  | fields {kind owner : String} {shape : Shape} {node : Node}
      (asked : s.contains kind = true) (judges : s.Judges depth kind node owner shape)
      (filled : ∀ f ∈ shape.fields, (f.reading node).isSome = true)
      (each : ∀ f ∈ shape.fields, ∀ value, f.reading node = some value →
        Accepts s depth f.constraint value) :
      Accepts s depth (.kind kind) (.node node)
  | tag {kind tag : String} {shape : Shape} {node : Node}
      (asked : s.contains kind = true) (shallow : depth = .shallow)
      (tagged : node.tag = some tag) (defined : s.contains tag = true)
      (resolves : s.shape tag = .ok shape) (below : kind ∈ shape.ancestors) :
      Accepts s depth (.kind kind) (.node node)

/-- A field of a node has a value, its own or by default, that is accepted. -/
def AcceptsField (s : Schema) (depth : Depth) (node : Node) (field : Field) : Prop :=
  ∃ value, field.reading node = some value ∧ s.Accepts depth field.constraint value

/-- Why a node is refused as a `kind` before its fields are looked at: the
kind, or the tag of the node, cannot be resolved, or the tag stands for no
kind at or below the one asked for. -/
inductive Refuses (s : Schema) (kind : String) (node : Node) : Mismatch → Prop
  | malformed {error : Error} (loose : node.tag = none) (unresolved : s.shape kind = .error error) :
      Refuses s kind node (malformed kind error)
  | undefinedTag {tag : String} (tagged : node.tag = some tag) (absent : s.contains tag = false) :
      Refuses s kind node (.expected kind tag)
  | malformedTag {tag : String} {error : Error} (tagged : node.tag = some tag)
      (defined : s.contains tag = true) (unresolved : s.shape tag = .error error) :
      Refuses s kind node (Schema.malformed tag error)
  | notBelow {tag : String} {shape : Shape} (tagged : node.tag = some tag)
      (defined : s.contains tag = true) (resolves : s.shape tag = .ok shape)
      (wrong : kind ∉ shape.ancestors) : Refuses s kind node (.expected kind tag)

/-- Why a value is not accepted, and where that shows first. -/
inductive Rejects (s : Schema) (depth : Depth) : Constraint → Value → Mismatch → Prop
  | primitive {type : Primitive} {value : Value}
      (wrong : ¬ s.Accepts depth (.primitive type) value) :
      Rejects s depth (.primitive type) value (.expected type.text value.text)
  | literal {wanted value : Value} (wrong : ¬ s.Accepts depth (.literal wanted) value) :
      Rejects s depth (.literal wanted) value (.expected wanted.text value.text)
  | union {alternatives : List Constraint} {value : Value}
      (wrong : ∀ c ∈ alternatives, ¬ s.Accepts depth c value) :
      Rejects s depth (.union alternatives) value
        (.noAlternative (Constraint.texts alternatives) value.text)
  | notArray {element : Constraint} {value : Value} (wrong : ∀ items, value ≠ .array items) :
      Rejects s depth (.arrayOf element) value
        (.expected (Constraint.arrayOf element).text value.text)
  | element {element : Constraint} {before after : List Value} {item : Value} {cause : Mismatch}
      (earlier : ∀ other ∈ before, s.Accepts depth element other)
      (fails : Rejects s depth element item cause) :
      Rejects s depth (.arrayOf element) (.array (before ++ item :: after))
        (.element before.length cause)
  | undefined {kind : String} {value : Value} (absent : s.contains kind = false) :
      Rejects s depth (.kind kind) value (.unresolved kind)
  | notNode {kind : String} {value : Value} (asked : s.contains kind = true)
      (wrong : ∀ node, value ≠ .node node) :
      Rejects s depth (.kind kind) value (.expected kind value.text)
  | refused {kind : String} {node : Node} {mismatch : Mismatch} (asked : s.contains kind = true)
      (refuses : s.Refuses kind node mismatch) : Rejects s depth (.kind kind) (.node node) mismatch
  | missing {kind owner : String} {shape : Shape} {node : Node} {before after : List Field}
      {field : Field} (asked : s.contains kind = true)
      (judges : s.Judges depth kind node owner shape)
      (split : shape.fields = before ++ field :: after)
      (earlier : ∀ other ∈ before, s.AcceptsField depth node other)
      (absent : field.reading node = none) :
      Rejects s depth (.kind kind) (.node node) (.missingField owner field.name)
  | field {kind owner : String} {shape : Shape} {node : Node} {before after : List Field}
      {field : Field} {value : Value} {cause : Mismatch} (asked : s.contains kind = true)
      (judges : s.Judges depth kind node owner shape)
      (split : shape.fields = before ++ field :: after)
      (earlier : ∀ other ∈ before, s.AcceptsField depth node other)
      (read : field.reading node = some value)
      (fails : Rejects s depth field.constraint value cause) :
      Rejects s depth (.kind kind) (.node node) (.field owner field.name cause)

variable {s : Schema} {depth : Depth}

/-- The fields of a node are judged by at most one kind. -/
theorem Judges.unique {kind owner other : String} {node : Node} {shape shape' : Shape}
    (h : s.Judges depth kind node owner shape) (h' : s.Judges depth kind node other shape') :
    owner = other ∧ shape = shape' := by
  cases h with
  | untagged loose resolves =>
    cases h' with
    | untagged _ resolves' => exact ⟨rfl, Except.ok.inj (resolves.symm.trans resolves')⟩
    | tagged tagged => rw [loose] at tagged; cases tagged
  | tagged tagged _ _ resolves =>
    cases h' with
    | untagged loose => rw [loose] at tagged; cases tagged
    | tagged tagged' _ _ resolves' =>
      obtain rfl := Option.some.inj (tagged.symm.trans tagged')
      exact ⟨rfl, Except.ok.inj (resolves.symm.trans resolves')⟩

/-- Of a node that is judged by its fields, each field is accepted. -/
theorem Accepts.acceptsField {kind owner : String} {shape : Shape} {node : Node}
    (accepted : s.Accepts depth (.kind kind) (.node node))
    (judges : s.Judges depth kind node owner shape) :
    ∀ f ∈ shape.fields, s.AcceptsField depth node f := by
  cases accepted with
  | fields asked judges' filled each =>
    obtain ⟨rfl, rfl⟩ := judges.unique judges'
    intro f member
    obtain ⟨value, read⟩ := Option.isSome_iff_exists.mp (filled f member)
    exact ⟨value, read, each f member value read⟩
  | tag asked shallow tagged =>
    cases judges with
    | untagged loose => rw [loose] at tagged; cases tagged
    | tagged _ deep => rw [deep] at shallow; cases shallow

/-- A node is accepted if each of the fields by which it is judged is. -/
theorem accepts_of_acceptsField {kind owner : String} {shape : Shape} {node : Node}
    (asked : s.contains kind = true) (judges : s.Judges depth kind node owner shape)
    (each : ∀ f ∈ shape.fields, s.AcceptsField depth node f) :
    s.Accepts depth (.kind kind) (.node node) := by
  refine .fields asked judges (fun f member => ?_) (fun f member value read => ?_)
  · obtain ⟨value, read, -⟩ := each f member
    rw [read]
    rfl
  · obtain ⟨value', read', accepted⟩ := each f member
    obtain rfl := Option.some.inj (read.symm.trans read')
    exact accepted

/-- The kind that is asked for is defined, and so is a tag. -/
theorem Accepts.asked {kind : String} {value : Value}
    (accepted : s.Accepts depth (.kind kind) value) : s.contains kind = true := by
  cases accepted with
  | fields asked => exact asked
  | tag asked => exact asked

/-- What a kind accepts is a node. -/
theorem Accepts.is_node {kind : String} {value : Value}
    (accepted : s.Accepts depth (.kind kind) value) : ∃ node : Node, value = .node node := by
  cases accepted with
  | fields => exact ⟨_, rfl⟩
  | tag => exact ⟨_, rfl⟩

/-- The tag of an accepted node stands for a kind at or below the one asked
for. -/
theorem Accepts.tag_below {kind tag : String} {node : Node}
    (accepted : s.Accepts depth (.kind kind) (.node node)) (tagged : node.tag = some tag) :
    s.contains tag = true ∧ ∃ shape, s.shape tag = .ok shape ∧ kind ∈ shape.ancestors := by
  cases accepted with
  | fields _ judges =>
    cases judges with
    | untagged loose => rw [tagged] at loose; cases loose
    | tagged tagged' _ defined resolves below =>
      obtain rfl := Option.some.inj (tagged.symm.trans tagged')
      exact ⟨defined, _, resolves, below⟩
  | tag _ _ tagged' defined resolves below =>
    obtain rfl := Option.some.inj (tagged.symm.trans tagged')
    exact ⟨defined, _, resolves, below⟩

/-- A node without a tag is accepted only if the kind resolves. -/
theorem Accepts.resolves {kind : String} {node : Node}
    (accepted : s.Accepts depth (.kind kind) (.node node)) (loose : node.tag = none) :
    ∃ shape, s.shape kind = .ok shape := by
  cases accepted with
  | fields _ judges =>
    cases judges with
    | untagged _ resolves => exact ⟨_, resolves⟩
    | tagged tagged => rw [loose] at tagged; cases tagged
  | tag _ _ tagged => rw [loose] at tagged; cases tagged

/-- A node without a tag is refused only if the kind does not resolve. -/
theorem Refuses.of_loose {kind : String} {node : Node} {mismatch : Mismatch}
    (refused : s.Refuses kind node mismatch) (loose : node.tag = none) :
    ∃ error, s.shape kind = .error error ∧ mismatch = Schema.malformed kind error := by
  cases refused with
  | malformed _ unresolved => exact ⟨_, unresolved, rfl⟩
  | undefinedTag tagged => rw [loose] at tagged; cases tagged
  | malformedTag tagged => rw [loose] at tagged; cases tagged
  | notBelow tagged => rw [loose] at tagged; cases tagged

/-- A node with a tag is refused if the tag is undefined, or defined without
resolving, or a kind that is not at or below the one asked for. -/
theorem Refuses.of_tagged {kind tag : String} {node : Node} {mismatch : Mismatch}
    (refused : s.Refuses kind node mismatch) (tagged : node.tag = some tag) :
    (s.contains tag = false ∧ mismatch = .expected kind tag) ∨
      s.contains tag = true ∧
        ((∃ error, s.shape tag = .error error ∧ mismatch = Schema.malformed tag error) ∨
          ∃ shape, s.shape tag = .ok shape ∧ kind ∉ shape.ancestors ∧
            mismatch = .expected kind tag) := by
  cases refused with
  | malformed loose => rw [loose] at tagged; cases tagged
  | undefinedTag tagged' absent =>
    obtain rfl := Option.some.inj (tagged.symm.trans tagged')
    exact .inl ⟨absent, rfl⟩
  | malformedTag tagged' defined unresolved =>
    obtain rfl := Option.some.inj (tagged.symm.trans tagged')
    exact .inr ⟨defined, .inl ⟨_, unresolved, rfl⟩⟩
  | notBelow tagged' defined resolves wrong =>
    obtain rfl := Option.some.inj (tagged.symm.trans tagged')
    exact .inr ⟨defined, .inr ⟨_, resolves, wrong, rfl⟩⟩

/-- The tag of a refused node does not stand for a kind at or below the one
asked for. -/
theorem Refuses.not_below {kind tag : String} {node : Node} {mismatch : Mismatch}
    (refused : s.Refuses kind node mismatch) (tagged : node.tag = some tag)
    (defined : s.contains tag = true) {shape : Shape} (resolves : s.shape tag = .ok shape) :
    kind ∉ shape.ancestors := by
  rcases refused.of_tagged tagged with
    ⟨absent, -⟩ | ⟨-, ⟨error, unresolved, -⟩ | ⟨shape', resolves', wrong, -⟩⟩
  · rw [defined] at absent; cases absent
  · rw [resolves] at unresolved; cases unresolved
  · obtain rfl := Except.ok.inj (resolves.symm.trans resolves')
    exact wrong

/-- A refused node is judged by no kind. -/
theorem Refuses.not_judges {kind owner : String} {node : Node} {shape : Shape}
    {mismatch : Mismatch} (refused : s.Refuses kind node mismatch) :
    ¬ s.Judges depth kind node owner shape := by
  intro judges
  cases judges with
  | untagged loose resolves =>
    obtain ⟨error, unresolved, -⟩ := refused.of_loose loose
    rw [resolves] at unresolved; cases unresolved
  | tagged tagged _ defined resolves below =>
    exact refused.not_below tagged defined resolves below

/-- A refused node is not accepted. -/
theorem Refuses.not_accepts {kind : String} {node : Node} {mismatch : Mismatch}
    (refused : s.Refuses kind node mismatch) : ¬ s.Accepts depth (.kind kind) (.node node) := by
  intro accepted
  rcases tag : node.tag with - | name
  · obtain ⟨error, unresolved, -⟩ := refused.of_loose tag
    obtain ⟨shape, resolves⟩ := accepted.resolves tag
    rw [unresolved] at resolves; cases resolves
  · obtain ⟨defined, shape, resolves, below⟩ := accepted.tag_below tag
    exact refused.not_below tag defined resolves below

/-- A node is refused for at most one reason. -/
theorem Refuses.unique {kind : String} {node : Node} {mismatch mismatch' : Mismatch}
    (refused : s.Refuses kind node mismatch) (refused' : s.Refuses kind node mismatch') :
    mismatch = mismatch' := by
  rcases tag : node.tag with - | name
  · obtain ⟨error, unresolved, rfl⟩ := refused.of_loose tag
    obtain ⟨error', unresolved', rfl⟩ := refused'.of_loose tag
    rw [Except.error.inj (unresolved.symm.trans unresolved')]
  · rcases refused.of_tagged tag with
      ⟨absent, rfl⟩ | ⟨defined, ⟨error, unresolved, rfl⟩ | ⟨shape, resolves, -, rfl⟩⟩ <;>
    rcases refused'.of_tagged tag with
      ⟨absent', rfl⟩ | ⟨defined', ⟨error', unresolved', rfl⟩ | ⟨shape', resolves', -, rfl⟩⟩
    -- the cases on the diagonal agree, and two of the others give the same report
    all_goals simp_all

/-- Two ways to cut a list before its first failure are the same. -/
theorem first_failure_unique {α : Type} {passes : α → Prop} {before before' after after' : List α}
    {item item' : α} (earlier : ∀ other ∈ before, passes other)
    (earlier' : ∀ other ∈ before', passes other) (fails : ¬ passes item) (fails' : ¬ passes item')
    (split : before ++ item :: after = before' ++ item' :: after') :
    before = before' ∧ item = item' := by
  induction before generalizing before' with
  | nil =>
    cases before' with
    | nil => exact ⟨rfl, (List.cons.inj split).1⟩
    | cons first rest =>
      obtain ⟨rfl, -⟩ := List.cons.inj split
      exact absurd (earlier' item List.mem_cons_self) fails
  | cons first rest ih =>
    cases before' with
    | nil =>
      obtain ⟨rfl, -⟩ := List.cons.inj split
      exact absurd (earlier first List.mem_cons_self) fails'
    | cons first' rest' =>
      obtain ⟨rfl, tails⟩ := List.cons.inj split
      obtain ⟨rfl, same⟩ := ih (fun other member => earlier other (List.mem_cons_of_mem _ member))
        (fun other member => earlier' other (List.mem_cons_of_mem _ member)) tails
      exact ⟨rfl, same⟩

/-- `field` is the first one for which a node is not accepted as a `kind`,
and `owner` is the kind by whose fields it is judged. -/
def FailsAt (s : Schema) (depth : Depth) (kind : String) (node : Node) (owner : String)
    (field : Field) : Prop :=
  ∃ shape before after, s.Judges depth kind node owner shape ∧
    shape.fields = before ++ field :: after ∧
    (∀ other ∈ before, s.AcceptsField depth node other) ∧ ¬ s.AcceptsField depth node field

/-- There is at most one first failure. -/
theorem FailsAt.unique {kind owner owner' : String} {node : Node} {field field' : Field}
    (fails : s.FailsAt depth kind node owner field)
    (fails' : s.FailsAt depth kind node owner' field') : owner = owner' ∧ field = field' := by
  obtain ⟨shape, before, after, judges, split, earlier, here⟩ := fails
  obtain ⟨shape', before', after', judges', split', earlier', here'⟩ := fails'
  obtain ⟨rfl, rfl⟩ := judges.unique judges'
  obtain ⟨-, rfl⟩ := first_failure_unique earlier earlier' here here' (split.symm.trans split')
  exact ⟨rfl, rfl⟩

/-- A node that fails at a field is not accepted. -/
theorem FailsAt.not_accepts {kind owner : String} {node : Node} {field : Field}
    (fails : s.FailsAt depth kind node owner field) :
    ¬ s.Accepts depth (.kind kind) (.node node) := by
  intro accepted
  obtain ⟨shape, before, after, judges, split, -, here⟩ := fails
  have listed : field ∈ shape.fields := by
    rw [split]
    exact List.mem_append_right before List.mem_cons_self
  exact here (accepted.acceptsField judges field listed)

/-- A field without a value is not accepted. -/
theorem not_acceptsField_of_absent {node : Node} {field : Field}
    (absent : field.reading node = none) : ¬ s.AcceptsField depth node field := by
  intro ⟨value, read, _⟩
  rw [absent] at read
  cases read

/-- A field whose value is not accepted is not accepted. -/
theorem not_acceptsField_of_value {node : Node} {field : Field} {value : Value}
    (read : field.reading node = some value) (fails : ¬ s.Accepts depth field.constraint value) :
    ¬ s.AcceptsField depth node field := by
  intro ⟨value', read', accepted⟩
  obtain rfl := Option.some.inj (read.symm.trans read')
  exact fails accepted

/-- **What is rejected is not accepted.** -/
theorem Rejects.not_accepts {c : Constraint} {value : Value} {mismatch : Mismatch}
    (rejected : s.Rejects depth c value mismatch) : ¬ s.Accepts depth c value := by
  induction rejected with
  | primitive wrong => exact wrong
  | literal wrong => exact wrong
  | union wrong =>
    intro accepted
    cases accepted with
    | union listed accepted => exact wrong _ listed accepted
  | notArray wrong =>
    intro accepted
    cases accepted with
    | array each => exact wrong _ rfl
  | element _ _ ih =>
    intro accepted
    cases accepted with
    | array each => exact ih (each _ (List.mem_append_right _ List.mem_cons_self))
  | undefined absent =>
    intro accepted
    rw [accepted.asked] at absent
    cases absent
  | notNode _ wrong =>
    intro accepted
    obtain ⟨node, rfl⟩ := accepted.is_node
    exact wrong node rfl
  | refused _ refuses => exact refuses.not_accepts
  | missing _ judges split earlier absent =>
    exact FailsAt.not_accepts
      ⟨_, _, _, judges, split, earlier, not_acceptsField_of_absent absent⟩
  | field _ judges split earlier read _ ih =>
    exact FailsAt.not_accepts
      ⟨_, _, _, judges, split, earlier, not_acceptsField_of_value read ih⟩

/-- **A value is rejected for one reason.** -/
theorem Rejects.unique {c : Constraint} {value : Value} {mismatch mismatch' : Mismatch}
    (rejected : s.Rejects depth c value mismatch) (rejected' : s.Rejects depth c value mismatch') :
    mismatch = mismatch' := by
  induction rejected generalizing mismatch' with
  | primitive => cases rejected' with | primitive => rfl
  | literal => cases rejected' with | literal => rfl
  | union => cases rejected' with | union => rfl
  | notArray wrong =>
    cases rejected' with
    | notArray => rfl
    | element => exact absurd rfl (wrong _)
  | element earlier fails ih =>
    generalize whole : Value.array _ = value at rejected'
    cases rejected' with
    | notArray wrong => exact absurd whole.symm (wrong _)
    | element earlier' fails' =>
      obtain ⟨rfl, rfl⟩ := first_failure_unique earlier earlier' fails.not_accepts
        fails'.not_accepts (Value.array.inj whole)
      rw [ih fails']
  | @undefined kind _ absent =>
    have unasked : s.contains kind ≠ true := by rw [absent]; exact Bool.false_ne_true
    cases rejected' with
    | undefined => rfl
    | notNode asked => exact absurd asked unasked
    | refused asked => exact absurd asked unasked
    | missing asked => exact absurd asked unasked
    | field asked => exact absurd asked unasked
  | notNode asked wrong =>
    cases rejected' with
    | undefined absent => rw [asked] at absent; cases absent
    | notNode => rfl
    | refused => exact absurd rfl (wrong _)
    | missing => exact absurd rfl (wrong _)
    | field => exact absurd rfl (wrong _)
  | refused asked refuses =>
    cases rejected' with
    | undefined absent => rw [asked] at absent; cases absent
    | notNode _ wrong => exact absurd rfl (wrong _)
    | refused _ refuses' => exact refuses.unique refuses'
    | missing _ judges => exact absurd judges refuses.not_judges
    | field _ judges => exact absurd judges refuses.not_judges
  | @missing kind owner _ node _ _ field asked judges split earlier absent =>
    have here : s.FailsAt depth kind node owner field :=
      ⟨_, _, _, judges, split, earlier, not_acceptsField_of_absent absent⟩
    cases rejected' with
    | undefined absent => rw [asked] at absent; cases absent
    | notNode _ wrong => exact absurd rfl (wrong _)
    | refused _ refuses => exact absurd judges refuses.not_judges
    | missing _ judges' split' earlier' absent' =>
      obtain ⟨rfl, rfl⟩ := here.unique
        ⟨_, _, _, judges', split', earlier', not_acceptsField_of_absent absent'⟩
      rfl
    | field _ judges' split' earlier' read fails' =>
      obtain ⟨rfl, rfl⟩ := here.unique
        ⟨_, _, _, judges', split', earlier', not_acceptsField_of_value read fails'.not_accepts⟩
      rw [absent] at read; cases read
  | @field kind owner _ node _ _ field _ _ asked judges split earlier read fails ih =>
    have here : s.FailsAt depth kind node owner field :=
      ⟨_, _, _, judges, split, earlier, not_acceptsField_of_value read fails.not_accepts⟩
    cases rejected' with
    | undefined absent => rw [asked] at absent; cases absent
    | notNode _ wrong => exact absurd rfl (wrong _)
    | refused _ refuses => exact absurd judges refuses.not_judges
    | missing _ judges' split' earlier' absent =>
      obtain ⟨rfl, rfl⟩ := here.unique
        ⟨_, _, _, judges', split', earlier', not_acceptsField_of_absent absent⟩
      rw [absent] at read; cases read
    | field _ judges' split' earlier' read' fails' =>
      obtain ⟨rfl, rfl⟩ := here.unique
        ⟨_, _, _, judges', split', earlier', not_acceptsField_of_value read' fails'.not_accepts⟩
      obtain rfl := Option.some.inj (read.symm.trans read')
      rw [ih fails']

end Schema

end NodeSchema
