import NodeSchema.Proofs.Bundle.Tables
import NodeSchema.Proofs.Schema.Outcomes
import NodeSchema.Proofs.Schema.Strictness

/-!
# Which opening tags carry an element

An element derives its name, its attributes and whether it closes itself from
its opening tag.  A check reads what a tag omits by the defaults of the tag.  A
builder of elements does not: what it derives is copied from the tag as it
stands, and `null` where the tag has nothing.  So a tag may be valid and still
carry no element.

* `elementBuilder`, `element_handed` — the builder of elements;
* `build_around` — from an opening tag one element is assembled, and judged;
* `opening_accepts` — what is known of the fields of a valid tag;
* `start_accepted`, `carried_accepted`, `judge_omitted` — the fields of the
  element one after the other;
* `opening_carries_element` — what is built on a valid tag;
* `bareTag_not_carried` — a valid tag on which nothing is.
-/

namespace NodeSchema.Bundle

open Schema

/-- The field that every node has. -/
def location : Field := .derived "loc" (.union [.kind "SourceLocation", .null]) (.constant .null)

/-- The fields of an opening tag. -/
def openingFields : List Field := [
  location,
  .required "name" elementName,
  .optional "attributes" attributes (.constant (.array [])),
  .optional "selfClosing" .boolean (.constant (.bool false))]

/-- A field of an element that is derived from its opening tag. -/
def carried (name : String) (constraint : Constraint) : Field :=
  .derived name constraint (fromOpening name)

/-- The fields of an element up to its name. -/
def elementStart : List Field := [
  location,
  .required "openingElement" (.kind "JSXOpeningElement"),
  .optional "closingElement" (.union [.kind "JSXClosingElement", .null]) (.constant .null),
  .optional "children" children (.constant (.array [])),
  carried "name" elementName]

/-- The builder of elements. -/
def elementBuilder : Builder :=
  ⟨"JSXElement", ["openingElement", "closingElement", "children"],
    elementStart ++ [carried "selfClosing" .boolean, carried "attributes" attributes]⟩

/-- The shape of a bundled kind with one supertype, over that of the supertype. -/
theorem shape_of_base {name base : String} {k : Kind} {above shape : Shape}
    (found : jsxSchema.find? name = some k) (single : k.supertypes = [base])
    (resolved : jsxSchema.shape base = .ok above) (made : k.assemble [above] = .ok shape) :
    jsxSchema.shape name = .ok shape := by
  have walked : k.supertypes.mapM jsxSchema.shape = .ok [above] := by
    rw [single]
    exact mapM_ok_iff.mpr (.cons resolved .nil)
  exact jsxSchema_reachable.coherent.shape_ok_iff.mpr ⟨k, [above], found, walked, made⟩

theorem node_shape : jsxSchema.shape "Node" = .ok ⟨[location], ["Node", "Printable"], none⟩ := by
  have printable : jsxSchema.shape "Printable" = .ok ⟨[location], ["Printable"], none⟩ :=
    jsxSchema_reachable.coherent.shape_ok_iff.mpr ⟨_, [], find?_jsxSchema "Printable", rfl, rfl⟩
  exact shape_of_base (find?_jsxSchema "Node") rfl printable rfl

theorem opening_shape : jsxSchema.shape "JSXOpeningElement" =
    .ok ⟨openingFields, ["JSXOpeningElement", "Node", "Printable"],
      some ["name", "attributes", "selfClosing"]⟩ :=
  shape_of_base (find?_jsxSchema "JSXOpeningElement") rfl node_shape rfl

/-- The builder that is handed out for elements. -/
theorem element_handed : jsxSchema.builderOf "JSXElement" = .ok elementBuilder := by
  have expression : jsxSchema.shape "Expression" =
      .ok ⟨[location], ["Expression", "Node", "Printable"], none⟩ :=
    shape_of_base (find?_jsxSchema "Expression") rfl node_shape rfl
  have element : jsxSchema.shape "JSXElement" =
      .ok ⟨elementBuilder.fields, ["JSXElement", "Expression", "Node", "Printable"],
        some elementBuilder.parameters⟩ :=
    shape_of_base (find?_jsxSchema "JSXElement") rfl expression rfl
  exact builderOf_ok_iff.mpr ⟨_, _, element, rfl, rfl⟩

/-- An element with an opening tag, neither closed nor with children. -/
def element (opening name selfClosing attributes : Value) : Node :=
  ⟨some "JSXElement", [("loc", .null), ("openingElement", opening), ("closingElement", .null),
    ("children", .array []), ("name", name), ("selfClosing", selfClosing),
    ("attributes", attributes)]⟩

/-- What stands in a field of a node, or `null`. -/
def orNull (node : Node) (field : String) : Value := (node.get? field).getD .null

/-- The element that is assembled around an opening tag. -/
def around (tag : Node) : Node :=
  element (.node tag) (orNull tag "name") (orNull tag "selfClosing") (orNull tag "attributes")

/-- On an opening tag, whatever it is, one element is assembled; then it is
judged. -/
theorem build_around (limit : Nat) (tag : Node) :
    (jsxSchema.build limit "JSXElement" [.node tag, .null, .array []]).2 =
      (Builder.judge jsxSchema limit "JSXElement" (around tag) elementBuilder.fields).map
        fun verdict => verdict.map fun () => around tag := by
  rw [jsxSchema_reachable.coherent.build_answer, element_handed]
  have done : Builder.fill elementBuilder.kind
      ((Record.tagged elementBuilder.kind).setAll (elementBuilder.parameters.zip
        [.node tag, .null, .array []])) elementBuilder.fields =
      .ok ⟨some "JSXElement", [("openingElement", .node tag), ("closingElement", .null),
        ("children", .array []), ("loc", .null), ("name", orNull tag "name"),
        ("selfClosing", orNull tag "selfClosing"), ("attributes", orNull tag "attributes")]⟩ := by
    rfl
  exact Builder.construct_of_fill done

/-- No bundled kind is below that of opening tags. -/
theorem opening_of_below {name : String} {shape : Shape}
    (resolved : jsxSchema.shape name = .ok shape)
    (below : "JSXOpeningElement" ∈ shape.ancestors) : name = "JSXOpeningElement" := by
  have only : ∀ name ∈ jsxSchema.names, jsxSchema.isSupertypeOf "JSXOpeningElement" name = true →
      name = "JSXOpeningElement" := by decide +kernel
  refine only name (mem_names_iff.mpr (contains_of_shapeBelow resolved)) ?_
  rw [isSupertypeOf, resolved]
  exact List.contains_iff_mem.mpr below

/-- An opening tag that is accepted deeply is a node, and each field of it is
accepted, its own or by default. -/
theorem opening_accepts {op : Value}
    (accepted : jsxSchema.Accepts .deep (.kind "JSXOpeningElement") op) :
    ∃ tag : Node, op = .node tag ∧ ∀ f ∈ openingFields, jsxSchema.AcceptsField .deep tag f := by
  obtain ⟨tag, rfl⟩ := accepted.is_node
  refine ⟨tag, rfl, ?_⟩
  cases accepted with
  | @fields _ owner shape _ asked judges filled each =>
    -- tagged or not, the node is judged by the same fields
    obtain rfl : owner = "JSXOpeningElement" := by
      cases judges with
      | untagged => rfl
      | tagged _ _ _ resolves below => exact opening_of_below resolves below
    obtain rfl := Except.ok.inj (judges.resolves.symm.trans opening_shape)
    exact Accepts.acceptsField (.fields asked judges filled each) judges
  | tag _ shallow => cases shallow

variable {tag : Node} {limit : Nat}

/-- What a node has of its own is accepted where the field is. -/
theorem own_accepted {f : Field} {value : Value} (accepts : jsxSchema.AcceptsField .deep tag f)
    (own : tag.get? f.name = some value) : jsxSchema.Accepts .deep f.constraint value := by
  obtain ⟨read, reading, accepted⟩ := accepts
  rw [Field.reading, own, Option.some_or] at reading
  exact Option.some.inj reading ▸ accepted

/-- What is in a node is less deep. -/
theorem own_depth_lt {name : String} {value : Value} (own : tag.get? name = some value) :
    value.depth < (Value.node tag).depth := by
  rw [Value.depth_node]
  exact Nat.lt_succ_of_le (Value.depth_le_entriesDepth (Record.mem_of_get? own))

/-- What is accepted passes the check, if the limit is large enough. -/
theorem check_passes {c : Constraint} {value : Value} {depth : Depth}
    (accepted : jsxSchema.Accepts depth c value) (enough : value.depth < limit) :
    jsxSchema.check limit c value .shallow = some (.ok ()) := by
  obtain ⟨verdict, returns⟩ : ∃ verdict, jsxSchema.check limit c value .shallow = some verdict :=
    jsxSchema_tame.check_returns jsxSchema_reachable.coherent c enough
  rw [returns, (check_decides_acceptance returns).1.mpr accepted.shallow]

/-- A derived field is accepted if the opening tag has it and it is accepted
there. -/
theorem carried_accepted {name : String} {c : Constraint} {value : Value}
    (here : (around tag).get? name = some (orNull tag name)) (own : tag.get? name = some value)
    (accepted : jsxSchema.Accepts .deep c value) (enough : (Value.node tag).depth < limit) :
    Builder.FieldAccepted jsxSchema limit (around tag) (carried name c) := by
  refine ⟨value, ?_, check_passes accepted (Nat.lt_trans (own_depth_lt own) enough)⟩
  rw [carried, Field.derived, here, orNull, own]
  rfl

/-- The fields of an element up to its name are accepted, if the opening tag
is. -/
theorem start_accepted (accepted : jsxSchema.Accepts .deep (.kind "JSXOpeningElement") (.node tag))
    {name : Value} (own : tag.get? "name" = some name)
    (named : jsxSchema.Accepts .deep elementName name) (enough : (Value.node tag).depth < limit) :
    ∀ f ∈ elementStart, Builder.FieldAccepted jsxSchema limit (around tag) f := by
  have positive : 0 < limit := Nat.lt_of_le_of_lt (Nat.zero_le _) enough
  have none : ∀ kind, jsxSchema.Accepts .deep (.union [.kind kind, .null]) .null := fun kind =>
    .union (List.mem_cons_of_mem _ List.mem_cons_self) (.literal rfl)
  have empty : jsxSchema.Accepts .deep children (.array []) := .array (List.forall_mem_nil _)
  simp only [elementStart, List.forall_mem_cons]
  exact ⟨⟨.null, rfl, check_passes (none _) positive⟩,
    ⟨.node tag, rfl, check_passes accepted enough⟩,
    ⟨.null, rfl, check_passes (none _) positive⟩, ⟨.array [], rfl, check_passes empty positive⟩,
    carried_accepted rfl own named enough, List.forall_mem_nil _⟩

/-- What an element reports if `null` stands in a derived field. -/
def missing (field wanted : String) : Error :=
  .violation "JSXElement" field wanted "null" (.expected wanted "null")

/-- Judging ends at a derived field that the opening tag omits, if no `null` is
accepted there. -/
theorem judge_omitted {name : String} {c : Constraint} {rest : List Field}
    (here : (around tag).get? name = some (orNull tag name)) (lacks : tag.get? name = none)
    (refused : jsxSchema.check limit c .null .shallow =
      some (.error (.expected c.text Value.null.text))) :
    Builder.judge jsxSchema limit "JSXElement" (around tag) (carried name c :: rest) =
      some (.error (missing name c.text)) := by
  have null : (around tag).get? (carried name c).name = some .null := by
    rw [carried, Field.derived, here, orNull, lacks]
    rfl
  rw [Builder.judge_rejected null refused]
  rfl

/-- **Opening tags carry what they have.**  Take the bundled schema at any time
before the next declaration, and an opening tag that passes the deep check,
with or without a kind of its own.  It has a name.  An element is built on it
exactly if it also has attributes and says whether it closes itself, and these
are what the element has; the first of the two that it omits is reported as
`null`, whatever default the opening tag gives it. -/
theorem opening_carries_element {t : Schema} (later : jsxSchema.Later t) {op : Value} {limit : Nat}
    (accepted : t.checkKind limit "JSXOpeningElement" op .deep = some (.ok ())) {more : Nat}
    (enough : op.depth < more) :
    ∃ (tag : Node) (name : Value), op = .node tag ∧ tag.get? "name" = some name ∧
      (∀ closes given, tag.get? "selfClosing" = some closes → tag.get? "attributes" = some given →
        (t.build more "JSXElement" [op, .null, .array []]).2 =
          some (.ok (element op name closes given))) ∧
      (tag.get? "selfClosing" = none →
        (t.build more "JSXElement" [op, .null, .array []]).2 =
          some (.error (missing "selfClosing" "boolean"))) ∧
      (tag.has "selfClosing" = true → tag.get? "attributes" = none →
        (t.build more "JSXElement" [op, .null, .array []]).2 =
          some (.error (missing "attributes" "[JSXAttribute | JSXSpreadAttribute]"))) := by
  have coherent := jsxSchema_reachable.coherent
  have alike := later.alike coherent
  rw [alike.checkKind] at accepted
  rw [alike.build_answer coherent (later.coherent coherent)]
  have accepts : jsxSchema.Accepts .deep (.kind "JSXOpeningElement") op :=
    checkKind_decides limit _ op _ accepted
  obtain ⟨tag, rfl, fields⟩ := opening_accepts accepts
  simp only [openingFields, List.forall_mem_cons] at fields
  obtain ⟨-, naming, listing, closing, -⟩ := fields
  obtain ⟨name, read, named⟩ := naming
  have own : tag.get? "name" = some name := by
    rwa [Field.reading, Field.required, Option.map_none, Option.or_none] at read
  have start := start_accepted accepts own named enough
  have closing_accepted : ∀ closes, tag.get? "selfClosing" = some closes →
      Builder.FieldAccepted jsxSchema more (around tag) (carried "selfClosing" .boolean) :=
    fun closes has => carried_accepted rfl has (own_accepted closing has) enough
  refine ⟨tag, name, rfl, own, fun closes given has has' => ?_, fun lacks => ?_,
    fun has lacks => ?_⟩
  · have all : ∀ f ∈ elementBuilder.fields,
        Builder.FieldAccepted jsxSchema more (around tag) f := by
      simp only [elementBuilder, List.forall_mem_append, List.forall_mem_cons]
      exact ⟨start, closing_accepted closes has,
        carried_accepted rfl has' (own_accepted listing has') enough, List.forall_mem_nil _⟩
    rw [build_around, Builder.judge_of_accepted all, around, orNull, orNull, orNull, own, has, has']
    rfl
  · rw [build_around, elementBuilder, Builder.judge_append start, judge_omitted rfl lacks rfl]
    rfl
  · obtain ⟨closes, has⟩ := Option.isSome_iff_exists.mp has
    rw [build_around, elementBuilder, Builder.judge_append start,
      ← List.singleton_append, Builder.judge_append, judge_omitted rfl lacks rfl]
    · rfl
    · exact fun f listed => List.mem_singleton.mp listed ▸ closing_accepted closes has

/-- An identifier without a tag. -/
def bareName : Node := Record.untagged.set "name" (.string "x")

/-- An opening tag that has a name and nothing else, as parsers make them. -/
def bareTag : Node := Record.untagged.set "name" (.node bareName)

/-- An opening tag that has all its fields. -/
def fullTag : Node := (bareTag.set "attributes" (.array [])).set "selfClosing" (.bool true)

/-- Both pass the deep check.  After a builder was requested, the full tag is
carried by an element, and the bare one is not. -/
theorem fullTag_carried :
    let t := (jsxSchema.builder "JSXElement").1
    t.checkKind 3 "JSXOpeningElement" (.node fullTag) .deep = some (.ok ()) ∧
      (t.build 3 "JSXElement" [.node fullTag, .null, .array []]).2 =
        some (.ok (element (.node fullTag) (.node bareName) (.bool true) (.array []))) ∧
      t.checkKind 3 "JSXOpeningElement" (.node bareTag) .deep = some (.ok ()) ∧
      (t.build 3 "JSXElement" [.node bareTag, .null, .array []]).2 =
        some (.error (missing "selfClosing" "boolean")) := by
  intro t
  have later : jsxSchema.Later t := .step .refl (.builder "JSXElement") rfl
  have full : t.checkKind 3 "JSXOpeningElement" (.node fullTag) .deep = some (.ok ()) := by
    decide +kernel
  have bare : t.checkKind 3 "JSXOpeningElement" (.node bareTag) .deep = some (.ok ()) := by
    decide +kernel
  obtain ⟨tag, name, ⟨⟩, named, carries, -⟩ :=
    opening_carries_element later full (show (Value.node fullTag).depth < 3 by decide +kernel)
  obtain ⟨tag, _, ⟨⟩, -, -, omits, -⟩ :=
    opening_carries_element later bare (show (Value.node bareTag).depth < 3 by decide +kernel)
  obtain rfl : Value.node bareName = name := Option.some.inj named
  exact ⟨full, carries _ _ rfl rfl, bare, omits rfl⟩

/-- **Defaults are not carried.**  The bare tag is as valid as an opening tag
can be, and no limit lets an element be built on it. -/
theorem bareTag_not_carried :
    jsxSchema.checkKind 3 "JSXOpeningElement" (.node bareTag) .deep = some (.ok ()) ∧
      ∀ limit node,
        (jsxSchema.build limit "JSXElement" [.node bareTag, .null, .array []]).2 ≠
          some (.ok node) := by
  refine ⟨by decide +kernel, fun limit node built => ?_⟩
  rw [build_around] at built
  obtain ⟨verdict, judged, done⟩ := Option.map_eq_some_iff.mp built
  cases verdict with
  | error error => cases done
  | ok =>
    have listed : carried "selfClosing" .boolean ∈ elementBuilder.fields :=
      List.mem_append_right _ List.mem_cons_self
    have passed := Builder.judge_ok judged _ listed .null rfl
    cases passed

end NodeSchema.Bundle
