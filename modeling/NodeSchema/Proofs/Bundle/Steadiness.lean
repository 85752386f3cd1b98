import NodeSchema.Proofs.Bundle.Tables
import NodeSchema.Proofs.Schema.Omitted

/-!
# Omitted fields are judged alike

A builder, a check of a node without a tag and the question for one field
fill what is omitted alike, for every kind whose defaults look at nothing but
the fields that have to be supplied.  The bundled kinds are of this sort: a
member access looks at its property, an element at its opening tag.

* `Bundle.jsxSchema_feeds` — what the bundled defaults look at is supplied;
* `Bundle.omitted_fields_alike` — the general statement and the one about
  the bundled kinds;
* `Bundle.plainLink` — an element that omits all it can.
-/

namespace NodeSchema.Bundle

open Schema

/-- Whatever a bundled default looks at is supplied by its kind. -/
theorem jsxSchema_feeds : jsxSchema.AllDefaults fun kind _ default => jsxSchema.Feeds kind default := by
  have supplied : jsxSchema.supplies "MemberExpression" "property" = true ∧
      jsxSchema.supplies "JSXElement" "openingElement" = true := by decide +kernel
  have brackets : jsxSchema.Feeds "MemberExpression"
      (some (.computed fun node => .bool (accessNeedsBrackets node))) := by
    refine feeds_of_reads (fun m n agree => ?_) supplied.1
    have property : m.path? ["property"] = n.path? ["property"] :=
      agree "property" List.mem_cons_self
    simp only [Default.produce, accessNeedsBrackets, property]
  have opening : ∀ field, jsxSchema.Feeds "JSXElement" (some (fromOpening field)) := by
    intro field
    exact feeds_of_reads (Default.reads_copied "openingElement" [field] .null) supplied.2
  have each : ∀ entry ∈ baseKinds .standard ++ jsxKinds .standard, ∀ added,
      .field added ∈ entry.2 → jsxSchema.Feeds entry.1 added.default := by
    simp [baseKinds, jsxKinds, Field.required, Field.optional, Field.derived, Defaults.standard,
      brackets, opening]
  have declared : ((requests (baseKinds .standard ++ jsxKinds .standard)).foldl after
      .empty).AllDefaults fun kind _ default => jsxSchema.Feeds kind default := by
    refine AllDefaults.empty.foldl _ fun kind added listed => ?_
    obtain ⟨entry, inTable, rfl, member⟩ := mem_requests listed
    exact each entry inTable added member
  rwa [← jsxSchema_eq] at declared

/-- **Omitted fields are judged alike.**  Take any schema that requests lead
to, a kind with a builder, and suppose that no default among its fields looks
at more than the fields without one.  Let a node have any tag and any further
fields.  Whenever the check of that node without its tag returns, the builder
that is given its fields succeeds exactly if the check passes.  If the builder
succeeds the check does return, and each field of the node that it makes has
the value that the field has in the given node under the tag of the kind.  The
bundled kinds are all of this sort. -/
theorem omitted_fields_alike :
    (∀ {s t : Schema} {kind : String} {b : Builder} {shape : Shape}, s.Reachable →
      (s.builder kind).2.2 = .ok b → s.Later t → s.shape kind = .ok shape → shape.Steady →
      ∀ (source : Node) limit,
        (∀ verdict, t.checkKind limit kind (.node (source.retag none)) .shallow = some verdict →
          ∃ result, b.fromFields t limit source = some result ∧
            ((∃ node, result = .ok node) ↔ verdict = .ok ())) ∧
        ∀ node, b.fromFields t limit source = some (.ok node) →
          t.checkKind (limit + 1) kind (.node (source.retag none)) .shallow = some (.ok ()) ∧
          ∀ f ∈ shape.fields, ∃ value, node.get? f.name = some value ∧
            t.fieldValue (source.retag (some kind)) f.name = some value) ∧
      ∀ kind shape, jsxSchema.shape kind = .ok shape → shape.Steady := by
  constructor
  · intro s t kind b shape reachable handed later resolved steady source limit
    have coherent := later.coherent reachable.coherent
    rw [reachable.coherent.builder_answer, builderOf_ok_iff] at handed
    obtain ⟨shape', parameters, resolved', -, rfl⟩ := handed
    obtain rfl := Except.ok.inj (resolved.symm.trans resolved')
    have resolved : t.shape kind = .ok shape :=
      ((later.alike reachable.coherent).shape kind).trans resolved
    constructor
    · intro verdict returns
      obtain ⟨result, answer, same⟩ := coherent.fromFields_in_step resolved steady returns
      refine ⟨result, answer, ?_⟩
      rw [← toBool_eq_true_iff, same, toBool_eq_true_iff]
      exact ⟨fun ⟨_, done⟩ => done, fun done => ⟨(), done⟩⟩
    · intro node made
      obtain ⟨passed, readings⟩ := coherent.fromFields_ok resolved steady made
      refine ⟨passed, fun f listed => ?_⟩
      obtain ⟨value, present, read⟩ := readings f listed
      have tagged : (source.retag (some kind)).tag = some kind := rfl
      have alike : f.reading (source.retag (some kind)) = f.reading (source.retag none) :=
        Field.reading_congr (steady f listed) rfl fun _ _ => rfl
      exact ⟨value, present, by rw [coherent.fieldValue_eq resolved tagged listed, alike, read]⟩
  · intro kind shape resolved
    exact jsxSchema_reachable.coherent.steady jsxSchema_feeds resolved

/-- An element that gives its opening tag and nothing else, under a tag and
with a field that no kind knows. -/
def plainLink : Node :=
  (Record.tagged "Draft").setAll [("note", .string "unfinished"),
    ("openingElement", .node ((Record.tagged "JSXOpeningElement").setAll [
      ("name", .node ((Record.tagged "JSXIdentifier").set "name" (.string "a"))),
      ("attributes", .array []), ("selfClosing", .bool true)]))]

/-- The same without its opening tag. -/
def lostLink : Node := (Record.tagged "Draft").set "note" (.string "unfinished")

/-- What the element omits is filled from its opening tag, as a check and a
question for the field fill it; without the opening tag both refuse. -/
theorem plainLink_filled :
    let t := (jsxSchema.builder "JSXElement").1
    ∃ b, (jsxSchema.builder "JSXElement").2.2 = .ok b ∧
      t.checkKind 2 "JSXElement" (.node (plainLink.retag none)) .shallow = some (.ok ()) ∧
      (∃ node value, b.fromFields t 2 plainLink = some (.ok node) ∧
        node.get? "selfClosing" = some value ∧ value.bool? = some true ∧
        t.fieldValue (plainLink.retag (some "JSXElement")) "selfClosing" = some value) ∧
      t.checkKind 2 "JSXElement" (.node (lostLink.retag none)) .shallow =
        some (.error (.missingField "JSXElement" "openingElement")) ∧
      ∃ error, b.fromFields t 2 lostLink = some (.error error) := by
  intro t
  obtain ⟨general, bundled⟩ := omitted_fields_alike
  have buildable : (jsxSchema.builder "JSXElement").2.2.isOk = true := by decide +kernel
  obtain ⟨b, handed⟩ := exists_ok_of_isOk buildable
  have resolves : (jsxSchema.shape "JSXElement").isOk = true := by decide +kernel
  obtain ⟨shape, resolved⟩ := exists_ok_of_isOk resolves
  have later : jsxSchema.Later t := .step .refl (.builder "JSXElement") rfl
  have steady : shape.Steady := bundled "JSXElement" shape resolved
  have alike := general jsxSchema_reachable handed later resolved steady
  have passes : t.checkKind 2 "JSXElement" (.node (plainLink.retag none)) .shallow =
      some (.ok ()) := by decide +kernel
  have refused : t.checkKind 2 "JSXElement" (.node (lostLink.retag none)) .shallow =
      some (.error (.missingField "JSXElement" "openingElement")) := by decide +kernel
  have filled : ∃ node value, b.fromFields t 2 plainLink = some (.ok node) ∧
      node.get? "selfClosing" = some value ∧ value.bool? = some true ∧
      t.fieldValue (plainLink.retag (some "JSXElement")) "selfClosing" = some value := by
    obtain ⟨result, answer, same⟩ := (alike plainLink 2).1 _ passes
    obtain ⟨node, rfl⟩ := same.mpr rfl
    have names : jsxSchema.fieldNames "JSXElement" = .ok ["loc", "openingElement",
        "closingElement", "children", "name", "selfClosing", "attributes"] := by decide +kernel
    rw [fieldNames, resolved] at names
    have effective : "selfClosing" ∈ shape.fields.map (·.name) := by
      rw [Except.ok.inj names]
      decide
    obtain ⟨f, listed, named⟩ := List.mem_map.mp effective
    obtain ⟨value, present, asked⟩ := ((alike plainLink 2).2 node answer).2 f listed
    rw [named] at present asked
    have holds : (t.fieldValue (plainLink.retag (some "JSXElement")) "selfClosing").bind
        Value.bool? = some true := by decide +kernel
    rw [asked] at holds
    exact ⟨node, value, answer, present, holds, asked⟩
  have refuses : ∃ error, b.fromFields t 2 lostLink = some (.error error) := by
    obtain ⟨result, answer, same⟩ := (alike lostLink 2).1 _ refused
    cases result with
    | error error => exact ⟨error, answer⟩
    | ok node => cases same.mp ⟨node, rfl⟩
  exact ⟨b, handed, passes, filled, refused, refuses⟩

end NodeSchema.Bundle
