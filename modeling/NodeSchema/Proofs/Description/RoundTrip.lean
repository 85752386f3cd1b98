import NodeSchema.Description.Json
import NodeSchema.Proofs.Json.Documents
import NodeSchema.Proofs.Schema.Guarantees

/-!
# Descriptions survive JSON

A description is written as a document without numbers, in which every object
has the keys that reading asks for, once each, and `null` stands only for
what is missing.  So the description is read back as it was, and a kind that
is looked up in what was read back is described as the schema describes it.

* `array?_map`, `optional?_orNull` — lists and values that may be missing;
* `FieldDescription.ofJson?_toJson`, `KindDescription.ofJson?_toJson`,
  `Description.ofJson?_toJson` — fields, kinds and whole descriptions are read
  back;
* `Schema.find?_of_describeAll` — kinds are found in the description of their
  schema;
* `Description.survives_json` — both together.
-/

namespace NodeSchema

namespace Json

/-- A list is read back if its members are. -/
theorem array?_map {α : Type} {read? : Json → Option α} (write : α → Json)
    (inverse : ∀ a, read? (write a) = some a) (l : List α) :
    array? read? (array (l.map write)) = some l := by
  show (l.map write).mapM read? = some l
  induction l with
  | nil => rfl
  | cons a l ih =>
    rw [List.map_cons, List.mapM_cons, inverse, ih]
    rfl

/-- A value that may be missing is read back, as no value is written as
`null`. -/
theorem optional?_orNull {α : Type} {read? : Json → Option α} (write : α → Json)
    (present : ∀ a, write a ≠ null) (inverse : ∀ a, read? (write a) = some a) (o : Option α) :
    optional? read? (orNull write o) = some o := by
  cases o with
  | none => rfl
  | some a =>
    have read : optional? read? (write a) = (read? (write a)).map some := by
      unfold optional?
      split
      · next missing => exact absurd missing (present a)
      · rfl
    show optional? read? (write a) = some (some a)
    rw [read, inverse, Option.map_some]

theorem array?_strings (texts : List String) : array? string? (strings texts) = some texts :=
  array?_map string (fun _ => rfl) texts

theorem numberless_strings (texts : List String) : (strings texts).Numberless := by
  refine .array fun item listed => ?_
  obtain ⟨text, -, rfl⟩ := List.mem_map.mp listed
  exact .string text

theorem numberless_orNull {α : Type} {write : α → Json} (each : ∀ a, (write a).Numberless)
    (o : Option α) : (orNull write o).Numberless := by
  cases o with
  | none => exact .null
  | some a => exact each a

end Json

open Json

namespace FieldDescription

theorem numberless (f : FieldDescription) : f.toJson.Numberless := by
  refine .object (List.forall_mem_cons.mpr ⟨.string _, List.forall_mem_cons.mpr ⟨.string _,
    List.forall_mem_cons.mpr ⟨?_, List.forall_mem_singleton.mpr (.bool _)⟩⟩⟩)
  exact numberless_orNull .string f.default

/-- A field is read back. -/
theorem ofJson?_toJson (f : FieldDescription) : ofJson? f.toJson = some f := by
  have default : optional? string? (orNull string f.default) = some f.default :=
    optional?_orNull string (fun _ missing => by cases missing) (fun _ => rfl) f.default
  simp [toJson, ofJson?, member?, string?, bool?, default]

end FieldDescription

namespace KindDescription

theorem numberless (k : KindDescription) : k.toJson.Numberless := by
  refine .object (List.forall_mem_cons.mpr ⟨.string _, List.forall_mem_cons.mpr ⟨?_,
    List.forall_mem_cons.mpr ⟨?_, List.forall_mem_cons.mpr ⟨?_,
      List.forall_mem_singleton.mpr (.array ?_)⟩⟩⟩⟩)
  · exact numberless_strings k.supertypes
  · exact numberless_strings k.ancestors
  · exact numberless_orNull numberless_strings k.parameters
  · intro item listed
    obtain ⟨f, -, rfl⟩ := List.mem_map.mp listed
    exact f.numberless

/-- A kind is read back. -/
theorem ofJson?_toJson (k : KindDescription) : ofJson? k.toJson = some k := by
  have parameters : optional? (array? string?) (orNull strings k.parameters) = some k.parameters :=
    optional?_orNull strings (fun _ missing => by cases missing) array?_strings k.parameters
  have fields : array? FieldDescription.ofJson? (array (k.fields.map (·.toJson))) = some k.fields :=
    array?_map (·.toJson) FieldDescription.ofJson?_toJson k.fields
  simp [toJson, ofJson?, member?, string?, array?_strings, parameters, fields]

end KindDescription

namespace Description

theorem numberless (d : Description) : d.document.Numberless := by
  refine .object (List.forall_mem_singleton.mpr (.array fun item listed => ?_))
  obtain ⟨k, -, rfl⟩ := List.mem_map.mp listed
  exact k.numberless

/-- **A description is read back.** -/
theorem ofJson?_toJson (d : Description) : ofJson? d.toJson = some d := by
  have kinds : array? KindDescription.ofJson? (array (d.kinds.map (·.toJson))) = some d.kinds :=
    array?_map (·.toJson) KindDescription.ofJson?_toJson d.kinds
  have read : read? d.toJson = some d.document := d.numberless.read?_write
  unfold ofJson?
  rw [read]
  simp [document, ofDocument?, member?, kinds]

end Description

namespace Schema

variable {s : Schema}

/-- The description of a kind has its name. -/
theorem name_of_describe {kind : String} {k : KindDescription}
    (described : s.describe kind = .ok k) : k.name = kind := by
  obtain ⟨shape, -, made⟩ := bind_ok_iff.mp described
  rw [← Except.ok.inj made]

/-- Among the descriptions of some kinds, in order, each is found by its
name. -/
theorem find?_of_walk {names : List String} {kinds : List KindDescription}
    (walked : List.Forall₂ (fun name k => s.describe name = .ok k) names kinds) {kind : String}
    (listed : kind ∈ names) :
    ∃ k, s.describe kind = .ok k ∧ kinds.find? (·.name == kind) = some k := by
  induction walked with
  | nil => cases listed
  | @cons name k names kinds first _ ih =>
    have named : k.name = name := name_of_describe first
    by_cases here : name = kind
    · subst here
      exact ⟨k, first, List.find?_cons_of_pos (beq_iff_eq.mpr named)⟩
    · have later : kind ∈ names := List.mem_of_ne_of_mem (Ne.symm here) listed
      rw [List.find?_cons_of_neg (by simpa [named] using here)]
      exact ih later

/-- Each defined kind is found in the description of its schema, as it is
described alone. -/
theorem find?_of_describeAll {d : Description} (described : s.describeAll = .ok d) {kind : String}
    (defined : s.contains kind = true) : ∃ k, s.describe kind = .ok k ∧ d.find? kind = some k := by
  obtain ⟨kinds, walked, made⟩ := bind_ok_iff.mp described
  obtain rfl := Except.ok.inj made
  exact find?_of_walk (mapM_ok_iff.mp walked) (mem_names_iff.mpr defined)

end Schema

/-- **Descriptions survive JSON.**  Every description, whatever texts are in
it, is read back from what it is written as.  After any requests that leave a
schema in which all kinds resolve, the schema can be described, and looking up
a defined kind in what is read back from its description gives exactly the
description of that kind. -/
theorem Description.survives_json :
    (∀ d : Description, ofJson? d.toJson = some d) ∧
      ∀ s : Schema, s.Reachable →
        (∀ kind, s.contains kind = true → ∃ shape, s.shape kind = .ok shape) →
        ∃ d, s.describeAll = .ok d ∧ ∀ kind, s.contains kind = true →
          ∃ k, s.describe kind = .ok k ∧ (ofJson? d.toJson).bind (·.find? kind) = some k := by
  refine ⟨ofJson?_toJson, fun s _ resolves => ?_⟩
  have each : ∀ k ∈ s.kinds, ∃ shape, s.shape k.name = .ok shape := by
    intro k listed
    exact resolves k.name (Schema.mem_names_iff.mp (List.mem_map_of_mem listed))
  obtain ⟨d, described⟩ := Schema.describeAll_succeeds each
  refine ⟨d, described, fun kind defined => ?_⟩
  obtain ⟨k, alone, found⟩ := Schema.find?_of_describeAll described defined
  exact ⟨k, alone, by rw [ofJson?_toJson, Option.bind_some, found]⟩

namespace Description

/-- A kind whose name needs escapes, below one that is finalized; it has build
parameters, a field without a default, and one with a text as default. -/
def quoting : Schema :=
  [.define "Node", .declare "Node" (.field (.derived "note" .string (.constant (.string "\x00\n")))),
    .validator "Node", .define "a\"\\\x1f😀", .declare "a\"\\\x1f😀" (.supertypes ["Node"]),
    .declare "a\"\\\x1f😀" (.field (.required "" .number)),
    .declare "a\"\\\x1f😀" (.parameters [""])].foldl Schema.after .empty

/-- Its description is read back, and the kind is found there. -/
theorem quoting_survives :
    quoting.Reachable ∧
      (∀ kind, quoting.contains kind = true → ∃ shape, quoting.shape kind = .ok shape) ∧
      ∃ d, quoting.describeAll = .ok d ∧ ofJson? d.toJson = some d ∧
        ∃ k, quoting.describe "a\"\\\x1f😀" = .ok k ∧
          (ofJson? d.toJson).bind (·.find? "a\"\\\x1f😀") = some k := by
  have reachable : quoting.Reachable := Schema.Reachable.empty.foldl _
  have names : quoting.names = ["Node", "a\"\\\x1f😀"] := by decide +kernel
  have node : (quoting.shape "Node").isOk = true := by decide +kernel
  have text : (quoting.shape "a\"\\\x1f😀").isOk = true := by decide +kernel
  have resolves : ∀ kind, quoting.contains kind = true →
      ∃ shape, quoting.shape kind = .ok shape := by
    intro kind defined
    rw [← Schema.mem_names_iff, names, List.mem_cons, List.mem_singleton] at defined
    rcases defined with rfl | rfl
    · exact exists_ok_of_isOk node
    · exact exists_ok_of_isOk text
  obtain ⟨readBack, looksUp⟩ := survives_json
  obtain ⟨d, described, found⟩ := looksUp quoting reachable resolves
  exact ⟨reachable, resolves, d, described, readBack d, found _ (by decide +kernel)⟩

end Description

end NodeSchema
