import NodeSchema.Proofs.Constraint.Acceptance
import NodeSchema.Proofs.Record.Entries
import NodeSchema.Proofs.Schema.Declarations
import NodeSchema.Proofs.Schema.Inheritance
import NodeSchema.Proofs.Value.Occurrence

/-!
# Defaults that make no nodes

Checks of nodes end if no default makes a node: what it gives for a node then
holds no node at all, or is found in one of the fields of that node.  A
default that hands back the node itself is not of this sort, and a check of
what it fills need not end.

* `Default.Tame`, `Schema.Tame` — defaults that make no nodes;
* `Field.Tame.reading` — nor is a field then judged by a node from elsewhere;
* `Tame.foldl` — a schema stays tame if what is declared is;
* `Tame.fields` — then all effective fields have tame defaults.
-/

namespace NodeSchema

/-- A default that makes no node. -/
def Default.Tame (d : Default) : Prop :=
  ∀ node, (d.produce node).NodeFree ∨ (d.produce node).Inside node

/-- A field whose default, if it has one, makes no node. -/
def Field.Tame (field : Field) : Prop := ∀ d, field.default = some d → d.Tame

/-- A declaration by which no default comes in that makes a node. -/
def Declaration.Tame : Declaration → Prop
  | .field added => added.Tame
  | _ => True

/-- A kind whose own fields have tame defaults. -/
def Kind.Tame (k : Kind) : Prop := ∀ f ∈ k.fields, f.Tame

/-- A constant in which there is no node is tame. -/
theorem Default.tame_constant {value : Value} (free : value.NodeFree) :
    (Default.constant value).Tame :=
  fun _ => .inl free

/-- A rule that never answers with a node in its value is tame. -/
theorem Default.tame_computed {rule : Node → Value} (free : ∀ node, (rule node).NodeFree) :
    (Default.computed rule).Tame :=
  fun node => .inl (free node)

/-- What stands at the end of a chain of names is inside the node. -/
theorem Record.inside_of_path? {names : List String} :
    ∀ {node : Node} {value : Value}, Record.path? node names = some value → value.Inside node := by
  induction names with
  | nil =>
    intro node value found
    cases found
  | cons name rest ih =>
    intro node value found
    cases rest with
    | nil => exact ⟨_, mem_of_get? found, .here⟩
    | cons next rest =>
      obtain ⟨first, present, found⟩ := Option.bind_eq_some_iff.mp found
      obtain ⟨inner, is_node, found⟩ := Option.bind_eq_some_iff.mp found
      cases first with
      | node record =>
        obtain rfl := Option.some.inj is_node
        exact ⟨_, mem_of_get? present, (ih found).occurs⟩
      | null | bool _ | number _ | string _ | array _ => cases is_node

/-- A rule that follows a chain of names is tame if what it falls back to
holds no node. -/
theorem Default.tame_copied {fallback : Value} (names : List String) (free : fallback.NodeFree) :
    (Default.copied names fallback).Tame := by
  intro node
  rcases found : node.path? names with - | value
  · left
    simpa [copied, produce, found] using free
  · right
    simpa [copied, produce, found] using Record.inside_of_path? found

namespace Field

@[simp] theorem tame_required (name : String) (c : Constraint) : (required name c).Tame := by
  intro d has
  cases has

@[simp] theorem tame_optional {name : String} {c : Constraint} {d : Default} :
    (optional name c d).Tame ↔ d.Tame := by
  simp [Tame, optional]

@[simp] theorem tame_derived {name : String} {c : Constraint} {d : Default} :
    (derived name c d).Tame ↔ d.Tame := by
  simp [Tame, derived]

end Field

namespace Field.Tame

variable {field : Field} {node : Node} {value : Value}

/-- What a field of a node is judged by holds no node, or is found in the
node. -/
theorem reading (tame : field.Tame) (read : field.reading node = some value) :
    value.NodeFree ∨ value.Inside node := by
  rw [Field.reading, Option.or_eq_some_iff] at read
  rcases read with present | ⟨-, absent⟩
  · exact .inr ⟨_, Record.mem_of_get? present, .here⟩
  · obtain ⟨d, has, rfl⟩ := Option.map_eq_some_iff.mp absent
    exact tame d has node

/-- What a field of a node is judged by is less deep than the node. -/
theorem reading_depth_lt (tame : field.Tame) (read : field.reading node = some value) :
    value.depth < (Value.node node).depth := by
  rcases tame.reading read with free | inside
  · rw [free.depth_eq_zero, Value.depth_node]
    exact Nat.succ_pos _
  · exact inside.depth_lt

end Field.Tame

namespace Schema

/-- A schema whose declared defaults make no nodes. -/
def Tame (s : Schema) : Prop := ∀ k ∈ s.kinds, k.Tame

variable {s : Schema}

theorem Tame.empty : Schema.empty.Tame := by
  intro k listed
  cases listed

/-- A schema stays tame if what is declared is. -/
theorem Tame.foldl (tame : s.Tame) (requests : List Request)
    (brings : ∀ kind declaration, .declare kind declaration ∈ requests → declaration.Tame) :
    (requests.foldl after s).Tame := by
  have each : s.AllDefaults fun _ _ default => ∀ d, default = some d → d.Tame := tame
  exact each.foldl requests fun kind added listed => brings kind (.field added) listed

/-- The effective fields of a tame schema have tame defaults. -/
theorem Tame.fields (tame : s.Tame) (coherent : s.Coherent) {name : String} {shape : Shape}
    (resolved : s.shape name = .ok shape) : ∀ f ∈ shape.fields, f.Tame := by
  intro f member
  obtain ⟨k, listed, own⟩ := coherent.declares_field resolved f member
  exact tame k listed f own

end Schema

end NodeSchema
