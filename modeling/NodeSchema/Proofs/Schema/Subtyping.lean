import NodeSchema.Proofs.Schema.Checking
import NodeSchema.Proofs.Schema.Inheritance
import NodeSchema.Proofs.Schema.Walks

/-!
# Subtyping

A kind is below what it reaches by supertypes that are declared.  Resolution
finds this out from lists: it puts the ancestors of each supertype into one
list, without repeats, and a finalized kind answers with the list it holds.
The lists are nevertheless a function of the declarations.  They hold what is
reached, in the order in which a walk that goes up comes to it first, and the
order of kinds that they give is a partial one, as no kind that resolves has a
cycle above it.

A node that says its kind is taken at its word, so that what it is accepted
as depends on nothing but this order, and goes up along it.

* `Schema.preorder` — the kinds at and above a kind, depth first;
* `Coherent.ancestors_eq` — its first visits are the ancestors;
* `Coherent.isSupertypeOf_iff_reaches` — they are what is reached;
* `Coherent.checkKind_tagged_iff` — what a tagged node is accepted as;
* `Reachable.subtyping_order` — all of this after any requests.
-/

namespace NodeSchema.Schema

/-- The kinds at and above a kind in the order of a depth-first walk, from
left to right and each kind before its supertypes, once for each path that
leads to them. -/
def preorder (s : Schema) (name : String) : List String :=
  s.walk (fun k above => k.name :: above) name

variable {s : Schema} {name : String} {k : Kind} {shape : Shape}

/-- **The walk up.**  A kind with no cycle above it comes first, then the
walks of its supertypes in the order in which they are listed. -/
theorem preorder_eq (grounded : s.Grounded name) (found : s.find? name = some k) :
    s.preorder name = name :: k.supertypes.flatMap s.preorder := by
  have up : s.preorder name = k.name :: k.supertypes.flatMap s.preorder := walk_eq grounded found
  rw [up, name_of_find? found]

/-- Adding the first visits of some walks is adding the walks. -/
theorem foldl_addNames_ancestors {visits : String → List String} {bases : List String}
    {shapes : List Shape}
    (each : List.Forall₂ (fun base shape => shape.ancestors = (visits base).eraseDups) bases shapes)
    (names : List String) :
    shapes.foldl (fun names shape => addNames names shape.ancestors) names =
      addNames names (bases.flatMap visits) := by
  induction each generalizing names with
  | nil => rfl
  | @cons base shape bases shapes first _ ih =>
    rw [List.foldl_cons, ih, first, addNames_eraseDups, List.flatMap_cons, addNames_append]

/-- **First visits.**  The ancestors of a kind that resolves are those that
the walk up comes to, in the order of first visits, whether held shapes were
used or not. -/
theorem Coherent.ancestors_eq (coherent : s.Coherent) (resolved : s.shape name = .ok shape) :
    shape.ancestors = (s.preorder name).eraseDups := by
  have grounded := coherent.grounded resolved
  revert grounded
  refine coherent.shape_induction (motive := fun name shape =>
    s.Grounded name → shape.ancestors = (s.preorder name).eraseDups) ?_ resolved
  intro name k bases found walked ih grounded
  have each : List.Forall₂ (fun base shape => shape.ancestors = (s.preorder base).eraseDups)
      k.supertypes bases := by
    refine forall₂_of_mapM walked fun base listed shape resolved => ?_
    exact ih base listed shape resolved (grounded.above ⟨k, found, listed⟩)
  calc k.allAncestors bases
      = addNames [name] (k.supertypes.flatMap s.preorder) := by
        rw [Kind.allAncestors, foldl_addNames_ancestors each, name_of_find? found]
    _ = addNames [] (name :: k.supertypes.flatMap s.preorder) := rfl
    _ = (s.preorder name).eraseDups := by rw [preorder_eq grounded found, addNames_nil]

/-- No kind comes twice among the ancestors of one that resolves. -/
theorem Coherent.nodup_ancestors (coherent : s.Coherent) (resolved : s.shape name = .ok shape) :
    shape.ancestors.Nodup := by
  rw [coherent.ancestors_eq resolved, ← addNames_nil]
  exact nodup_addNames List.nodup_nil _

theorem isSupertypeOf_iff {sup sub : String} :
    s.isSupertypeOf sup sub = true ↔ ∃ shape, s.shape sub = .ok shape ∧ sup ∈ shape.ancestors := by
  unfold isSupertypeOf
  rcases s.shape sub with error | shape
  · simp
  · simp

/-- **Subtyping is declared.**  The kinds above one that resolves are those
that it reaches. -/
theorem Coherent.isSupertypeOf_iff_reaches (coherent : s.Coherent) {sub : String}
    (resolved : s.shape sub = .ok shape) {sup : String} :
    s.isSupertypeOf sup sub = true ↔ s.Reaches sub sup := by
  rw [← coherent.mem_ancestors_iff resolved, isSupertypeOf_iff]
  constructor
  · intro ⟨shape', resolved', above⟩
    obtain rfl := Except.ok.inj (resolved.symm.trans resolved')
    exact above
  · intro above
    exact ⟨shape, resolved, above⟩

/-- What a kind has above it is reached from it. -/
theorem Coherent.reaches_of_isSupertypeOf (coherent : s.Coherent) {sup sub : String}
    (above : s.isSupertypeOf sup sub = true) : s.Reaches sub sup := by
  obtain ⟨shape, resolved, listed⟩ := isSupertypeOf_iff.mp above
  exact (coherent.mem_ancestors_iff resolved).mp listed

theorem Coherent.isSupertypeOf_trans (coherent : s.Coherent) {low middle high : String}
    (first : s.isSupertypeOf middle low = true) (second : s.isSupertypeOf high middle = true) :
    s.isSupertypeOf high low = true := by
  obtain ⟨shape, resolved, -⟩ := isSupertypeOf_iff.mp first
  apply (coherent.isSupertypeOf_iff_reaches resolved).mpr
  exact (coherent.reaches_of_isSupertypeOf first).trans (coherent.reaches_of_isSupertypeOf second)

/-- Two kinds that are above each other are one: else there would be a cycle
above a kind that resolves. -/
theorem Coherent.isSupertypeOf_antisymm (coherent : s.Coherent) {one other : String}
    (above : s.isSupertypeOf other one = true) (below : s.isSupertypeOf one other = true) :
    one = other := by
  obtain ⟨shape, resolved, -⟩ := isSupertypeOf_iff.mp above
  have grounded := coherent.grounded resolved
  have back := coherent.reaches_of_isSupertypeOf below
  rcases (coherent.reaches_of_isSupertypeOf above).cases_head with same | ⟨base, up, rest⟩
  · exact same
  · exact absurd (rest.trans back) (grounded.not_reaches up)

/-- **A node with a tag** is accepted as what is above its tag.  Only a deep
check looks at its fields, and judges them as the tag says, whatever kind was
asked for. -/
theorem Coherent.checkKind_tagged_iff (coherent : s.Coherent) {node : Node} {tag : String}
    (tagged : node.tag = some tag) (limit : Nat) (kind : String) (depth : Depth) :
    s.checkKind (limit + 1) kind (.node node) depth = some (.ok ()) ↔
      s.isSupertypeOf kind tag = true ∧ ∀ shape, s.shape tag = .ok shape → depth = .deep →
        checkFields (s.checkKind limit) depth tag node shape.fields = some (.ok ()) := by
  constructor
  · intro passed
    have accepted : s.Accepts depth (.kind kind) (.node node) :=
      checkKind_decides (limit + 1) kind _ _ passed
    obtain ⟨defined, shape, resolves, below⟩ := accepted.tag_below tagged
    refine ⟨isSupertypeOf_iff.mpr ⟨shape, resolves, below⟩, ?_⟩
    intro shape' resolves' deep
    obtain rfl := Except.ok.inj (resolves.symm.trans resolves')
    have judges : s.Judges depth kind node tag shape := .tagged tagged deep defined resolves below
    rw [← checkKind_judged accepted.asked judges]
    exact passed
  · intro ⟨above, fields⟩
    obtain ⟨shape, resolves, below⟩ := isSupertypeOf_iff.mp above
    have asked := coherent.contains_of_ancestor resolves below
    have defined := contains_of_shapeBelow resolves
    cases depth with
    | shallow => exact checkKind_believed asked tagged defined resolves below limit
    | deep =>
      have judges : s.Judges .deep kind node tag shape := .tagged tagged rfl defined resolves below
      rw [checkKind_judged asked judges]
      exact fields shape resolves rfl

/-- The order of the kinds of a schema is a partial one, which the declared
supertypes generate and the lists of ancestors go along with. -/
structure Ordered (s : Schema) : Prop where
  declared : ∀ {sub shape}, s.shape sub = .ok shape →
    ∀ sup, s.isSupertypeOf sup sub = true ↔ s.Reaches sub sup
  refl : ∀ {kind shape}, s.shape kind = .ok shape → s.isSupertypeOf kind kind = true
  trans : ∀ {low middle high}, s.isSupertypeOf middle low = true →
    s.isSupertypeOf high middle = true → s.isSupertypeOf high low = true
  antisymm : ∀ {one other}, s.isSupertypeOf other one = true → s.isSupertypeOf one other = true →
    one = other
  walked : ∀ {kind shape}, s.shape kind = .ok shape → ∃ k, s.find? kind = some k ∧
    s.preorder kind = kind :: k.supertypes.flatMap s.preorder
  listed : ∀ {kind shape}, s.shape kind = .ok shape → ∃ ancestors,
    s.supertypesOf kind = .ok ancestors ∧ ancestors.head? = some kind ∧ ancestors.Nodup ∧
      (∀ other, other ∈ ancestors ↔ s.isSupertypeOf other kind = true) ∧
      ancestors = (s.preorder kind).eraseDups

theorem Coherent.ordered (coherent : s.Coherent) : s.Ordered where
  declared resolved sup := coherent.isSupertypeOf_iff_reaches resolved
  refl resolved := (coherent.isSupertypeOf_iff_reaches resolved).mpr .refl
  trans := coherent.isSupertypeOf_trans
  antisymm := coherent.isSupertypeOf_antisymm
  walked := by
    intro kind shape resolved
    obtain ⟨k, bases, found, -⟩ := coherent.shape_ok_iff.mp resolved
    exact ⟨k, found, preorder_eq (coherent.grounded resolved) found⟩
  listed := by
    intro kind shape resolved
    have visits := coherent.ancestors_eq resolved
    obtain ⟨k, bases, found, -⟩ := coherent.shape_ok_iff.mp resolved
    have first : [kind] <+: shape.ancestors := by
      rw [visits, preorder_eq (coherent.grounded resolved) found, ← addNames_nil]
      exact prefix_addNames [kind] _
    refine ⟨shape.ancestors, by rw [supertypesOf, resolved]; rfl, ?_,
      coherent.nodup_ancestors resolved, ?_, visits⟩
    · obtain ⟨rest, split⟩ := first
      rw [← split]
      rfl
    · intro other
      rw [coherent.mem_ancestors_iff resolved, coherent.isSupertypeOf_iff_reaches resolved]

/-- **Subtyping is the declared partial order, and nodes with a tag go along
with it.**  After any requests, the kinds that resolve are ordered as they are
declared.  A node with a tag that is accepted as one kind is accepted as every
kind above it, at either depth, and a shallow check accepts it exactly as what
is above its tag. -/
theorem Reachable.subtyping_order (reachable : s.Reachable) :
    s.Ordered ∧ ∀ (node : Node) tag, node.tag = some tag → ∀ limit,
      (∀ sup kind depth, s.isSupertypeOf sup kind = true →
        s.checkKind limit kind (.node node) depth = some (.ok ()) →
        s.checkKind limit sup (.node node) depth = some (.ok ())) ∧
      ∀ kind, s.checkKind (limit + 1) kind (.node node) .shallow = some (.ok ()) ↔
        s.isSupertypeOf kind tag = true := by
  have coherent := reachable.coherent
  refine ⟨coherent.ordered, ?_⟩
  intro node tag tagged limit
  constructor
  · intro sup kind depth above passed
    cases limit with
    | zero => cases passed
    | succ limit =>
      rw [coherent.checkKind_tagged_iff tagged] at passed ⊢
      obtain ⟨below, fields⟩ := passed
      exact ⟨coherent.isSupertypeOf_trans below above, fields⟩
  · intro kind
    rw [coherent.checkKind_tagged_iff tagged]
    constructor
    · intro passed
      exact passed.1
    · intro above
      refine ⟨above, fun shape resolves deep => ?_⟩
      cases deep

/-- The walk up from the tip of the diamond comes to the top twice, and to
the right only after it.  A node of the tip that passes a deep check as what
is on the left passes it as the top; one without its field is still taken at
its word by a shallow check. -/
theorem diamond_ordered :
    let node := Record.tagged "Both"
    let full := node.set "id" (.string "tip")
    diamond.Reachable ∧ diamond.Ordered ∧
      diamond.preorder "Both" = ["Both", "Left", "Node", "Right", "Node"] ∧
      diamond.supertypesOf "Both" = .ok ["Both", "Left", "Node", "Right"] ∧
      diamond.isSupertypeOf "Node" "Left" = true ∧
      diamond.checkKind 1 "Left" (.node full) .deep = some (.ok ()) ∧
      diamond.checkKind 1 "Node" (.node full) .deep = some (.ok ()) ∧
      diamond.checkKind 1 "Node" (.node node) .deep ≠ some (.ok ()) ∧
      diamond.checkKind 1 "Node" (.node node) .shallow = some (.ok ()) := by
  intro node full
  have reachable : diamond.Reachable := Reachable.empty.foldl _
  obtain ⟨ordered, accepts⟩ := reachable.subtyping_order
  have above : diamond.isSupertypeOf "Node" "Left" = true := by decide +kernel
  have passed : diamond.checkKind 1 "Left" (.node full) .deep = some (.ok ()) := by decide +kernel
  have below : diamond.isSupertypeOf "Node" "Both" = true := by decide +kernel
  exact ⟨reachable, ordered, by decide +kernel, by decide +kernel, above, passed,
    (accepts full "Both" rfl 1).1 "Node" "Left" .deep above passed, by decide +kernel,
    ((accepts node "Both" rfl 0).2 "Node").mpr below⟩

end NodeSchema.Schema
