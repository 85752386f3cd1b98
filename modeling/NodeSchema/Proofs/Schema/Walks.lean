import NodeSchema.Proofs.Schema.Resolution

/-!
# Walks

What bears on a kind can be gathered by walking up: through its supertypes in
the order in which they are listed, through theirs, and so on.  A walk visits
a kind once for each path that leads to it.  Where it would go round in a
circle it turns back.

* `Schema.walk` — what is gathered at and above a kind;
* `walkBelow_eq` — the kinds that are being visited do not matter to a kind
  that leads to none of them;
* `walk_eq` — so the walk of a kind with no cycle above it is made of the
  walks of its supertypes.
-/

namespace NodeSchema.Schema

variable {α : Type}

/-- What is gathered at and above `name`: `visit` makes it from a kind and
from what was gathered above.  A kind in `below` is under way and gives
nothing. -/
def walkBelow (s : Schema) (visit : Kind → List α → List α) (below : List String)
    (name : String) : List α :=
  match _ : s.find? name with
  | none => []
  | some k =>
    if _ : below.contains name = false then
      visit k (k.supertypes.flatMap fun base => s.walkBelow visit (name :: below) base)
    else []
termination_by (s.outside below).length
decreasing_by exact outside_cons_lt ‹s.find? name = some _› ‹_›

/-- What is gathered at and above a kind. -/
def walk (s : Schema) (visit : Kind → List α → List α) (name : String) : List α :=
  s.walkBelow visit [] name

variable {s : Schema} {visit : Kind → List α → List α} {name : String} {k : Kind}
  {below : List String}

theorem walkBelow_of_absent (absent : s.find? name = none) :
    s.walkBelow visit below name = [] := by
  rw [walkBelow]
  split
  · rfl
  · next found =>
    rw [absent] at found
    cases found

theorem walkBelow_of_found (found : s.find? name = some k) (free : name ∉ below) :
    s.walkBelow visit below name =
      visit k (k.supertypes.flatMap fun base => s.walkBelow visit (name :: below) base) := by
  have new : below.contains name = false := by simpa using free
  rw [walkBelow]
  split
  · next absent =>
    rw [found] at absent
    cases absent
  · next k' found' =>
    obtain rfl : k = k' := Option.some.inj (found.symm.trans found')
    rw [dif_pos new]

/-- What is under way does not matter to a kind that leads to none of it and
has no cycle above it. -/
theorem walkBelow_eq (grounded : s.Grounded name) :
    ∀ {below}, (∀ under ∈ below, ¬ s.Reaches name under) →
      s.walkBelow visit below name = s.walk visit name := by
  induction grounded with
  | intro name above ih =>
    intro below free
    rcases found : s.find? name with - | k
    · rw [walk, walkBelow_of_absent found, walkBelow_of_absent found]
    have new : name ∉ below := fun under => free name under .refl
    rw [walk, walkBelow_of_found found new, walkBelow_of_found found List.not_mem_nil]
    congr 1
    refine List.flatMap_congr fun base listed => ?_
    have up : s.Extends name base := ⟨k, found, listed⟩
    have back : ¬ s.Reaches base name := Grounded.not_reaches ⟨name, above⟩ up
    have free' : ∀ under ∈ name :: below, ¬ s.Reaches base under := by
      intro under member
      rcases List.mem_cons.mp member with rfl | member
      · exact back
      · exact fun reach => free under member (reach.head up)
    have alone : ∀ under ∈ [name], ¬ s.Reaches base under := by
      intro under member
      rw [List.mem_singleton.mp member]
      exact back
    rw [ih base up free', ih base up alone]

/-- **The walk of a kind** with no cycle above it: a visit to the kind after
the walks of its supertypes, in the order in which they are listed. -/
theorem walk_eq (grounded : s.Grounded name) (found : s.find? name = some k) :
    s.walk visit name = visit k (k.supertypes.flatMap (s.walk visit)) := by
  rw [walk, walkBelow_of_found found List.not_mem_nil]
  congr 1
  refine List.flatMap_congr fun base listed => ?_
  have up : s.Extends name base := ⟨k, found, listed⟩
  apply walkBelow_eq (grounded.above up)
  intro under member
  rw [List.mem_singleton.mp member]
  exact grounded.not_reaches up

end NodeSchema.Schema
