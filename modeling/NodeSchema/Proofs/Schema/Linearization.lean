import NodeSchema.Proofs.Schema.Inheritance
import NodeSchema.Proofs.Schema.Reachable
import NodeSchema.Proofs.Schema.Walks

/-!
# Inheritance in one line

All field declarations that bear on a kind can be written in one line: those
of its first supertype with everything above it, those of the second, and so
on, and its own at the end.  A kind that is reached on several paths stands
there once per path.

Resolution never writes that line.  It merges, at every level, lists that
were merged at the level above.  The effective fields are nevertheless what
the line says when it is read once from left to right: a name has the place
of its first occurrence and means what the last one says.

* `Schema.flatFields` — the line;
* `flatFields_eq` — as a walk: what it is for a kind with no cycle above it;
* `Coherent.fields_eq_merge` — effective fields are the line, merged once;
* `Reachable.effective_fields_linearized` — so places are those of first
  occurrences and contents those of last ones.
-/

namespace NodeSchema.Schema

/-- The declared fields at and above `name`, supertypes first.  A kind in
`below` is under way and adds nothing. -/
def flatFieldsBelow (s : Schema) (below : List String) (name : String) : List Field :=
  match _ : s.find? name with
  | none => []
  | some k =>
    if _ : below.contains name = false then
      (k.supertypes.flatMap fun base => s.flatFieldsBelow (name :: below) base) ++ k.fields
    else []
termination_by (s.outside below).length
decreasing_by exact outside_cons_lt ‹s.find? name = some _› ‹_›

/-- The declared fields at and above a kind, once for each path that leads
to their kind, supertypes first. -/
def flatFields (s : Schema) (name : String) : List Field := s.flatFieldsBelow [] name

variable {s : Schema} {name : String} {k : Kind} {shape : Shape}

/-- The line is a walk on which each kind adds its own fields at the end. -/
theorem flatFieldsBelow_eq (s : Schema) (below : List String) (name : String) :
    s.flatFieldsBelow below name = s.walkBelow (fun k above => above ++ k.fields) below name := by
  fun_induction flatFieldsBelow s below name with
  | case1 below name absent => rw [walkBelow_of_absent absent]
  | case2 below name k found new ih =>
    have free : name ∉ below := by simpa using new
    rw [walkBelow_of_found found free]
    congr 1
    exact List.flatMap_congr fun base _ => ih base
  | case3 below name k found under =>
    rw [walkBelow.eq_def]
    split
    · rfl
    · rw [dif_neg under]

/-- **The line of a kind** with no cycle above it: the lines of its
supertypes in the order in which they are listed, then its own fields in the
order in which they were declared. -/
theorem flatFields_eq (grounded : s.Grounded name) (found : s.find? name = some k) :
    s.flatFields name = k.supertypes.flatMap s.flatFields ++ k.fields := by
  have line : s.flatFields = s.walk fun k above => above ++ k.fields :=
    funext (s.flatFieldsBelow_eq [])
  rw [line]
  exact walk_eq grounded found

/-- Merging in lists that were merged on their own is merging in all that
they were merged from. -/
theorem foldl_merge_fields {flat : String → List Field} {bases : List String}
    {shapes : List Shape}
    (each : List.Forall₂ (fun base shape => shape.fields = Field.merge [] (flat base)) bases shapes)
    (fields : List Field) :
    shapes.foldl (fun fields shape => Field.merge fields shape.fields) fields =
      Field.merge fields (bases.flatMap flat) := by
  induction each generalizing fields with
  | nil => rfl
  | @cons base shape bases shapes first _ ih =>
    have absorbed : Field.merge fields shape.fields = Field.merge fields (flat base) := by
      rw [first, Field.merge_merge]
    rw [List.foldl_cons, ih, absorbed, List.flatMap_cons, Field.merge_append]

/-- **One merge.**  The effective fields of a kind that resolves are its line,
merged once, whether held shapes were used on the way or not. -/
theorem Coherent.fields_eq_merge (coherent : s.Coherent) (resolved : s.shape name = .ok shape) :
    shape.fields = Field.merge [] (s.flatFields name) := by
  have grounded := coherent.grounded resolved
  revert grounded
  refine coherent.shape_induction (motive := fun name shape =>
    s.Grounded name → shape.fields = Field.merge [] (s.flatFields name)) ?_ resolved
  intro name k bases found walked ih grounded
  have each : List.Forall₂ (fun base shape => shape.fields = Field.merge [] (s.flatFields base))
      k.supertypes bases := by
    refine forall₂_of_mapM walked fun base listed shape resolved => ?_
    exact ih base listed shape resolved (grounded.above ⟨k, found, listed⟩)
  calc k.effectiveFields bases
      = Field.merge (Field.merge [] (k.supertypes.flatMap s.flatFields)) k.fields := by
        rw [Kind.effectiveFields, foldl_merge_fields each]
    _ = Field.merge [] (s.flatFields name) := by
        rw [flatFields_eq grounded found, Field.merge_append]

/-- The effective fields of a kind that resolves have distinct names. -/
theorem Coherent.nodup_fieldNames (coherent : s.Coherent) (resolved : s.shape name = .ok shape) :
    (Field.names shape.fields).Nodup := by
  rw [coherent.fields_eq_merge resolved]
  exact Field.nodup_names_merge _

/-- **Fields are linearized.**  After any requests, for every kind that
resolves: its line is made of the lines of its supertypes, which resolve as
well, in the order in which they are listed, and its own fields.  Its
effective fields have each name of the line once, in the order of first
occurrences, and the field of each name is the last one of that name. -/
theorem Reachable.effective_fields_linearized (reachable : s.Reachable)
    (resolved : s.shape name = .ok shape) :
    (∃ k, s.find? name = some k ∧ (∀ base ∈ k.supertypes, ∃ above, s.shape base = .ok above) ∧
        s.flatFields name = k.supertypes.flatMap s.flatFields ++ k.fields) ∧
      (Field.names shape.fields).Nodup ∧
      Field.names shape.fields = (Field.names (s.flatFields name)).eraseDups ∧
      ∀ f ∈ shape.fields, Field.find? (s.flatFields name).reverse f.name = some f := by
  have coherent := reachable.coherent
  have merged := coherent.fields_eq_merge resolved
  have distinct := coherent.nodup_fieldNames resolved
  refine ⟨?_, distinct, ?_, ?_⟩
  · obtain ⟨k, bases, found, walked, -⟩ := coherent.shape_ok_iff.mp resolved
    have line := flatFields_eq (coherent.grounded resolved) found
    refine ⟨k, found, fun base listed => ?_, line⟩
    obtain ⟨above, -, resolved⟩ := exists_ok_of_mapM walked listed
    exact ⟨above, resolved⟩
  · rw [merged, Field.names_merge, Field.names_nil, addNames_nil]
  · intro f listed
    have here : Field.find? shape.fields f.name = some f := Field.find?_of_mem distinct listed
    have last := Field.find?_merge [] (s.flatFields name) f.name
    rw [← merged, here] at last
    have nothing : Field.find? [] f.name = none := rfl
    rw [nothing, Option.or_none] at last
    exact last.symm

/-- Badges are named and round figures.  A named figure has a label of its
own, but the label of all figures comes later in the line of a badge, on the
path through round figures.  The shape of named figures is held when badges
are declared. -/
def figures : Schema :=
  [.define "Figure", .declare "Figure" (.field (.required "label" .string)),
    .declare "Figure" (.field (.derived "origin" .number (.constant .null))),
    .define "Named", .declare "Named" (.supertypes ["Figure"]),
    .declare "Named" (.field (.optional "label" .string (.constant (.string "none")))),
    .validator "Named",
    .define "Round", .declare "Round" (.supertypes ["Figure"]),
    .declare "Round" (.field (.required "radius" .number)),
    .define "Badge", .declare "Badge" (.field (.required "origin" .number)),
    .declare "Badge" (.supertypes ["Named", "Round"])].foldl after .empty

/-- A badge has its places from named figures, its label from figures as
round figures inherit them, and its origin from itself. -/
theorem badge_linearized :
    figures.Reachable ∧ figures.isFinalized "Named" = true ∧
      (figures.flatFields "Badge").map (fun f => (f.name, f.default.isSome, f.hidden)) =
        [("label", false, false), ("origin", true, true), ("label", true, false),
          ("label", false, false), ("origin", true, true), ("radius", false, false),
          ("origin", false, false)] ∧
      ∃ shape, figures.shape "Badge" = .ok shape ∧
        Field.names shape.fields = ["label", "origin", "radius"] ∧
        ∀ f ∈ shape.fields,
          Field.find? (figures.flatFields "Badge").reverse f.name = some f := by
  have reachable : figures.Reachable := Reachable.empty.foldl _
  have resolves : (figures.shape "Badge").isOk = true := by decide +kernel
  obtain ⟨shape, resolved⟩ := exists_ok_of_isOk resolves
  obtain ⟨-, -, places, contents⟩ := reachable.effective_fields_linearized resolved
  have line : (Field.names (figures.flatFields "Badge")).eraseDups =
      ["label", "origin", "radius"] := by decide +kernel
  exact ⟨reachable, by decide +kernel, by decide +kernel, shape, resolved, places.trans line,
    contents⟩

end NodeSchema.Schema
