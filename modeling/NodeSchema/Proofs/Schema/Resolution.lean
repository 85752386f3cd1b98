import Mathlib.Data.List.Forall2
import Mathlib.Logic.Relation
import NodeSchema.Proofs.Schema.Lookup

/-!
# Resolution without held shapes

In a schema where no kind holds its shape, the shape of a kind is a function
of the declarations alone.  The recursion carries a stack of the kinds that
are under way; this file removes it.

* `Schema.Extends` — one kind lists another as a supertype;
* `shapeBelow_eq_shape` — the stack does not matter to a kind above which
  there is no cycle and nothing from the stack;
* `grounded_of_shape` — a kind that resolves has no cycle above it;
* `shape_ok_iff` — a kind resolves exactly when its supertypes do and its
  shape can be assembled from theirs;
* `shape_ok_induction` — the induction over a resolution;
* `shapeBelow_congr` — only the kinds at and above a kind matter to it.
-/

namespace NodeSchema

/-- A computation with a continuation succeeds if both do. -/
theorem bind_ok_iff {α β ε : Type} {x : Except ε α} {f : α → Except ε β} {result : β} :
    x >>= f = .ok result ↔ ∃ a, x = .ok a ∧ f a = .ok result := by
  cases x with
  | error e => simp [bind, Except.bind]
  | ok a => simp [bind, Except.bind]

/-- What is known to succeed has a result. -/
theorem exists_ok_of_isOk {α ε : Type} {x : Except ε α} (succeeds : x.isOk = true) :
    ∃ a, x = .ok a := by
  cases x with
  | error e => cases succeeds
  | ok a => exact ⟨a, rfl⟩

/-- Going through a list succeeds if each step does, and gives the results
in order. -/
theorem mapM_ok_iff {α β ε : Type} {f : α → Except ε β} {l : List α} {results : List β} :
    l.mapM f = .ok results ↔ List.Forall₂ (fun a b => f a = .ok b) l results := by
  induction l generalizing results with
  | nil =>
    rw [List.mapM_nil, List.forall₂_nil_left_iff]
    exact ⟨fun h => (Except.ok.inj h).symm, fun h => congrArg _ h.symm⟩
  | cons a l ih =>
    simp only [List.mapM_cons, bind_ok_iff, List.forall₂_cons_left_iff, ih]
    constructor
    · rintro ⟨b, first, bs, rest, h⟩
      exact ⟨b, bs, first, rest, (Except.ok.inj h).symm⟩
    · rintro ⟨b, bs, first, rest, rfl⟩
      exact ⟨b, first, bs, rest, rfl⟩

/-- Each step of a successful walk through a list succeeds. -/
theorem exists_ok_of_mapM {α β ε : Type} {f : α → Except ε β} {l : List α} {results : List β}
    (walked : l.mapM f = .ok results) {a : α} (ha : a ∈ l) : ∃ b ∈ results, f a = .ok b := by
  have pointwise := mapM_ok_iff.mp walked
  induction pointwise with
  | nil => cases ha
  | cons first rest ih =>
    rcases List.mem_cons.mp ha with rfl | later
    · exact ⟨_, List.mem_cons_self, first⟩
    · obtain ⟨b, hb, ok⟩ := ih (mapM_ok_iff.mpr rest) later
      exact ⟨b, List.mem_cons_of_mem _ hb, ok⟩

/-- Each result of a successful walk through a list is the result of a
step. -/
theorem exists_mem_of_mapM {α β ε : Type} {f : α → Except ε β} {l : List α} {results : List β}
    (walked : l.mapM f = .ok results) {b : β} (hb : b ∈ results) : ∃ a ∈ l, f a = .ok b := by
  have pointwise := mapM_ok_iff.mp walked
  induction pointwise with
  | nil => cases hb
  | cons first rest ih =>
    rcases List.mem_cons.mp hb with rfl | later
    · exact ⟨_, List.mem_cons_self, first⟩
    · obtain ⟨a, ha, ok⟩ := ih (mapM_ok_iff.mpr rest) later
      exact ⟨a, List.mem_cons_of_mem _ ha, ok⟩

/-- What some result satisfies, some step does, if the two go together. -/
theorem exists_mem_mapM_iff {α β ε : Type} {f : α → Except ε β} {l : List α} {results : List β}
    (walked : l.mapM f = .ok results) {p : β → Prop} {q : α → Prop}
    (each : ∀ a ∈ l, ∀ b, f a = .ok b → (p b ↔ q a)) :
    (∃ b ∈ results, p b) ↔ ∃ a ∈ l, q a := by
  constructor
  · rintro ⟨b, listed, holds⟩
    obtain ⟨a, member, step⟩ := exists_mem_of_mapM walked listed
    exact ⟨a, member, (each a member b step).mp holds⟩
  · rintro ⟨a, member, holds⟩
    obtain ⟨b, listed, step⟩ := exists_ok_of_mapM walked member
    exact ⟨b, listed, (each a member b step).mpr holds⟩

/-- What each step gives, the results are in order. -/
theorem forall₂_of_mapM {α β ε : Type} {f : α → Except ε β} {l : List α} {results : List β}
    (walked : l.mapM f = .ok results) {r : α → β → Prop}
    (each : ∀ a ∈ l, ∀ b, f a = .ok b → r a b) : List.Forall₂ r l results := by
  have steps : List.Forall₂ (fun a b => a ∈ l ∧ f a = .ok b) l results :=
    (List.forall₂_and_left _ _).mpr ⟨fun _ listed => listed, mapM_ok_iff.mp walked⟩
  exact steps.imp fun a b ⟨listed, step⟩ => each a listed b step

/-- Walks that take the same steps end alike. -/
theorem mapM_congr_mem {α β ε : Type} {f g : α → Except ε β} {l : List α}
    (same : ∀ a ∈ l, f a = g a) : l.mapM f = l.mapM g := by
  induction l with
  | nil => rfl
  | cons a l ih =>
    rw [List.mapM_cons, List.mapM_cons, same a List.mem_cons_self,
      ih fun b hb => same b (List.mem_cons_of_mem a hb)]

namespace Schema

/-- `name` lists `base` as a supertype. -/
def Extends (s : Schema) (name base : String) : Prop :=
  ∃ k, s.find? name = some k ∧ base ∈ k.supertypes

/-- `base` is at or above `name`, by the supertypes that are listed. -/
abbrev Reaches (s : Schema) : String → String → Prop := Relation.ReflTransGen s.Extends

/-- No kind holds its shape. -/
def Bare (s : Schema) : Prop := ∀ {name k}, s.find? name = some k → k.shape = none

theorem bare_declared (s : Schema) : s.declared.Bare := by
  intro name k found
  rw [find?_declared] at found
  obtain ⟨k, -, rfl⟩ := Option.map_eq_some_iff.mp found
  rfl

variable {s : Schema} {name : String} {k : Kind} {below : List String}

theorem Extends.mem {base : String} (up : s.Extends name base) (found : s.find? name = some k) :
    base ∈ k.supertypes := by
  obtain ⟨k', found', listed⟩ := up
  obtain rfl : k = k' := Option.some.inj (found.symm.trans found')
  exact listed

/-- At or above a kind are the kind itself and what is at or above its
supertypes. -/
theorem reaches_iff (found : s.find? name = some k) {other : String} :
    s.Reaches name other ↔ other = name ∨ ∃ base ∈ k.supertypes, s.Reaches base other := by
  constructor
  · intro reach
    rcases reach.cases_head with rfl | ⟨base, up, rest⟩
    · exact .inl rfl
    · exact .inr ⟨base, up.mem found, rest⟩
  · rintro (rfl | ⟨base, listed, rest⟩)
    · exact .refl
    · exact rest.head ⟨k, found, listed⟩

theorem shapeBelow_of_absent (absent : s.find? name = none) :
    s.shapeBelow below name = .error (.unresolved name below.head?) := by
  unfold shapeBelow
  split
  · rfl
  · simp_all

theorem shapeBelow_of_held {shape : Shape} (found : s.find? name = some k)
    (held : k.shape = some shape) : s.shapeBelow below name = .ok shape := by
  unfold shapeBelow
  split
  · simp_all
  · simp_all

theorem shapeBelow_of_open (found : s.find? name = some k) (opened : k.shape = none)
    (new : below.contains name = false) :
    s.shapeBelow below name =
      (k.supertypes.mapM fun base => s.shapeBelow (name :: below) base) >>= k.assemble := by
  rw [shapeBelow]
  split
  · simp_all
  · rename_i k' found'
    obtain rfl : k = k' := Option.some.inj (found.symm.trans found')
    rw [opened]
    simp only [new]
    rfl

theorem shapeBelow_of_cyclic (found : s.find? name = some k) (opened : k.shape = none)
    (under : below.contains name = true) :
    s.shapeBelow below name = .error (.declaration name .cyclic) := by
  rw [shapeBelow]
  split
  · simp_all
  · rename_i k' found'
    obtain rfl : k = k' := Option.some.inj (found.symm.trans found')
    rw [opened]
    simp only [under]
    rfl

/-- Going up by the supertypes ends: there is no cycle at or above the kind. -/
abbrev Grounded (s : Schema) (name : String) : Prop := Acc (fun base name => s.Extends name base) name

theorem Grounded.above {base : String} (grounded : s.Grounded name) (h : s.Extends name base) :
    s.Grounded base := grounded.inv h

/-- No supertype of a grounded kind leads back to it. -/
theorem Grounded.not_reaches (grounded : s.Grounded name) :
    ∀ {base}, s.Extends name base → ¬ s.Reaches base name := by
  induction grounded with
  | intro name _ ih =>
    intro base up back
    -- a way back from `base` to `name` is a way from `base` round to itself
    rcases back.cases_head with rfl | ⟨next, step, rest⟩
    · exact ih _ up up .refl
    · exact ih base up step (rest.tail up)

theorem Grounded.not_cycle (grounded : s.Grounded name) :
    ¬ Relation.TransGen s.Extends name name := by
  intro cycle
  obtain ⟨base, up, back⟩ := Relation.TransGen.head'_iff.mp cycle
  exact grounded.not_reaches up back

/-- A kind that resolves is grounded, and none of the kinds that are under
way is at or above it. -/
theorem grounded_of_shapeBelow (bare : s.Bare) (below : List String) (name : String) :
    ∀ shape, s.shapeBelow below name = .ok shape →
      s.Grounded name ∧ ∀ under ∈ below, ¬ s.Reaches name under := by
  fun_induction shapeBelow s below name with
  | case1 below name absent => intro shape h; cases h
  | case2 below name k found shape held =>
    rw [bare found] at held
    cases held
  | case3 below name k found opened new ih =>
    intro shape h
    obtain ⟨bases, walked, -⟩ := bind_ok_iff.mp h
    have above : ∀ base ∈ k.supertypes,
        s.Grounded base ∧ ∀ under ∈ name :: below, ¬ s.Reaches base under := by
      intro base listed
      obtain ⟨shape, -, resolved⟩ := exists_ok_of_mapM walked listed
      exact ih base shape resolved
    refine ⟨.intro name ?_, ?_⟩
    · intro base up
      exact (above base (up.mem found)).1
    · intro under hu reach
      rcases (reaches_iff found).mp reach with rfl | ⟨base, listed, rest⟩
      · simp_all
      · exact (above base listed).2 under (List.mem_cons_of_mem name hu) rest
  | case4 below name k found opened under => intro shape h; cases h

/-- **The stack does not matter** to a defined kind above which there is
neither a cycle nor a kind that is under way. -/
theorem shapeBelow_eq_shape (bare : s.Bare) (grounded : s.Grounded name) :
    ∀ {below}, s.contains name = true → (∀ under ∈ below, ¬ s.Reaches name under) →
      s.shapeBelow below name = s.shape name := by
  induction grounded with
  | intro name above ih =>
    intro below defined free
    obtain ⟨k, found⟩ := contains_iff.mp defined
    have new : below.contains name = false := by
      rw [List.contains_eq_mem, decide_eq_false_iff_not]
      exact fun under => free name under .refl
    rw [shape, shapeBelow_of_open found (bare found) new, shapeBelow_of_open found (bare found) rfl]
    congr 1
    refine mapM_congr_mem fun base listed => ?_
    have up : s.Extends name base := ⟨k, found, listed⟩
    cases there : s.find? base with
    | none => rw [shapeBelow_of_absent there, shapeBelow_of_absent there]; rfl
    | some _ =>
      have back : ¬ s.Reaches base name := Grounded.not_reaches ⟨name, above⟩ up
      rw [ih base up (contains_iff.mpr ⟨_, there⟩), ih base up (contains_iff.mpr ⟨_, there⟩)]
      · simpa using back
      · intro under hu
        rcases List.mem_cons.mp hu with rfl | hu
        · exact back
        · exact fun reach => free under hu (reach.head up)

/-- A kind that resolves is defined. -/
theorem contains_of_shapeBelow {shape : Shape} (h : s.shapeBelow below name = .ok shape) :
    s.contains name = true := by
  cases found : s.find? name with
  | none => rw [shapeBelow_of_absent found] at h; cases h
  | some k => exact contains_iff.mpr ⟨k, found⟩

/-- What resolves under a stack resolves alike without it. -/
theorem shape_of_shapeBelow (bare : s.Bare) {shape : Shape}
    (h : s.shapeBelow below name = .ok shape) : s.shape name = .ok shape := by
  obtain ⟨grounded, free⟩ := grounded_of_shapeBelow bare below name shape h
  rw [← shapeBelow_eq_shape bare grounded (contains_of_shapeBelow h) free, h]

theorem grounded_of_shape (bare : s.Bare) {shape : Shape} (h : s.shape name = .ok shape) :
    s.Grounded name :=
  (grounded_of_shapeBelow bare [] name shape h).1

/-- **What resolution computes.**  A kind resolves exactly when all its
supertypes do and its shape can be assembled from theirs. -/
theorem shape_ok_iff (bare : s.Bare) {shape : Shape} :
    s.shape name = .ok shape ↔
      ∃ k bases, s.find? name = some k ∧ k.supertypes.mapM s.shape = .ok bases ∧
        k.assemble bases = .ok shape := by
  constructor
  · intro resolved
    obtain ⟨k, found⟩ := contains_iff.mp (contains_of_shapeBelow resolved)
    have resolved' := resolved
    rw [Schema.shape, shapeBelow_of_open found (bare found) rfl] at resolved'
    obtain ⟨bases, walked, assembled⟩ := bind_ok_iff.mp resolved'
    have walked' := (mapM_ok_iff.mp walked).imp fun base shape => shape_of_shapeBelow bare
    exact ⟨k, bases, found, mapM_ok_iff.mpr walked', assembled⟩
  · rintro ⟨k, bases, found, walked, assembled⟩
    have grounded : s.Grounded name := by
      refine .intro name fun base up => ?_
      obtain ⟨shape, -, resolved⟩ := exists_ok_of_mapM walked (up.mem found)
      exact grounded_of_shape bare resolved
    have same : ∀ base ∈ k.supertypes, s.shapeBelow [name] base = s.shape base := by
      intro base listed
      obtain ⟨shape, -, resolved⟩ := exists_ok_of_mapM walked listed
      have back := grounded.not_reaches ⟨k, found, listed⟩
      exact shapeBelow_eq_shape bare (grounded_of_shape bare resolved)
        (contains_of_shapeBelow resolved) (by simpa using back)
    rw [Schema.shape, shapeBelow_of_open found (bare found) rfl, mapM_congr_mem same]
    exact bind_ok_iff.mpr ⟨bases, walked, assembled⟩

/-- **Induction over a resolution**: from the supertypes to the kind. -/
theorem shape_ok_induction (bare : s.Bare) {motive : String → Shape → Prop}
    (step : ∀ name k bases shape, s.find? name = some k → k.supertypes.mapM s.shape = .ok bases →
      (∀ base ∈ k.supertypes, ∀ shape, s.shape base = .ok shape → motive base shape) →
      k.assemble bases = .ok shape → motive name shape)
    {shape : Shape} (resolved : s.shape name = .ok shape) : motive name shape := by
  have grounded := grounded_of_shape bare resolved
  induction grounded generalizing shape with
  | intro name _ ih =>
    obtain ⟨k, bases, found, walked, assembled⟩ := (shape_ok_iff bare).mp resolved
    refine step name k bases shape found walked ?_ assembled
    intro base listed shape resolved
    exact ih base ⟨k, found, listed⟩ resolved

/-- **Only the kinds at and above a kind matter** to its resolution, and to
the error if it does not resolve. -/
theorem shapeBelow_congr {t : Schema} (below : List String) (name : String) :
    (∀ other, s.Reaches name other → t.find? other = s.find? other) →
      t.shapeBelow below name = s.shapeBelow below name := by
  fun_induction shapeBelow s below name with
  | case1 below name absent =>
    intro agree
    exact shapeBelow_of_absent ((agree name .refl).trans absent)
  | case2 below name k found shape held =>
    intro agree
    exact shapeBelow_of_held ((agree name .refl).trans found) held
  | case3 below name k found opened new ih =>
    intro agree
    rw [shapeBelow_of_open ((agree name .refl).trans found) opened new]
    congr 1
    refine mapM_congr_mem fun base listed => ih base fun other reach => ?_
    exact agree other (reach.head ⟨k, found, listed⟩)
  | case4 below name k found opened under =>
    intro agree
    exact shapeBelow_of_cyclic ((agree name .refl).trans found) opened (by simpa using under)

end Schema

end NodeSchema
