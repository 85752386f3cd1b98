import NodeSchema.Proofs.Record.Entries
import NodeSchema.Proofs.Schema.Growth

/-!
# Where kinds are stored

A schema finds a kind by going through its kinds.  It need not: the place of a
kind in the row is fixed when the kind is created, as kinds are only ever put
behind the others and changed where they stand.  So it can be written down
once, and looked up.

This file does that.  A store is a row of kinds with the places of their
names.  A kind is created if its name has no place, and gets the next one; a
declaration goes to the kind at the place of the name, whatever stands there.
No place is ever checked, and none has to be.

* `Store.after` — requests to a store;
* `Store.Filed` — a name has a place exactly if it stands there;
* `Filed.after` — a request to a filed store does what it does to the schema,
  and leaves the store filed;
* `Store.after_requests` — so after any requests the row is the schema, and
  looking up in it by place is looking up by name.
-/

namespace NodeSchema

/-- Where no two kinds have one name, each kind is found by its name. -/
theorem Schema.find?_of_mem {s : Schema} {k : Kind} (distinct : s.names.Nodup)
    (listed : k ∈ s.kinds) : s.find? k.name = some k := by
  have named : k.name ∈ s.names := List.mem_map_of_mem listed
  obtain ⟨other, found⟩ := contains_iff.mp (mem_names_iff.mp named)
  have same := List.inj_on_of_nodup_map distinct (mem_of_find? found) listed (name_of_find? found)
  rw [found, same]

/-- The kinds of a schema in a row, with the place of each name. -/
structure Store where
  kinds : List Kind
  places : List (String × Nat)

namespace Store

/-- The store without kinds. -/
def empty : Store := ⟨[], []⟩

/-- The schema that is stored. -/
def schema (a : Store) : Schema := ⟨a.kinds⟩

/-- The kind at the place of a name. -/
def find? (a : Store) (name : String) : Option Kind :=
  (a.places.lookup name).bind fun place => a.kinds[place]?

/-- Creates a kind unless its name has a place. -/
def define (a : Store) (name : String) : Store :=
  match a.places.lookup name with
  | some _ => a
  | none => ⟨a.kinds ++ [Kind.fresh name], (name, a.kinds.length) :: a.places⟩

/-- Makes one declaration on the kind at the place of a name. -/
def declare (a : Store) (name : String) (declaration : Declaration) : Store :=
  match a.places.lookup name with
  | some place => { a with kinds := a.kinds.modify place fun k => (k.declare declaration).1 }
  | none => a

/-- The store after a request, which may have failed.  Finalizing changes
kinds where they stand. -/
def after (a : Store) : Schema.Request → Store
  | .define name => a.define name
  | .declare name declaration => a.declare name declaration
  | request => { a with kinds := (a.schema.after request).kinds }

/-- A name has a place exactly if it stands there, and has it once. -/
structure Filed (a : Store) : Prop where
  place_iff : ∀ name place, a.places.lookup name = some place ↔ a.schema.names[place]? = some name
  once : (a.places.map (·.1)).Nodup

variable {a b : Store} {name : String}

theorem filed_empty : empty.Filed where
  place_iff := by simp [empty, schema, Schema.names]
  once := List.nodup_nil

namespace Filed

/-- Which names stand where is all that matters. -/
theorem of_names (filed : a.Filed) (names : b.schema.names = a.schema.names)
    (places : b.places = a.places) : b.Filed where
  place_iff := by
    rw [names, places]
    exact filed.place_iff
  once := places ▸ filed.once

/-- No name stands at two places. -/
theorem nodup_names (filed : a.Filed) : a.schema.names.Nodup := by
  apply List.nodup_iff_injective_get.mpr
  intro first second same
  have here : a.schema.names[first.val]? = some (a.schema.names.get first) :=
    List.getElem?_eq_getElem first.isLt
  have there : a.schema.names[second.val]? = some (a.schema.names.get second) :=
    List.getElem?_eq_getElem second.isLt
  have place := (filed.place_iff _ _).mpr here
  rw [same, (filed.place_iff _ _).mpr there] at place
  exact Fin.ext (Option.some.inj place).symm

/-- At the place of a name is the kind of that name. -/
theorem kind_at (filed : a.Filed) {place : Nat} (placed : a.places.lookup name = some place) :
    ∃ k, a.kinds[place]? = some k ∧ a.schema.find? name = some k := by
  have stands := (filed.place_iff name place).mp placed
  rw [Schema.names, List.getElem?_map, Option.map_eq_some_iff] at stands
  obtain ⟨k, here, rfl⟩ := stands
  exact ⟨k, here, Schema.find?_of_mem filed.nodup_names (List.mem_of_getElem? here)⟩

/-- A name without a place stands nowhere. -/
theorem not_contains (filed : a.Filed) (unplaced : a.places.lookup name = none) :
    ¬ a.schema.contains name = true := by
  intro defined
  obtain ⟨place, stands⟩ := List.mem_iff_getElem?.mp (Schema.mem_names_iff.mpr defined)
  rw [(filed.place_iff name place).mpr stands] at unplaced
  cases unplaced

/-- **By place and by name.**  Both ways lead to the same kind. -/
theorem find?_eq (filed : a.Filed) (name : String) : a.find? name = a.schema.find? name := by
  unfold Store.find?
  rcases placed : a.places.lookup name with - | place
  · have absent := filed.not_contains placed
    rw [Schema.contains, Option.not_isSome_iff_eq_none] at absent
    exact absent.symm
  · obtain ⟨k, here, found⟩ := filed.kind_at placed
    exact here.trans found.symm

/-- A kind is created by place if it is by name, and behind the others. -/
theorem define (filed : a.Filed) (name : String) :
    (a.define name).schema = (a.schema.define name).1 ∧ (a.define name).Filed := by
  unfold Store.define Schema.define
  rcases placed : a.places.lookup name with - | place
  · have absent := filed.not_contains placed
    have unlisted : name ∉ a.schema.names := mt Schema.mem_names_iff.mp absent
    rw [if_neg absent]
    refine ⟨rfl, fun other place => ?_, ?_⟩
    · have longer : (a.kinds ++ [Kind.fresh name]).map Kind.name = a.schema.names ++ [name] :=
        List.map_append
      have size : a.schema.names.length = a.kinds.length := List.length_map _
      show _ ↔ ((a.kinds ++ [Kind.fresh name]).map Kind.name)[place]? = some other
      rw [longer, Record.lookup_cons_ite]
      have := filed.place_iff other place
      grind
    · refine List.nodup_cons.mpr ⟨fun listed => ?_, filed.once⟩
      obtain ⟨entry, listed, same⟩ := List.mem_map.mp listed
      have different := List.lookup_eq_none_iff.mp placed entry listed
      simp [same] at different
  · obtain ⟨k, -, found⟩ := filed.kind_at placed
    rw [if_pos (Schema.contains_iff.mpr ⟨k, found⟩)]
    exact ⟨rfl, filed⟩

/-- Changing the kind at the place of a name is changing the kind of that
name. -/
theorem modify_eq (filed : a.Filed) {place : Nat} {k : Kind} (change : Kind → Kind)
    (placed : a.places.lookup name = some place) (found : a.schema.find? name = some k)
    (keeps : (change k).name = k.name) :
    (⟨a.kinds.modify place change⟩ : Schema) = a.schema.replace (change k) := by
  obtain ⟨k', here, found'⟩ := filed.kind_at placed
  obtain rfl : k' = k := Option.some.inj (found'.symm.trans found)
  have named := Schema.name_of_find? found
  refine congrArg Schema.mk (List.ext_getElem? fun other => ?_)
  rw [List.getElem?_modify, List.getElem?_map]
  show _ = (a.kinds[other]?).map _
  by_cases same : place = other
  · subst same
    simp [here, keeps]
  · rcases there : a.kinds[other]? with - | k''
    · simp
    · have differs : k''.name ≠ name := by
        rintro rfl
        have stands : a.schema.names[other]? = some k''.name := by
          rw [Schema.names, List.getElem?_map]
          exact congrArg (Option.map Kind.name) there
        rw [(filed.place_iff k''.name other).mpr stands] at placed
        exact same (Option.some.inj placed).symm
      simp [same, keeps, named, differs]

/-- A declaration by place is one by name. -/
theorem declare (filed : a.Filed) (name : String) (declaration : Declaration) :
    (a.declare name declaration).schema = (a.schema.declare name declaration).1 ∧
      (a.declare name declaration).Filed := by
  have declared : (a.declare name declaration).schema = (a.schema.declare name declaration).1 := by
    unfold Store.declare Schema.declare
    rcases placed : a.places.lookup name with - | place
    · have absent := filed.not_contains placed
      rw [Schema.contains, Option.not_isSome_iff_eq_none] at absent
      rw [absent]
    · obtain ⟨k, -, found⟩ := filed.kind_at placed
      rw [found]
      exact filed.modify_eq (fun k => (k.declare declaration).1) placed found
        (k.declare_keeps declaration).1
  refine ⟨declared, filed.of_names ?_ ?_⟩
  · rw [declared, Schema.names_declare]
  · unfold Store.declare
    split <;> rfl

/-- A request that declares nothing moves no kind. -/
theorem quiet (filed : a.Filed) {request : Schema.Request} (quiet : request.quiet = true) :
    Filed ⟨(a.schema.after request).kinds, a.places⟩ :=
  filed.of_names (Schema.names_of_declared (Schema.declared_after quiet)) rfl

/-- **The step lemma.**  A request to a filed store is one to the schema, and
leaves the store filed. -/
theorem after (filed : a.Filed) (request : Schema.Request) :
    (a.after request).schema = a.schema.after request ∧ (a.after request).Filed := by
  cases request with
  | define name => exact filed.define name
  | declare name declaration => exact filed.declare name declaration
  | builder | validator | build | fromFields | isKind => exact ⟨rfl, filed.quiet rfl⟩

end Filed

/-- **The run lemma.**  After any requests the row is the schema, and the
store is filed. -/
theorem after_requests (requests : List Schema.Request) :
    (requests.foldl after empty).schema = requests.foldl Schema.after .empty ∧
      (requests.foldl after empty).Filed := by
  induction requests using List.reverseRecOn with
  | nil => exact ⟨rfl, filed_empty⟩
  | append_singleton requests last ih =>
    obtain ⟨same, filed⟩ := ih
    rw [List.foldl_append, List.foldl_append, ← same]
    exact filed.after last

end Store

end NodeSchema
