import NodeSchema.Proofs.Field.Merging
import NodeSchema.Proofs.Record.Arrangement
import NodeSchema.Proofs.Schema.Construction

/-!
# What a builder assembles

A builder sets what it is given, fills in the other fields one by one, puts
all of them in order and judges them.  Here the first three steps are put into
one description of the node that comes out, without the order in which things
are done: a field that was given has the value that was given, and any other
field is what its default makes of the values that were given and of the
fields that come before it and were not given either.

* `Builder.fill_added` — filling appends one entry for each absent field;
* `Builder.Assembles` — the node that is assembled from what is given;
* `Builder.assembles_of_fill` — filling and arranging assemble it;
* `Assembles.unique` — there is only one;
* `Builder.judge_ok_iff`, `Builder.judge_error_iff` — judging passes if the
  check of each field does, and otherwise reports the first that does not.
-/

namespace NodeSchema.Builder

variable {s : Schema} {b : Builder} {limit : Nat} {kind : String} {node node' filled : Node}
  {fields : List Field} {given : List (String × Value)}

/-- `added` are the entries by which filling extends a node: one for each
absent field in order, and each of them what the default of the field makes of
the node as far as it is extended. -/
structure Added (node : Node) (fields : List Field) (added : List (String × Value)) : Prop where
  names : added.map (·.1) = (Field.names fields).filter fun name => !node.has name
  each : ∀ before name value after, added = before ++ (name, value) :: after →
    ∃ f ∈ fields, f.name = name ∧ ∃ d, f.default = some d ∧
      value = d.produce ⟨node.tag, node.entries ++ before⟩

/-- A field that is present adds nothing. -/
theorem Added.present {field : Field} {added : List (String × Value)}
    (has : node.has field.name = true) (rest : Added node fields added) :
    Added node (field :: fields) added where
  names := by rw [rest.names, Field.names_cons, List.filter_cons_of_neg (by simp [has])]
  each before name value after split := by
    obtain ⟨f, listed, found⟩ := rest.each before name value after split
    exact ⟨f, List.mem_cons_of_mem field listed, found⟩

/-- An absent field adds what its default makes of the node, and the others go
on from there. -/
theorem Added.absent {field : Field} {d : Default} {added : List (String × Value)}
    (lacks : node.has field.name = false) (has : field.default = some d)
    (new : field.name ∉ Field.names fields)
    (rest : Added ⟨node.tag, node.entries ++ [(field.name, d.produce node)]⟩ fields added) :
    Added node (field :: fields) ((field.name, d.produce node) :: added) where
  names := by
    have others : ∀ name ∈ Field.names fields,
        (!Record.has ⟨node.tag, node.entries ++ [(field.name, d.produce node)]⟩ name) =
          !node.has name := by
      intro name listed
      have differs : name ≠ field.name := fun same => new (same ▸ listed)
      rw [Record.has, Record.get?, List.lookup_append, Record.lookup_cons_ite, if_neg differs,
        List.lookup_nil, Option.or_none]
      rfl
    rw [List.map_cons, rest.names, List.filter_congr others, Field.names_cons,
      List.filter_cons_of_pos (by simp [lacks])]
  each before name value after split := by
    cases before with
    | nil =>
      obtain ⟨⟨rfl, rfl⟩, -⟩ := List.cons.inj split |>.imp_left Prod.mk.inj
      exact ⟨field, List.mem_cons_self, rfl, d, has, by rw [List.append_nil]⟩
    | cons first before =>
      obtain ⟨rfl, later⟩ := List.cons.inj split
      obtain ⟨f, listed, named, d', has', made⟩ := rest.each before name value after later
      refine ⟨f, List.mem_cons_of_mem field listed, named, d', has', ?_⟩
      rw [made, List.append_assoc]
      rfl

/-- **Filling** appends one entry for each absent field and keeps the rest. -/
theorem fill_added (distinct : (Field.names fields).Nodup)
    (done : fill kind node fields = .ok filled) :
    ∃ added, filled = ⟨node.tag, node.entries ++ added⟩ ∧ Added node fields added := by
  induction fields generalizing node with
  | nil =>
    obtain rfl := Except.ok.inj done
    refine ⟨[], by rw [List.append_nil], rfl, fun before name value after split => ?_⟩
    exact absurd split.symm (by simp)
  | cons field rest ih =>
    obtain ⟨new, distinct⟩ := List.nodup_cons.mp distinct
    rw [fill] at done
    split at done
    · next has =>
      obtain ⟨added, rfl, rest⟩ := ih distinct done
      exact ⟨added, rfl, rest.present has⟩
    · next lacks =>
      have lacks : node.has field.name = false := Bool.eq_false_iff.mpr lacks
      split at done
      · next d has =>
        have set : node.set field.name (d.produce node) =
            ⟨node.tag, node.entries ++ [(field.name, d.produce node)]⟩ :=
          Record.set_of_new fun listed => by
            rw [Record.has_iff.mpr listed] at lacks
            cases lacks
        rw [set] at done
        obtain ⟨added, rfl, rest⟩ := ih distinct done
        exact ⟨_, by rw [List.append_assoc]; rfl, rest.absent lacks has new⟩
      · cases done

/-- Filling succeeds if each field is present or has a default. -/
theorem fill_succeeds
    (fillable : ∀ f ∈ fields, node.has f.name = true ∨ f.default.isSome = true) :
    ∃ filled, fill kind node fields = .ok filled := by
  induction fields generalizing node with
  | nil => exact ⟨node, rfl⟩
  | cons field rest ih =>
    have later := fun f listed => fillable f (List.mem_cons_of_mem field listed)
    rw [fill]
    split
    · exact ih later
    · next lacks =>
      obtain ⟨d, has⟩ := Option.isSome_iff_exists.mp
        ((fillable field List.mem_cons_self).resolve_left lacks)
      rw [has]
      exact ih fun f listed => (later f listed).imp_left fun present => Record.has_set present _ _

/-- The entries whose names were not given. -/
def unsupplied (given entries : List (String × Value)) : List (String × Value) :=
  entries.filter fun entry => !(given.map (·.1)).contains entry.1

/-- `node` is what a builder assembles from what it is given.  It has the kind
for its tag and the fields of the kind in order.  What was given is there; any
other field has what its default makes of a node with that tag, what was given
in the order in which it was given, and the fields before it that were not. -/
structure Assembles (b : Builder) (given : List (String × Value)) (node : Node) : Prop where
  tag : node.tag = some b.kind
  names : node.names = Field.names b.fields
  supplied : ∀ entry ∈ given, node.get? entry.1 = some entry.2
  defaulted : ∀ before name value after, node.entries = before ++ (name, value) :: after →
    name ∉ given.map (·.1) → ∃ f ∈ b.fields, f.name = name ∧ ∃ d, f.default = some d ∧
      value = d.produce ⟨some b.kind, given ++ unsupplied given before⟩

variable {added : List (String × Value)}

/-- What is present after filling are the fields, if only fields were present
before. -/
theorem Added.perm (adds : Added node fields added) (distinct : (Field.names fields).Nodup)
    (once : node.names.Nodup) (among : node.names ⊆ Field.names fields) :
    (Record.names ⟨node.tag, node.entries ++ added⟩).Perm (Field.names fields) := by
  rw [Record.names, List.map_append, adds.names]
  refine (List.perm_ext_iff_of_nodup ?_ distinct).mpr fun name => ?_
  · refine once.append (distinct.filter _) fun name present absent => ?_
    rw [List.mem_filter, Record.has_iff.mpr present] at absent
    cases absent.2
  · rw [List.mem_append, List.mem_filter]
    constructor
    · rintro (present | ⟨listed, -⟩)
      · exact among present
      · exact listed
    · intro listed
      by_cases present : name ∈ node.names
      · exact .inl present
      · rw [← Record.has_iff, Bool.not_eq_true] at present
        exact .inr ⟨listed, by rw [present]; rfl⟩

/-- What was not given is what filling added, in the same order, even if the
fields were put in order in between. -/
theorem Added.unsupplied_eq {tag : Option String} {entries : List (String × Value)}
    (adds : Added ⟨tag, given⟩ fields added) (distinct : (Field.names fields).Nodup)
    (names : entries.map (·.1) = Field.names fields)
    (same : ∀ name, entries.lookup name = (given ++ added).lookup name) :
    unsupplied given entries = added := by
  have absent : ∀ name, Record.has (⟨tag, given⟩ : Node) name = (given.map (·.1)).contains name :=
    fun name => Bool.eq_iff_iff.mpr (Record.has_iff.trans List.contains_iff_mem.symm)
  have kept : (unsupplied given entries).map (·.1) = added.map (·.1) := by
    rw [adds.names, ← names, unsupplied, List.filter_map]
    refine congrArg _ (List.filter_congr fun entry _ => ?_)
    rw [Function.comp_apply, absent]
  refine Record.entries_ext kept ?_ fun name listed => ?_
  · rw [kept, adds.names]
    exact distinct.filter _
  · obtain ⟨entry, member, rfl⟩ := List.mem_map.mp listed
    have new := (List.mem_filter.mp member).2
    have nowhere : given.lookup entry.1 = none := by
      have lacks := absent entry.1
      rw [Bool.not_eq_true'] at new
      rw [new, Record.has, Record.get?] at lacks
      exact Option.isSome_eq_false_iff.mp lacks |> Option.isNone_iff_eq_none.mp
    rw [unsupplied, Record.lookup_filter fun name => !(given.map (·.1)).contains name, if_pos new,
      same, List.lookup_append, nowhere, Option.none_or]

/-- **Filling and arranging assemble a node**, if what is given are fields of
the kind and none of them twice. -/
theorem assembles_of_fill (distinct : (Field.names b.fields).Nodup)
    (once : (given.map (·.1)).Nodup) (among : given.map (·.1) ⊆ Field.names b.fields)
    (done : fill b.kind ((Record.tagged b.kind).setAll given) b.fields = .ok filled) :
    b.Assembles given (filled.arrange (Field.names b.fields)) := by
  have start : (Record.tagged b.kind).setAll given = ⟨some b.kind, given⟩ :=
    Record.setAll_of_new once
  rw [start] at done
  obtain ⟨added, rfl, adds⟩ := fill_added distinct done
  have perm : (Record.names ⟨some b.kind, given ++ added⟩).Perm (Field.names b.fields) :=
    adds.perm distinct once among
  have names := Record.names_arrange perm distinct
  refine ⟨rfl, names, fun entry listed => ?_, fun before name value after split new => ?_⟩
  · rw [Record.get?_arrange, Record.get?, List.lookup_append,
      Record.lookup_of_mem once listed, Option.some_or]
  · have others := adds.unsupplied_eq distinct names (Record.lookup_arrangeEntries _ _)
    rw [split, unsupplied, List.filter_append,
      List.filter_cons_of_pos (by simpa using new)] at others
    exact adds.each _ name value _ others.symm

/-- Two nodes that are assembled from the same and agree on a part have the
same value in the field behind it. -/
theorem Assembles.next_unique (distinct : (Field.names b.fields).Nodup)
    (assembles : b.Assembles given node) (assembles' : b.Assembles given node')
    {before after after' : List (String × Value)} {name : String} {value value' : Value}
    (split : node.entries = before ++ (name, value) :: after)
    (split' : node'.entries = before ++ (name, value') :: after') : value = value' := by
  by_cases known : name ∈ given.map (·.1)
  · -- both have the value that was given
    obtain ⟨entry, listed, rfl⟩ := List.mem_map.mp known
    have once : node.names.Nodup := assembles.names ▸ distinct
    have once' : node'.names.Nodup := assembles'.names ▸ distinct
    have here : node.get? entry.1 = some value :=
      Record.lookup_of_mem once (split ▸ List.mem_append_right before List.mem_cons_self)
    have here' : node'.get? entry.1 = some value' :=
      Record.lookup_of_mem once' (split' ▸ List.mem_append_right before List.mem_cons_self)
    rw [assembles.supplied entry listed] at here
    rw [assembles'.supplied entry listed] at here'
    exact Option.some.inj (here.symm.trans here')
  · -- both have what the same default makes of the same node
    obtain ⟨f, listed, rfl, d, has, made⟩ := assembles.defaulted before _ value after split known
    obtain ⟨f', listed', same, d', has', made'⟩ :=
      assembles'.defaulted before f.name value' after' split' known
    have found := Field.find?_of_mem distinct listed'
    rw [same, Field.find?_of_mem distinct listed] at found
    obtain rfl := Option.some.inj found
    obtain rfl := Option.some.inj (has.symm.trans has')
    rw [made, made']

/-- Two nodes that are assembled from the same agree behind any part in which
they agree. -/
theorem Assembles.rest_unique (distinct : (Field.names b.fields).Nodup)
    (assembles : b.Assembles given node) (assembles' : b.Assembles given node')
    {rest rest' : List (String × Value)} (names : rest.map (·.1) = rest'.map (·.1)) :
    ∀ before, node.entries = before ++ rest → node'.entries = before ++ rest' → rest = rest' := by
  induction rest generalizing rest' with
  | nil => exact fun _ _ _ => (List.map_eq_nil_iff.mp names.symm).symm
  | cons entry rest ih =>
    obtain ⟨⟨name', value'⟩, rest', rfl, head, tail⟩ := List.map_eq_cons_iff.mp names.symm
    obtain ⟨name, value⟩ := entry
    obtain rfl : name' = name := head
    intro before split split'
    obtain rfl := assembles.next_unique distinct assembles' split split'
    rw [ih tail.symm (before ++ [(name', value)]) (by rw [split, List.append_assoc]; rfl)
      (by rw [split', List.append_assoc]; rfl)]

/-- **Only one node is assembled** from what is given. -/
theorem Assembles.unique (distinct : (Field.names b.fields).Nodup)
    (assembles : b.Assembles given node) (assembles' : b.Assembles given node') : node = node' := by
  have names : node.entries.map (·.1) = node'.entries.map (·.1) :=
    assembles.names.trans assembles'.names.symm
  have entries := assembles.rest_unique distinct assembles' names [] rfl rfl
  obtain ⟨tag, _⟩ := node
  obtain ⟨tag', _⟩ := node'
  obtain rfl : tag = tag' := assembles.tag.trans assembles'.tag.symm
  obtain rfl := entries
  rfl

/-- The field is present, and the shallow check of its value passes. -/
def FieldAccepted (s : Schema) (limit : Nat) (node : Node) (f : Field) : Prop :=
  ∃ value, node.get? f.name = some value ∧
    s.check limit f.constraint value .shallow = some (.ok ())

/-- `error` shows the value of the first field that is not accepted, and why
it is not. -/
def FirstRejected (s : Schema) (limit : Nat) (kind : String) (node : Node) (fields : List Field)
    (error : Error) : Prop :=
  ∃ before f after value mismatch, fields = before ++ f :: after ∧
    (∀ g ∈ before, FieldAccepted s limit node g) ∧ node.get? f.name = some value ∧
    s.check limit f.constraint value .shallow = some (.error mismatch) ∧
    error = .violation kind f.name f.constraint.text value.text mismatch

/-- Judging goes on behind fields that are accepted. -/
theorem judge_append {before rest : List Field}
    (accepted : ∀ f ∈ before, FieldAccepted s limit node f) :
    judge s limit kind node (before ++ rest) = judge s limit kind node rest := by
  induction before with
  | nil => rfl
  | cons field before ih =>
    obtain ⟨value, here, passed⟩ := accepted field List.mem_cons_self
    rw [List.cons_append, judge, here]
    dsimp only
    rw [passed]
    exact ih fun f listed => accepted f (List.mem_cons_of_mem field listed)

/-- Judging ends at a field that is not accepted. -/
theorem judge_rejected {field : Field} {rest : List Field} {value : Value} {mismatch : Mismatch}
    (here : node.get? field.name = some value)
    (rejected : s.check limit field.constraint value .shallow = some (.error mismatch)) :
    judge s limit kind node (field :: rest) =
      some (.error (.violation kind field.name field.constraint.text value.text mismatch)) := by
  rw [judge, here]
  dsimp only
  rw [rejected]
  rfl

/-- Judging passes if each field is accepted. -/
theorem judge_of_accepted (accepted : ∀ f ∈ fields, FieldAccepted s limit node f) :
    judge s limit kind node fields = some (.ok ()) := by
  rw [← List.append_nil fields, judge_append accepted, judge]

theorem judge_ok_iff (present : ∀ f ∈ fields, node.has f.name = true) :
    judge s limit kind node fields = some (.ok ()) ↔
      ∀ f ∈ fields, FieldAccepted s limit node f := by
  refine ⟨fun passed f listed => ?_, judge_of_accepted⟩
  obtain ⟨value, here⟩ := Option.isSome_iff_exists.mp (present f listed)
  exact ⟨value, here, judge_ok passed f listed value here⟩

/-- An error that judging ends with is about the first field that is not
accepted. -/
theorem firstRejected_of_judge (present : ∀ f ∈ fields, node.has f.name = true) {error : Error}
    (judged : judge s limit kind node fields = some (.error error)) :
    FirstRejected s limit kind node fields error := by
  induction fields with
  | nil => cases judged
  | cons field rest ih =>
    obtain ⟨value, here⟩ := Option.isSome_iff_exists.mp (present field List.mem_cons_self)
    have here : node.get? field.name = some value := here
    rw [judge, here] at judged
    obtain ⟨verdict, checked, next⟩ := Option.bind_eq_some_iff.mp judged
    cases verdict with
    | error mismatch =>
      obtain rfl := Except.error.inj (Option.some.inj next)
      exact ⟨[], field, rest, value, mismatch, rfl, by simp, here, checked, rfl⟩
    | ok =>
      obtain ⟨before, f, after, v, mismatch, rfl, earlier, rejected⟩ :=
        ih (fun f listed => present f (List.mem_cons_of_mem field listed)) next
      refine ⟨field :: before, f, after, v, mismatch, rfl, fun g listed => ?_, rejected⟩
      rcases List.mem_cons.mp listed with rfl | later
      · exact ⟨value, here, checked⟩
      · exact earlier g later

/-- **Judging reports the first field that is not accepted.** -/
theorem judge_error_iff (present : ∀ f ∈ fields, node.has f.name = true) {error : Error} :
    judge s limit kind node fields = some (.error error) ↔
      FirstRejected s limit kind node fields error := by
  refine ⟨firstRejected_of_judge present, ?_⟩
  rintro ⟨before, f, after, value, mismatch, rfl, earlier, here, rejected, rfl⟩
  rw [judge_append earlier, judge_rejected here rejected]

/-- Judging returns if the check of each field does. -/
theorem judge_returns (checks : ∀ f ∈ fields, ∀ value, node.get? f.name = some value →
      ∃ verdict, s.check limit f.constraint value .shallow = some verdict) :
    ∃ verdict, judge s limit kind node fields = some verdict := by
  induction fields with
  | nil => exact ⟨.ok (), rfl⟩
  | cons field rest ih =>
    obtain ⟨after, later⟩ := ih fun f listed => checks f (List.mem_cons_of_mem field listed)
    rw [judge]
    split
    · exact ⟨after, later⟩
    · next value here =>
      obtain ⟨verdict, checked⟩ := checks field List.mem_cons_self value here
      rw [checked]
      cases verdict with
      | ok => exact ⟨after, later⟩
      | error mismatch => exact ⟨_, rfl⟩

/-- Once the fields are filled, construction goes on to arrange and to judge
them. -/
theorem construct_of_fill
    (done : fill b.kind ((Record.tagged b.kind).setAll given) b.fields = .ok filled) :
    b.construct s limit given =
      (judge s limit b.kind (filled.arrange (Field.names b.fields)) b.fields).map fun verdict =>
        verdict.map fun () => filled.arrange (Field.names b.fields) := by
  rw [construct, done]
  dsimp only
  rw [Field.names]
  rcases judge s limit b.kind _ b.fields with - | verdict <;> rfl

end NodeSchema.Builder
