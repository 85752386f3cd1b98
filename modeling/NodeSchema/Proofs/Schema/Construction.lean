import NodeSchema.Proofs.Schema.Tame
import NodeSchema.Schema.Builder

/-!
# What a builder returns

A node that a builder returns has the builder's kind for its tag and a value
in each field of the kind, and the shallow check of each value has passed.
Whatever nodes are inside it were inside what the builder was given, provided
that no default makes a node.

* `Builder.construct_ok_iff` — filled, arranged and judged;
* `Builder.fill_ok` — filling keeps what there is and leaves no field absent;
* `Builder.fill_inside` — tame defaults bring in no node;
* `Builder.Made` — the facts about a returned node, with `made_of_build` and
  `made_of_fromFields`.
-/

namespace NodeSchema.Builder

variable {s : Schema} {b : Builder} {limit : Nat} {kind : String} {node filled : Node}
  {fields : List Field}

/-- What construction does when it succeeds: the node is filled, arranged and
judged. -/
theorem construct_ok_iff {supplied : List (String × Value)} :
    b.construct s limit supplied = some (.ok node) ↔
      ∃ filled, fill b.kind ((Record.tagged b.kind).setAll supplied) b.fields = .ok filled ∧
        node = filled.arrange (b.fields.map (·.name)) ∧
        judge s limit b.kind node b.fields = some (.ok ()) := by
  unfold construct
  split
  · next error failed => simp [failed]
  · next filled done =>
    constructor
    · intro returns
      obtain ⟨verdict, judged, returns⟩ := Option.bind_eq_some_iff.mp returns
      cases verdict with
      | error error => cases returns
      | ok =>
        obtain rfl := Except.ok.inj (Option.some.inj returns)
        exact ⟨filled, done, rfl, judged⟩
    · rintro ⟨filled', done', rfl, judged⟩
      obtain rfl := Except.ok.inj (done.symm.trans done')
      exact Option.bind_eq_some_iff.mpr ⟨_, judged, rfl⟩

/-- Filling keeps the tag and what is present, and leaves no field absent. -/
theorem fill_ok (done : fill kind node fields = .ok filled) :
    filled.tag = node.tag ∧ (∀ name, node.has name = true → filled.has name = true) ∧
      ∀ f ∈ fields, filled.has f.name = true := by
  induction fields generalizing node with
  | nil =>
    obtain rfl := Except.ok.inj done
    exact ⟨rfl, fun _ present => present, fun f member => by cases member⟩
  | cons field rest ih =>
    rw [fill] at done
    split at done
    · next present =>
      obtain ⟨tag, keeps, fills⟩ := ih done
      refine ⟨tag, keeps, fun f member => ?_⟩
      rcases List.mem_cons.mp member with rfl | later
      · exact keeps f.name present
      · exact fills f later
    · split at done
      · next default _ =>
        obtain ⟨tag, keeps, fills⟩ := ih done
        refine ⟨tag, fun name present => keeps name (Record.has_set present _ _), fun f member => ?_⟩
        rcases List.mem_cons.mp member with rfl | later
        · refine keeps f.name ?_
          rw [Record.has, Record.get?_set, if_pos rfl]
          rfl
        · exact fills f later
      · cases done

/-- **Tame defaults bring in no node.**  A node inside a node after filling
was inside it before. -/
theorem fill_inside (tame : ∀ f ∈ fields, f.Tame) (done : fill kind node fields = .ok filled)
    {inner : Node} (inside : (Value.node inner).Inside filled) : (Value.node inner).Inside node := by
  induction fields generalizing node with
  | nil =>
    obtain rfl := Except.ok.inj done
    exact inside
  | cons field rest ih =>
    have later : ∀ f ∈ rest, f.Tame := fun f member => tame f (List.mem_cons_of_mem field member)
    rw [fill] at done
    split at done
    · exact ih later done
    · split at done
      · next default has =>
        obtain ⟨entry, listed, within⟩ := ih later done
        rcases Record.mem_set listed with rfl | before
        · -- it is in the value by default, which was found in the node
          rcases tame field List.mem_cons_self default has node with free | found
          · exact absurd within (free inner)
          · exact within.inside found
        · exact ⟨entry, before, within⟩
      · cases done

/-- Judging passes only if the shallow check of each present field does. -/
theorem judge_ok (passed : judge s limit kind node fields = some (.ok ())) :
    ∀ f ∈ fields, ∀ value, node.get? f.name = some value →
      s.check limit f.constraint value .shallow = some (.ok ()) := by
  induction fields with
  | nil =>
    intro f member
    cases member
  | cons field rest ih =>
    intro f member value present
    rw [judge] at passed
    split at passed
    · next absent =>
      rcases List.mem_cons.mp member with rfl | later
      · rw [absent] at present
        cases present
      · exact ih passed f later value present
    · next first here =>
      obtain ⟨verdict, checked, next⟩ := Option.bind_eq_some_iff.mp passed
      cases verdict with
      | error mismatch => cases Option.some.inj next
      | ok =>
        rcases List.mem_cons.mp member with rfl | later
        · obtain rfl := Option.some.inj (here.symm.trans present)
          exact checked
        · exact ih next f later value present

/-- What is known of a node that a builder returned for the values in
`given`. -/
structure Made (b : Builder) (s : Schema) (limit : Nat) (given : List Value) (node : Node) :
    Prop where
  tagged : node.tag = some b.kind
  filled : ∀ f ∈ b.fields, ∃ value, node.get? f.name = some value ∧
    s.check limit f.constraint value .shallow = some (.ok ())
  inside : ∀ inner, (Value.node inner).Inside node →
    ∃ value ∈ given, (Value.node inner).Occurs value

theorem made_of_construct (tame : ∀ f ∈ b.fields, f.Tame) {supplied : List (String × Value)}
    (returns : b.construct s limit supplied = some (.ok node)) :
    b.Made s limit (supplied.map (·.2)) node := by
  obtain ⟨filled, done, rfl, judged⟩ := construct_ok_iff.mp returns
  obtain ⟨tag, -, fills⟩ := fill_ok done
  refine ⟨?_, fun f member => ?_, fun inner inside => ?_⟩
  · rw [Record.tag_arrange, tag, Record.tag_setAll]
    rfl
  · obtain ⟨value, present⟩ := Option.isSome_iff_exists.mp (fills f member)
    have arranged : (filled.arrange (b.fields.map (·.name))).get? f.name = some value := by
      rw [Record.get?_arrange, present]
    exact ⟨value, arranged, judge_ok judged f member value arranged⟩
  · obtain ⟨entry, listed, within⟩ := inside
    have before := fill_inside tame done ⟨entry, Record.mem_arrange.mp listed, within⟩
    obtain ⟨entry, listed, within⟩ := before
    rcases Record.mem_setAll listed with given | none
    · exact ⟨entry.2, List.mem_map_of_mem given, within⟩
    · cases none

/-- What positional arguments make. -/
theorem made_of_build (tame : ∀ f ∈ b.fields, f.Tame) {arguments : List Value}
    (returns : b.build s limit arguments = some (.ok node)) : b.Made s limit arguments node := by
  unfold build at returns
  split at returns
  · next arity =>
    have made := made_of_construct tame returns
    rwa [List.map_snd_zip (Nat.le_of_eq arity)] at made
  · cases returns

/-- What the fields of another node make: only those that the kind has are
taken. -/
theorem made_of_fromFields (tame : ∀ f ∈ b.fields, f.Tame) {source : Node}
    (returns : b.fromFields s limit source = some (.ok node)) :
    b.Made s limit (b.fields.filterMap fun f => source.get? f.name) node := by
  have made := made_of_construct tame returns
  rw [List.map_filterMap] at made
  have taken : (fun f : Field => Option.map (·.2)
      ((source.get? f.name).map fun value => (f.name, value))) = fun f => source.get? f.name := by
    funext f
    rw [Option.map_map]
    exact Option.map_id'
  rwa [taken] at made

end NodeSchema.Builder
