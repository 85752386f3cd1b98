import Mathlib.Data.List.Induction
import Mathlib.Data.List.Nodup
import NodeSchema.Schema.Shape

/-!
# Laws of merging

Merging puts one field after the other into a list: a field takes the place
of the one of its name, and goes to the end if there is none.  So a name
stands where it stood first, and leads to what came last.

* `addNames_nil` — adding names one by one keeps first occurrences;
* `addNames_eraseDups` — and so it absorbs repeats;
* `eraseDups_filter` — leaving names out and leaving repeats out commute;
* `Field.names_merge` — the names of a merged list, in order;
* `Field.find?_merge` — what a name leads to in it;
* `Field.merge_append` — merging in two lists in turn is merging in both;
* `Field.merge_merge` — **absorption**: it makes no difference whether a list
  is merged on its own first.
-/

namespace NodeSchema

theorem addNames_cons (names : List String) (first : String) (rest : List String) :
    addNames names (first :: rest) =
      addNames (if first ∈ names then names else names ++ [first]) rest := by
  have unfolded : addNames names (first :: rest) =
      addNames (if names.contains first then names else names ++ [first]) rest := rfl
  rw [unfolded]
  by_cases known : first ∈ names
  · rw [if_pos known, if_pos (List.contains_iff_mem.mpr known)]
  · rw [if_neg known, if_neg (by rwa [List.contains_iff_mem])]

theorem addNames_append (names first second : List String) :
    addNames names (first ++ second) = addNames (addNames names first) second :=
  List.foldl_append

theorem mem_addNames {names incoming : List String} {name : String} :
    name ∈ addNames names incoming ↔ name ∈ names ∨ name ∈ incoming := by
  induction incoming generalizing names with
  | nil => simp [addNames]
  | cons first rest ih =>
    rw [addNames_cons, ih, List.mem_cons]
    by_cases known : first ∈ names
    · rw [if_pos known]
      constructor
      · exact .imp_right .inr
      · rintro (before | rfl | later)
        · exact .inl before
        · exact .inl known
        · exact .inr later
    · rw [if_neg known, List.mem_append, List.mem_singleton, or_assoc]

/-- Names that are there stay where they are. -/
theorem prefix_addNames (names incoming : List String) : names <+: addNames names incoming := by
  induction incoming generalizing names with
  | nil => exact List.prefix_refl names
  | cons first rest ih =>
    rw [addNames_cons]
    by_cases known : first ∈ names
    · rw [if_pos known]
      exact ih names
    · rw [if_neg known]
      exact (List.prefix_append names [first]).trans (ih _)

/-- Adding names one by one keeps the first occurrence of each. -/
theorem addNames_nil (names : List String) : addNames [] names = names.eraseDups := by
  induction names using List.reverseRecOn with
  | nil => rfl
  | append_singleton names last ih =>
    rw [addNames_append, addNames_cons, ih, List.eraseDups_append]
    by_cases known : last ∈ names
    · have nothing : [last].removeAll names = [] := by simp [List.removeAll, known]
      rw [if_pos (List.mem_eraseDups.mpr known), nothing, List.eraseDups_nil, List.append_nil]
      rfl
    · have all : [last].removeAll names = [last] := by simp [List.removeAll, known]
      rw [if_neg (mt List.mem_eraseDups.mp known), all]
      rfl

/-- Names that are there already add nothing. -/
theorem addNames_of_subset {names incoming : List String} (known : incoming ⊆ names) :
    addNames names incoming = names := by
  induction incoming with
  | nil => rfl
  | cons first rest ih =>
    obtain ⟨here, later⟩ := List.cons_subset.mp known
    rw [addNames_cons, if_pos here, ih later]

theorem addNames_of_mem {names : List String} {name : String} (known : name ∈ names) :
    addNames names [name] = names :=
  addNames_of_subset (List.cons_subset.mpr ⟨known, List.nil_subset names⟩)

/-- It makes no difference whether repeats are left out first. -/
theorem addNames_eraseDups (names incoming : List String) :
    addNames names incoming.eraseDups = addNames names incoming := by
  rw [← addNames_nil]
  induction incoming using List.reverseRecOn with
  | nil => rfl
  | append_singleton incoming last ih =>
    rw [addNames_append, addNames_append, ← ih]
    by_cases known : last ∈ addNames [] incoming
    · rw [addNames_of_mem known, addNames_of_mem (mem_addNames.mpr (.inr known))]
    · have added : addNames (addNames [] incoming) [last] = addNames [] incoming ++ [last] := by
        rw [addNames_cons, if_neg known]
        rfl
      rw [added, addNames_append]

/-- Adding names keeps distinct names distinct. -/
theorem nodup_addNames {names : List String} (distinct : names.Nodup) (incoming : List String) :
    (addNames names incoming).Nodup := by
  induction incoming generalizing names with
  | nil => exact distinct
  | cons first rest ih =>
    rw [addNames_cons]
    by_cases known : first ∈ names
    · rw [if_pos known]
      exact ih distinct
    · have longer : (names ++ [first]).Nodup :=
        distinct.append (List.nodup_singleton first) (List.disjoint_singleton.mpr known)
      rw [if_neg known]
      exact ih longer

/-- Names that are left out add nothing. -/
theorem filter_addNames (keep : String → Bool) (names incoming : List String) :
    (addNames names incoming).filter keep =
      addNames (names.filter keep) (incoming.filter keep) := by
  induction incoming generalizing names with
  | nil => rfl
  | cons first rest ih =>
    rw [addNames_cons, ih]
    cases kept : keep first with
    | true =>
      rw [List.filter_cons_of_pos kept, addNames_cons]
      by_cases known : first ∈ names
      · rw [if_pos known, if_pos (List.mem_filter.mpr ⟨known, kept⟩)]
      · rw [if_neg known, if_neg fun listed => known (List.mem_filter.mp listed).1,
          List.filter_append, List.filter_cons_of_pos kept, List.filter_nil]
    | false =>
      rw [List.filter_cons_of_neg (Bool.eq_false_iff.mp kept)]
      by_cases known : first ∈ names
      · rw [if_pos known]
      · rw [if_neg known, List.filter_append,
          List.filter_cons_of_neg (Bool.eq_false_iff.mp kept), List.filter_nil, List.append_nil]

/-- The first occurrences in a list of names that are kept are those of the
whole list, as far as they are kept. -/
theorem eraseDups_filter (keep : String → Bool) (names : List String) :
    (names.filter keep).eraseDups = names.eraseDups.filter keep := by
  rw [← addNames_nil, ← addNames_nil, filter_addNames, List.filter_nil]

/-- There are no other occurrences than the first of names that are distinct. -/
theorem eraseDups_of_nodup {names : List String} (distinct : names.Nodup) :
    names.eraseDups = names := by
  induction names with
  | nil => rfl
  | cons first rest ih =>
    obtain ⟨new, distinct⟩ := List.nodup_cons.mp distinct
    have others : rest.filter (!· == first) = rest := by
      refine List.filter_eq_self.mpr fun name listed => ?_
      have other : name ≠ first := fun same => new (same ▸ listed)
      simpa using other
    rw [List.eraseDups_cons, others, ih distinct]

namespace Field

variable {f g : Field} {fields incoming : List Field}

theorem mem_put {field f : Field} {fields : List Field} (member : f ∈ field.put fields) :
    f = field ∨ f ∈ fields := by
  induction fields with
  | nil => exact .inl (List.mem_singleton.mp member)
  | cons first rest ih =>
    rw [put] at member
    split at member
    · rcases List.mem_cons.mp member with rfl | later
      · exact .inl rfl
      · exact .inr (List.mem_cons_of_mem first later)
    · rcases List.mem_cons.mp member with rfl | later
      · exact .inr List.mem_cons_self
      · exact (ih later).imp_right (List.mem_cons_of_mem first)

/-- A field of a merged list comes from one of the two lists. -/
theorem mem_merge {f : Field} {fields incoming : List Field}
    (member : f ∈ merge fields incoming) : f ∈ fields ∨ f ∈ incoming := by
  induction incoming generalizing fields with
  | nil => exact .inl member
  | cons first rest ih =>
    rcases ih member with before | later
    · rcases mem_put before with rfl | before
      · exact .inr List.mem_cons_self
      · exact .inl before
    · exact .inr (List.mem_cons_of_mem first later)

/-- The names of a list of fields, in order. -/
def names (fields : List Field) : List String := fields.map (·.name)

@[simp] theorem names_nil : names [] = [] := rfl

@[simp] theorem names_cons (first : Field) (rest : List Field) :
    names (first :: rest) = first.name :: names rest := rfl

theorem name_mem_names (listed : f ∈ fields) : f.name ∈ names fields :=
  List.mem_map_of_mem listed

/-- A field that is put into a list adds its name unless it is there. -/
theorem names_put (f : Field) (fields : List Field) :
    names (f.put fields) = addNames (names fields) [f.name] := by
  have step : ∀ known : List String,
      addNames known [f.name] = if f.name ∈ known then known else known ++ [f.name] :=
    fun known => addNames_cons known f.name []
  rw [step]
  induction fields with
  | nil => rfl
  | cons first rest ih =>
    rw [put]
    by_cases here : first.name = f.name
    · simp [here]
    · have differ : f.name ≠ first.name := Ne.symm here
      rw [if_neg here, names_cons, ih, names_cons]
      by_cases later : f.name ∈ names rest
      · rw [if_pos later, if_pos (List.mem_cons_of_mem _ later)]
      · have unlisted : f.name ∉ first.name :: names rest := List.not_mem_cons_of_ne_of_not_mem differ later
        rw [if_neg later, if_neg unlisted, List.cons_append]

theorem mem_names_put {name : String} :
    name ∈ names (f.put fields) ↔ name ∈ names fields ∨ name = f.name := by
  rw [names_put, mem_addNames, List.mem_singleton]

/-- **Positions.**  The names of a merged list are those of the first list,
followed by the new ones in the order in which they come in. -/
theorem names_merge (fields incoming : List Field) :
    names (merge fields incoming) = addNames (names fields) (names incoming) := by
  induction incoming generalizing fields with
  | nil => rfl
  | cons first rest ih =>
    calc names (merge (first.put fields) rest)
        = addNames (names (first.put fields)) (names rest) := ih _
      _ = addNames (addNames (names fields) [first.name]) (names rest) := by rw [names_put]
      _ = addNames (names fields) (names (first :: rest)) := rfl

/-- In a list that is merged on its own each name stands once. -/
theorem nodup_names_merge (incoming : List Field) : (names (merge [] incoming)).Nodup := by
  rw [names_merge]
  exact nodup_addNames List.nodup_nil _

theorem find?_cons (first : Field) (rest : List Field) (name : String) :
    find? (first :: rest) name = if first.name = name then some first else find? rest name := by
  by_cases same : first.name = name
  · simp [find?, same]
  · simp [find?, same]

theorem find?_isSome_iff {name : String} :
    (find? fields name).isSome = true ↔ name ∈ names fields := by
  simp [find?, names, List.find?_isSome]

/-- What a name leads to after a field is put into a list. -/
theorem find?_put (f : Field) (fields : List Field) (name : String) :
    find? (f.put fields) name = if f.name = name then some f else find? fields name := by
  induction fields with
  | nil => exact find?_cons f [] name
  | cons first rest ih =>
    rw [put]
    by_cases here : first.name = f.name
    · rw [if_pos here, find?_cons, find?_cons, here]
      by_cases same : f.name = name
      · rw [if_pos same, if_pos same]
      · rw [if_neg same, if_neg same, if_neg same]
    · rw [if_neg here, find?_cons, find?_cons, ih]
      by_cases same : f.name = name
      · have differ : ¬ first.name = name := fun other => here (other.trans same.symm)
        rw [if_neg differ, if_pos same, if_pos same]
      · rw [if_neg same, if_neg same]

/-- **Contents.**  In a merged list a name leads to the last field of that
name that came in, if there is one. -/
theorem find?_merge (fields incoming : List Field) (name : String) :
    find? (merge fields incoming) name =
      (find? incoming.reverse name).or (find? fields name) := by
  induction incoming generalizing fields with
  | nil => rfl
  | cons first rest ih =>
    have last : find? (first :: rest).reverse name =
        (find? rest.reverse name).or (find? [first] name) := by
      rw [List.reverse_cons]
      exact List.find?_append
    have step : merge fields (first :: rest) = merge (first.put fields) rest := rfl
    rw [step, ih, last, Option.or_assoc, find?_put, find?_cons]
    split <;> rfl

/-- Where names are distinct, the name of a listed field leads to it. -/
theorem find?_of_mem (distinct : (names fields).Nodup) (listed : f ∈ fields) :
    find? fields f.name = some f := by
  induction fields with
  | nil => cases listed
  | cons first rest ih =>
    rw [names_cons] at distinct
    obtain ⟨new, distinct⟩ := List.nodup_cons.mp distinct
    rw [find?_cons]
    rcases List.mem_cons.mp listed with rfl | later
    · rw [if_pos rfl]
    · have differ : ¬ first.name = f.name := by
        intro same
        rw [same] at new
        exact new (name_mem_names later)
      rw [if_neg differ]
      exact ih distinct later

theorem merge_append (fields first second : List Field) :
    merge fields (first ++ second) = merge (merge fields first) second :=
  List.foldl_append

/-- Of two fields of one name that are put in, the second stays. -/
theorem put_put (same : g.name = f.name) (fields : List Field) :
    f.put (g.put fields) = f.put fields := by
  induction fields with
  | nil =>
    have replaced : f.put [g] = [f] := by rw [put, if_pos same]
    exact replaced
  | cons first rest ih =>
    by_cases here : first.name = f.name
    · have there : first.name = g.name := here.trans same.symm
      rw [put, if_pos there, put, if_pos same, put, if_pos here]
    · have nor : ¬ first.name = g.name := fun there => here (there.trans same)
      rw [put, if_neg nor, put, if_neg here, put, if_neg here, ih]

/-- A field whose name is there can be put in before or after one of another
name: neither moves the other. -/
theorem put_comm (present : f.name ∈ names fields) (differ : g.name ≠ f.name) :
    f.put (g.put fields) = g.put (f.put fields) := by
  induction fields with
  | nil => cases present
  | cons first rest ih =>
    by_cases here : first.name = f.name
    · have nor : ¬ first.name = g.name := fun there => differ (there.symm.trans here)
      have still : ¬ f.name = g.name := fun there => differ there.symm
      rw [put, if_neg nor, put, if_pos here, put, if_pos here, put, if_neg still]
    · by_cases there : first.name = g.name
      · rw [put, if_pos there, put, if_neg differ, put, if_neg here, put, if_pos there]
      · have later : f.name ∈ names rest := by
          rcases List.mem_cons.mp present with same | later
          · exact absurd same.symm here
          · exact later
        rw [put, if_neg there, put, if_neg here, put, if_neg here, put, if_neg there, ih later]

/-- A field whose name is there, and does not come in, can be put in before
or after a merge. -/
theorem put_merge (present : f.name ∈ names fields) (absent : f.name ∉ names incoming) :
    f.put (merge fields incoming) = merge (f.put fields) incoming := by
  induction incoming generalizing fields with
  | nil => rfl
  | cons first rest ih =>
    have differ : first.name ≠ f.name := by
      intro same
      exact absent (same ▸ List.mem_cons_self)
    have later : f.name ∉ names rest := fun listed => absent (List.mem_cons_of_mem _ listed)
    have still : f.name ∈ names (first.put fields) := mem_names_put.mpr (.inl present)
    calc f.put (merge (first.put fields) rest)
        = merge (f.put (first.put fields)) rest := ih still later
      _ = merge (first.put (f.put fields)) rest := by rw [put_comm present differ]

/-- Putting a field into what comes in is putting it in afterwards. -/
theorem merge_put (distinct : (names incoming).Nodup) (f : Field) (fields : List Field) :
    merge fields (f.put incoming) = f.put (merge fields incoming) := by
  induction incoming generalizing fields with
  | nil => rfl
  | cons first rest ih =>
    obtain ⟨new, distinct⟩ := List.nodup_cons.mp distinct
    rw [put]
    by_cases here : first.name = f.name
    · -- `f` replaces `first`, which it would also do after the rest has come in
      have absent : f.name ∉ names rest := here ▸ new
      have present : f.name ∈ names (first.put fields) := mem_names_put.mpr (.inr here.symm)
      rw [if_pos here]
      calc merge (f.put fields) rest
          = merge (f.put (first.put fields)) rest := by rw [put_put here]
        _ = f.put (merge (first.put fields) rest) := (put_merge present absent).symm
    · rw [if_neg here]
      exact ih distinct (first.put fields)

/-- **Absorption.**  Merging in a list that was merged on its own first is
merging in the list as it was. -/
theorem merge_merge (fields incoming : List Field) :
    merge fields (merge [] incoming) = merge fields incoming := by
  induction incoming using List.reverseRecOn with
  | nil => rfl
  | append_singleton incoming last ih =>
    calc merge fields (merge [] (incoming ++ [last]))
        = merge fields (last.put (merge [] incoming)) := by rw [merge_append]; rfl
      _ = last.put (merge fields (merge [] incoming)) :=
          merge_put (nodup_names_merge incoming) last fields
      _ = last.put (merge fields incoming) := by rw [ih]
      _ = merge fields (incoming ++ [last]) := by rw [merge_append]; rfl

end Field

end NodeSchema
