import NodeSchema.Proofs.Record.Sorting

/-!
# Records whose names are distinct

If no two entries of a record have the same name, the record is determined by
its tag, its names in order and what they lead to.  Names stay distinct when
one is set: a new name goes to the end, and a name that is there stays where it
is.  Arranging such a record by a list of its own names puts the entries in the
order of that list.

* `Record.ext_get?` — two records that agree on tag, names and entries;
* `Record.set_of_new`, `Record.setAll_of_new` — new names go to the end;
* `Record.names_set`, `Record.nodup_set` — the names after one is set;
* `Record.names_arrange` — the names after arranging by all of them;
* `Record.arrange_self` — arranging by the names in their order changes
  nothing.
-/

namespace NodeSchema.Record

variable {α : Type} {r : Record α} {name : String} {value : α} {entries : List (String × α)}

/-- Where names are distinct, each leads to its only entry. -/
theorem lookup_of_mem (distinct : (entries.map (·.1)).Nodup) (listed : (name, value) ∈ entries) :
    entries.lookup name = some value := by
  induction entries with
  | nil => cases listed
  | cons entry rest ih =>
    obtain ⟨new, distinct⟩ := List.nodup_cons.mp distinct
    rw [lookup_cons_ite]
    rcases List.mem_cons.mp listed with rfl | later
    · rw [if_pos rfl]
    · have differs : name ≠ entry.1 := by
        rintro rfl
        exact new (List.mem_map.mpr ⟨_, later, rfl⟩)
      rw [if_neg differs, ih distinct later]

/-- Lists of entries with the same names in the same order, which are distinct
and lead to the same, are the same. -/
theorem entries_ext {entries' : List (String × α)} (names : entries.map (·.1) = entries'.map (·.1))
    (distinct : (entries.map (·.1)).Nodup)
    (same : ∀ name ∈ entries.map (·.1), entries.lookup name = entries'.lookup name) :
    entries = entries' := by
  induction entries generalizing entries' with
  | nil => exact (List.map_eq_nil_iff.mp names.symm).symm
  | cons entry rest ih =>
    obtain ⟨entry', rest', rfl, head, tail⟩ := List.map_eq_cons_iff.mp names.symm
    obtain ⟨new, distinct⟩ := List.nodup_cons.mp distinct
    have first : entry = entry' := by
      have value := same entry.1 List.mem_cons_self
      rw [lookup_cons_ite, lookup_cons_ite, if_pos rfl, if_pos head.symm] at value
      exact Prod.ext head.symm (Option.some.inj value)
    have others : rest = rest' := by
      refine ih tail.symm distinct fun name listed => ?_
      have differs : name ≠ entry.1 := by
        rintro rfl
        exact new listed
      have value := same name (List.mem_cons_of_mem _ listed)
      rwa [lookup_cons_ite, lookup_cons_ite, if_neg differs, if_neg (head ▸ differs)] at value
    rw [first, others]

/-- Records that agree on the tag and on distinct names, and on what these
lead to, are the same. -/
theorem ext_get? {r' : Record α} (tags : r.tag = r'.tag) (names : r.names = r'.names)
    (distinct : r.names.Nodup) (same : ∀ name ∈ r.names, r.get? name = r'.get? name) : r = r' := by
  obtain ⟨tag, entries⟩ := r
  obtain ⟨tag', entries'⟩ := r'
  obtain rfl : tag = tag' := tags
  obtain rfl : entries = entries' := entries_ext names distinct same
  rfl

theorem put_of_new (new : name ∉ entries.map (·.1)) :
    put name value entries = entries ++ [(name, value)] := by
  induction entries with
  | nil => rfl
  | cons entry rest ih =>
    obtain ⟨differs, new⟩ := not_or.mp (mt List.mem_cons.mpr new)
    rw [put, if_neg (Ne.symm differs), ih new, List.cons_append]

/-- A new name goes to the end. -/
theorem set_of_new (new : name ∉ r.names) :
    r.set name value = ⟨r.tag, r.entries ++ [(name, value)]⟩ := by
  rw [set, put_of_new new]

theorem names_put_of_known (known : name ∈ entries.map (·.1)) :
    (put name value entries).map (·.1) = entries.map (·.1) := by
  induction entries with
  | nil => cases known
  | cons entry rest ih =>
    rw [put]
    by_cases here : entry.1 = name
    · rw [if_pos here, List.map_cons, List.map_cons, here]
    · have later := (List.mem_cons.mp known).resolve_left (Ne.symm here)
      rw [if_neg here, List.map_cons, ih later, List.map_cons]

/-- A name that is set is added to the names unless it is there. -/
theorem names_set (r : Record α) (name : String) (value : α) :
    (r.set name value).names = addNames r.names [name] := by
  have added : addNames r.names [name] = if name ∈ r.names then r.names else r.names ++ [name] :=
    addNames_cons r.names name []
  rw [added]
  by_cases known : name ∈ r.names
  · rw [if_pos known]
    exact names_put_of_known known
  · rw [if_neg known, set_of_new known, names, List.map_append]
    rfl

/-- Setting a name keeps distinct names distinct. -/
theorem nodup_set (distinct : r.names.Nodup) (name : String) (value : α) :
    (r.set name value).names.Nodup := by
  rw [names_set]
  exact nodup_addNames distinct [name]

/-- New names, none of them twice, go to the end in order. -/
theorem setAll_of_new (distinct : (r.names ++ entries.map (·.1)).Nodup) :
    r.setAll entries = ⟨r.tag, r.entries ++ entries⟩ := by
  induction entries generalizing r with
  | nil => rw [List.append_nil]; rfl
  | cons entry rest ih =>
    have new : entry.1 ∉ r.names := fun listed =>
      (List.nodup_append.mp distinct).2.2 _ listed _ List.mem_cons_self rfl
    have set : r.set entry.1 entry.2 = ⟨r.tag, r.entries ++ [entry]⟩ := set_of_new new
    have names : (r.set entry.1 entry.2).names = r.names ++ [entry.1] := by
      rw [set, Record.names, List.map_append]
      rfl
    show (r.set entry.1 entry.2).setAll rest = _
    rw [ih (by rw [names, List.append_assoc]; exact distinct), set, List.append_assoc]
    rfl

/-- **Arranging.**  A record that is arranged by the list of its own names has
them in the order of the list. -/
theorem names_arrange {order : List String} (perm : r.names.Perm order) (distinct : order.Nodup) :
    (r.arrange order).names = order := by
  have all : order.filter r.has = order :=
    List.filter_eq_self.mpr fun name listed => has_iff.mpr (perm.mem_iff.mpr listed)
  have none : r.names.filter (!order.contains ·) = [] :=
    List.filter_eq_nil_iff.mpr fun name named => by simp [perm.mem_iff.mp named]
  rw [names_arrange_eq (perm.nodup_iff.mpr distinct), eraseDups_of_nodup distinct, all, none,
    List.append_nil]

/-- Arranging by the names in the order in which they are changes nothing. -/
theorem arrange_self (distinct : r.names.Nodup) : r.arrange r.names = r := by
  have same : (r.arrange r.names).names = r.names := names_arrange (List.Perm.refl _) distinct
  exact ext_get? rfl same (same.symm ▸ distinct) fun name _ => get?_arrange r r.names name

end NodeSchema.Record
