import NodeSchema.Record

/-!
# The entries of a record

What setting and arranging do to the entries of a record, to the entry that
a name leads to, and to the tag.

* `Record.get?_set` — a name leads to what was set last;
* `Record.get?_arrange` — arranging changes no entry that a name leads to;
* `Record.mem_setAll`, `Record.mem_arrange` — where entries come from.
-/

namespace NodeSchema.Record

variable {α : Type} {r : Record α} {name : String} {value : α} {entry : String × α}

@[simp] theorem tag_arrange (r : Record α) (order : List String) :
    (r.arrange order).tag = r.tag := rfl

@[simp] theorem tag_setAll (r : Record α) (entries : List (String × α)) :
    (r.setAll entries).tag = r.tag := by
  induction entries generalizing r with
  | nil => rfl
  | cons entry rest ih => exact ih (r.set entry.1 entry.2)

/-- What a name leads to is an entry. -/
theorem mem_of_get? (found : r.get? name = some value) : (name, value) ∈ r.entries := by
  obtain ⟨before, after, split, -⟩ := List.lookup_eq_some_iff.mp found
  rw [split]
  exact List.mem_append_right before List.mem_cons_self

/-- A name leads somewhere exactly if it is the name of an entry. -/
theorem has_iff : r.has name = true ↔ name ∈ r.names := by
  rw [has, get?, List.lookup_isSome_iff, names, List.mem_map]
  refine exists_congr fun entry => and_congr_right fun _ => ?_
  rw [beq_iff_eq, eq_comm]

theorem lookup_cons_ite (entry : String × α) (rest : List (String × α)) (name : String) :
    (entry :: rest).lookup name = if name = entry.1 then some entry.2 else rest.lookup name := by
  obtain ⟨first, value⟩ := entry
  rw [List.lookup_cons]
  by_cases same : name = first
  · simp [same]
  · simp [same, beq_eq_false_iff_ne.mpr same]

theorem lookup_put (name : String) (value : α) (entries : List (String × α)) (other : String) :
    (put name value entries).lookup other =
      if other = name then some value else entries.lookup other := by
  induction entries with
  | nil => rw [put, lookup_cons_ite]
  | cons entry rest ih =>
    rw [put, lookup_cons_ite entry]
    by_cases here : entry.1 = name
    · rw [if_pos here, lookup_cons_ite, here]
      by_cases same : other = name <;> simp [same]
    · rw [if_neg here, lookup_cons_ite, ih]
      by_cases first : other = entry.1
      · simp [first, here]
      · simp [first]

/-- After an entry is set, its name leads to it, and other names lead where
they led before. -/
theorem get?_set (r : Record α) (name : String) (value : α) (other : String) :
    (r.set name value).get? other = if other = name then some value else r.get? other :=
  lookup_put name value r.entries other

/-- Names that led somewhere still do after an entry is set. -/
theorem has_set (present : r.has name = true) (other : String) (value : α) :
    (r.set other value).has name = true := by
  rw [has, get?_set]
  split
  · rfl
  · exact present

theorem mem_put {entries : List (String × α)} (member : entry ∈ put name value entries) :
    entry = (name, value) ∨ entry ∈ entries := by
  induction entries with
  | nil => exact .inl (List.mem_singleton.mp member)
  | cons first rest ih =>
    rw [put] at member
    split at member
    · rcases List.mem_cons.mp member with rfl | later
      · exact .inl rfl
      · exact .inr (List.mem_cons_of_mem first later)
    · rcases List.mem_cons.mp member with rfl | later
      · exact .inr List.mem_cons_self
      · exact (ih later).imp_right (List.mem_cons_of_mem first)

/-- An entry after one was set is that one or an entry from before. -/
theorem mem_set (member : entry ∈ (r.set name value).entries) :
    entry = (name, value) ∨ entry ∈ r.entries :=
  mem_put member

/-- An entry after several were set is one of those or an entry from
before. -/
theorem mem_setAll {entries : List (String × α)} (member : entry ∈ (r.setAll entries).entries) :
    entry ∈ entries ∨ entry ∈ r.entries := by
  induction entries generalizing r with
  | nil => exact .inr member
  | cons first rest ih =>
    rcases ih member with later | before
    · exact .inl (List.mem_cons_of_mem first later)
    · rcases mem_set before with rfl | before
      · exact .inl List.mem_cons_self
      · exact .inr before

theorem lookup_filter (keep : String → Bool) (entries : List (String × α)) (name : String) :
    (entries.filter fun entry => keep entry.1).lookup name =
      if keep name then entries.lookup name else none := by
  induction entries with
  | nil => simp
  | cons entry rest ih =>
    rw [lookup_cons_ite entry rest, List.filter_cons]
    by_cases same : name = entry.1
    · subst same
      cases kept : keep entry.1
      · simpa [kept] using ih
      · simp [lookup_cons_ite]
    · cases kept : keep entry.1
      · simpa [same] using ih
      · simp [lookup_cons_ite, same, ih]

theorem lookup_arrangeEntries (order : List String) (entries : List (String × α))
    (name : String) : (arrangeEntries order entries).lookup name = entries.lookup name := by
  induction order generalizing entries with
  | nil => rfl
  | cons first order ih =>
    rw [arrangeEntries, List.lookup_append, ih, lookup_filter (· == first),
      lookup_filter (· != first)]
    by_cases same : name = first
    · simp [same]
    · simp [same]

/-- Arranging changes no entry that a name leads to. -/
@[simp] theorem get?_arrange (r : Record α) (order : List String) (name : String) :
    (r.arrange order).get? name = r.get? name :=
  lookup_arrangeEntries order r.entries name

theorem mem_arrangeEntries {order : List String} {entries : List (String × α)} :
    entry ∈ arrangeEntries order entries ↔ entry ∈ entries := by
  induction order generalizing entries with
  | nil => rfl
  | cons first order ih =>
    rw [arrangeEntries, List.mem_append, ih, List.mem_filter, List.mem_filter, ← and_or_left]
    refine and_iff_left ?_
    by_cases same : entry.1 = first
    · exact .inl (beq_iff_eq.mpr same)
    · exact .inr (bne_iff_ne.mpr same)

/-- Arranging adds no entry and drops none. -/
theorem mem_arrange {order : List String} :
    entry ∈ (r.arrange order).entries ↔ entry ∈ r.entries :=
  mem_arrangeEntries

end NodeSchema.Record
