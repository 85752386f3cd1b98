import NodeSchema.Proofs.Record.Arrangement

/-!
# Records under edits

A record starts blank and changes by edits: an entry is set, or the entries are
arranged.  Whatever the edits, it stays a map with an order: no two entries have
the same name, and a name leads to what was set under it last.  The order is
that in which the names were set first, up to arrangements, and an arrangement
moves entries without changing what a name leads to.

* `Record.Edit`, `Record.edit` — one change of a record;
* `Record.settings` — what a run of edits sets;
* `nodup_edit`, `get?_edit` — what one edit keeps, and what it changes;
* `nodup_edits`, `get?_edits`, `names_edits` — what a run of edits does;
* `entries_stay_an_ordered_map` — so every record that comes of edits is a map
  with an order.
-/

namespace NodeSchema.Record

variable {α : Type}

/-- One change of a record: an entry is set, in place or in a copy that is handed
on, or the entries are arranged. -/
inductive Edit (α : Type) where
  | set (name : String) (value : α)
  | arrange (order : List String)

/-- The entry that an edit sets, if it sets one. -/
def Edit.setting? : Edit α → Option (String × α)
  | .set name value => some (name, value)
  | .arrange _ => none

/-- The record after an edit. -/
def edit (r : Record α) : Edit α → Record α
  | .set name value => r.set name value
  | .arrange order => r.arrange order

/-- The entries that edits set, in order. -/
def settings (edits : List (Edit α)) : List (String × α) := edits.filterMap Edit.setting?

/-- A new record, with a tag or without. -/
def blank : Option String → Record α
  | some tag => tagged tag
  | none => untagged

theorem blank_eq (tag : Option String) : (blank tag : Record α) = ⟨tag, []⟩ := by
  cases tag <;> rfl

theorem settings_append (before after : List (Edit α)) :
    settings (before ++ after) = settings before ++ settings after :=
  List.filterMap_append

theorem tag_edit (r : Record α) (e : Edit α) : (r.edit e).tag = r.tag := by
  cases e <;> rfl

/-- Names stay distinct under an edit. -/
theorem nodup_edit {r : Record α} (distinct : r.names.Nodup) (e : Edit α) :
    (r.edit e).names.Nodup := by
  cases e with
  | set name value => exact nodup_set distinct name value
  | arrange order => exact ((perm_arrange r order).map _).nodup_iff.mpr distinct

/-- After an edit a name leads to what the edit sets under it, or else to what
it led to before. -/
theorem get?_edit (r : Record α) (e : Edit α) (name : String) :
    (r.edit e).get? name = ((settings [e]).lookup name).or (r.get? name) := by
  cases e with
  | set set value =>
    have one : settings [Edit.set set value] = [(set, value)] := rfl
    rw [edit, get?_set, one, lookup_cons_ite]
    split <;> rfl
  | arrange order =>
    rw [edit, get?_arrange]
    rfl

/-- Names stay distinct under a run of edits. -/
theorem nodup_edits {r : Record α} (distinct : r.names.Nodup) (edits : List (Edit α)) :
    (edits.foldl edit r).names.Nodup := by
  induction edits generalizing r with
  | nil => exact distinct
  | cons e rest ih => exact ih (nodup_edit distinct e)

theorem tag_edits (r : Record α) (edits : List (Edit α)) : (edits.foldl edit r).tag = r.tag := by
  induction edits generalizing r with
  | nil => rfl
  | cons e rest ih => rw [List.foldl_cons, ih, tag_edit]

/-- **The last setting counts.**  After a run of edits a name leads to what was
set under it last, or to what it led to at first if nothing was. -/
theorem get?_edits (r : Record α) (edits : List (Edit α)) (name : String) :
    (edits.foldl edit r).get? name = ((settings edits).reverse.lookup name).or (r.get? name) := by
  induction edits using List.reverseRecOn with
  | nil => rfl
  | append_singleton edits last ih =>
    have turned : (settings [last]).reverse = settings [last] := by
      cases last <;> rfl
    rw [List.foldl_concat, get?_edit, ih, settings_append, List.reverse_append, turned,
      List.lookup_append, Option.or_assoc]

/-- **The first setting places.**  Without arrangements the names that are set
anew go to the end, in the order in which they were set first. -/
theorem names_edits (r : Record α) {edits : List (Edit α)}
    (still : ∀ order, Edit.arrange order ∉ edits) :
    (edits.foldl edit r).names = addNames r.names ((settings edits).map (·.1)) := by
  induction edits generalizing r with
  | nil => rfl
  | cons e rest ih =>
    have later : ∀ order, Edit.arrange order ∉ rest :=
      fun order listed => still order (List.mem_cons_of_mem e listed)
    cases e with
    | arrange order => exact absurd List.mem_cons_self (still order)
    | set name value =>
      calc (rest.foldl edit (r.set name value)).names
          = addNames (r.set name value).names ((settings rest).map (·.1)) := ih _ later
        _ = addNames (addNames r.names [name]) ((settings rest).map (·.1)) := by rw [names_set]
        _ = addNames r.names ((settings (.set name value :: rest)).map (·.1)) := rfl

/-- **Entries stay an ordered map.**  Whatever edits a new record goes through,
it keeps its tag, and no two of its entries have the same name.  A name leads to
what was set under it last, and nowhere if nothing was.  Without arrangements
the names are in the order in which they were set first.  An arrangement
permutes the entries: those whose names are on the list come first, in the order
of the first places there, and the others follow in their order; every name
leads where it led, and to arrange again by the same list changes nothing. -/
theorem entries_stay_an_ordered_map (tag : Option String) (edits : List (Edit α)) :
    let r := edits.foldl edit (blank tag)
    r.tag = tag ∧
      r.names.Nodup ∧
      (∀ name, r.get? name = (settings edits).reverse.lookup name) ∧
      ((∀ order, Edit.arrange order ∉ edits) →
        r.names = ((settings edits).map (·.1)).eraseDups) ∧
      ∀ order,
        (r.arrange order).entries.Perm r.entries ∧
          (r.arrange order).names =
            order.eraseDups.filter r.has ++ r.names.filter (!order.contains ·) ∧
          (∀ name, (r.arrange order).get? name = r.get? name) ∧
          (r.arrange order).arrange order = r.arrange order := by
  have empty : (blank tag : Record α).names = [] := by rw [blank_eq]; rfl
  have distinct : (edits.foldl edit (blank tag)).names.Nodup :=
    nodup_edits (empty ▸ List.nodup_nil) edits
  refine ⟨?_, distinct, fun name => ?_, fun still => ?_, fun order => ⟨?_, ?_, ?_, ?_⟩⟩
  · rw [tag_edits, blank_eq]
  · have nowhere : (blank tag : Record α).get? name = none := by rw [blank_eq]; rfl
    rw [get?_edits, nowhere, Option.or_none]
  · rw [names_edits _ still, empty, addNames_nil]
  · exact perm_arrange _ order
  · exact names_arrange_eq distinct order
  · exact get?_arrange _ order
  · exact arrange_arrange _ order

/-- A coat is packed, then a hat, then another coat instead, and a scarf. -/
def packing : List (Edit Value) :=
  [.set "coat" (.string "grey"), .set "hat" .null, .set "coat" (.string "blue"),
    .set "scarf" (.bool true)]

/-- The other coat lies where the first one did.  If scarf and hat are to come
first, the coat follows them, and a glove that is not there makes no
difference. -/
theorem packing_stays_ordered :
    let trunk := packing.foldl edit (blank (some "Trunk"))
    (∀ order, Edit.arrange order ∉ packing) ∧
      trunk.names = ["coat", "hat", "scarf"] ∧
      trunk.get? "coat" = some (.string "blue") ∧
      trunk.get? "glove" = none ∧
      (trunk.arrange ["scarf", "glove", "hat", "scarf"]).names = ["scarf", "hat", "coat"] ∧
      (trunk.arrange ["scarf", "glove", "hat", "scarf"]).get? "coat" = some (.string "blue") := by
  have still : ∀ order, Edit.arrange order ∉ packing := by simp [packing]
  obtain ⟨-, -, leads, placed, arranged⟩ := entries_stay_an_ordered_map (some "Trunk") packing
  obtain ⟨-, names, kept, -⟩ := arranged ["scarf", "glove", "hat", "scarf"]
  refine ⟨still, placed still, leads "coat", leads "glove", ?_, ?_⟩
  · rw [names, placed still]
    rfl
  · rw [kept, leads]
    rfl

end NodeSchema.Record
