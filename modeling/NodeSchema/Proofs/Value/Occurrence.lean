import NodeSchema.Value.Basic

/-!
# Values inside values

Which values occur in a value, at any depth, through arrays and the fields
of nodes.

* `Value.Occurs` — a value occurs in another, itself included;
* `Value.Inside` — a value occurs in one of the fields of a node;
* `Value.NodeFree` — no node occurs in a value;
* `Occurs.depth_le`, `Inside.depth_lt` — what occurs in a value is no deeper,
  and what is inside a node is less deep.
-/

namespace NodeSchema.Value

/-- A value occurs in another, at any depth. -/
inductive Occurs (inner : Value) : Value → Prop
  | here : Occurs inner inner
  | item {items : List Value} {item : Value} (listed : item ∈ items)
      (within : Occurs inner item) : Occurs inner (.array items)
  | entry {node : Node} {entry : String × Value} (listed : entry ∈ node.entries)
      (within : Occurs inner entry.2) : Occurs inner (.node node)

/-- A value occurs in one of the fields of a node. -/
def Inside (inner : Value) (node : Node) : Prop :=
  ∃ entry ∈ node.entries, inner.Occurs entry.2

/-- No node occurs in a value. -/
def NodeFree (value : Value) : Prop := ∀ node, ¬ (Value.node node).Occurs value

variable {inner middle outer : Value} {node : Node}

theorem nodeFree_null : Value.null.NodeFree := by
  intro node within
  cases within

theorem nodeFree_bool (holds : Bool) : (Value.bool holds).NodeFree := by
  intro node within
  cases within

/-- No node occurs in an array if none occurs in its elements. -/
theorem nodeFree_array {items : List Value} (each : ∀ item ∈ items, item.NodeFree) :
    (Value.array items).NodeFree := by
  intro node within
  cases within with
  | item listed within => exact each _ listed node within

theorem Occurs.trans (within : inner.Occurs middle) (without : middle.Occurs outer) :
    inner.Occurs outer := by
  induction without with
  | here => exact within
  | item listed _ ih => exact .item listed ih
  | entry listed _ ih => exact .entry listed ih

/-- What is inside a node occurs in it. -/
theorem Inside.occurs (inside : inner.Inside node) : inner.Occurs (.node node) := by
  obtain ⟨entry, listed, within⟩ := inside
  exact .entry listed within

theorem Occurs.inside (within : inner.Occurs middle) (inside : middle.Inside node) :
    inner.Inside node := by
  obtain ⟨entry, listed, occurs⟩ := inside
  exact ⟨entry, listed, within.trans occurs⟩

theorem depth_le_itemsDepth {items : List Value} {item : Value} (listed : item ∈ items) :
    item.depth ≤ itemsDepth items := by
  induction items with
  | nil => cases listed
  | cons first rest ih =>
    rw [itemsDepth]
    rcases List.mem_cons.mp listed with rfl | later
    · exact Nat.le_max_left _ _
    · exact Nat.le_trans (ih later) (Nat.le_max_right _ _)

theorem depth_le_entriesDepth {entries : List (String × Value)} {entry : String × Value}
    (listed : entry ∈ entries) : entry.2.depth ≤ entriesDepth entries := by
  induction entries with
  | nil => cases listed
  | cons first rest ih =>
    rw [entriesDepth]
    rcases List.mem_cons.mp listed with rfl | later
    · exact Nat.le_max_left _ _
    · exact Nat.le_trans (ih later) (Nat.le_max_right _ _)

theorem depth_node (node : Node) : (Value.node node).depth = entriesDepth node.entries + 1 := by
  cases node
  rw [depth]

theorem depth_array (items : List Value) : (Value.array items).depth = itemsDepth items := by
  rw [depth]

/-- What occurs in a value is no deeper than it. -/
theorem Occurs.depth_le (occurs : inner.Occurs outer) : inner.depth ≤ outer.depth := by
  induction occurs with
  | here => exact Nat.le_refl _
  | item listed _ ih =>
    rw [depth_array]
    exact Nat.le_trans ih (depth_le_itemsDepth listed)
  | entry listed _ ih =>
    rw [depth_node]
    exact Nat.le_succ_of_le (Nat.le_trans ih (depth_le_entriesDepth listed))

/-- What is inside a node is less deep than it. -/
theorem Inside.depth_lt (inside : inner.Inside node) :
    inner.depth < (Value.node node).depth := by
  obtain ⟨entry, listed, occurs⟩ := inside
  rw [depth_node]
  exact Nat.lt_succ_of_le (Nat.le_trans occurs.depth_le (depth_le_entriesDepth listed))

mutual

/-- A value that is deeper than nothing has a node in it. -/
theorem exists_node_of_depth : ∀ value : Value, 0 < value.depth →
    ∃ node, (Value.node node).Occurs value
  | .node record, _ => ⟨record, .here⟩
  | .array items, deep => by
    rw [depth_array] at deep
    obtain ⟨item, listed, node, within⟩ := exists_node_of_itemsDepth items deep
    exact ⟨node, .item listed within⟩
  | .null, deep | .bool _, deep | .number _, deep | .string _, deep => by simp [depth] at deep

theorem exists_node_of_itemsDepth : ∀ items : List Value, 0 < itemsDepth items →
    ∃ item ∈ items, ∃ node, (Value.node node).Occurs item
  | [], deep => absurd deep (by simp [itemsDepth])
  | item :: rest, deep => by
    rw [itemsDepth] at deep
    rcases Nat.lt_or_ge 0 item.depth with here | flat
    · exact ⟨item, List.mem_cons_self, exists_node_of_depth item here⟩
    · have later : 0 < itemsDepth rest := by omega
      obtain ⟨other, listed, found⟩ := exists_node_of_itemsDepth rest later
      exact ⟨other, List.mem_cons_of_mem item listed, found⟩

end

/-- A value without nodes has no depth. -/
theorem NodeFree.depth_eq_zero {value : Value} (free : value.NodeFree) : value.depth = 0 := by
  rcases Nat.eq_zero_or_pos value.depth with flat | deep
  · exact flat
  · obtain ⟨node, occurs⟩ := exists_node_of_depth value deep
    exact absurd occurs (free node)

end NodeSchema.Value
