import NodeSchema.Proofs.Field.Merging
import NodeSchema.Proofs.Record.Entries

/-!
# Arranging is a stable sort

Arranging takes one name of the list after the other and collects the entries
so called.  It comes to the same as sorting the entries by the place where
their names stand first in the list, with names that are not on it behind all
that are, by a sort that keeps entries of the same place in their order.  So
nothing is lost, and a second time changes nothing.

* `eq_of_sorted` — a list that is sorted by a key is determined by what it has
  of each key;
* `Record.arrangeEntries_eq_mergeSort` — arranging is a stable sort;
* `Record.arrange_arrange` — arranging twice is arranging once;
* `Record.names_arrange_eq` — the names after arranging by any list, in order.
-/

namespace NodeSchema

section Keys

variable {β : Type} {key : β → Nat} {first second : List β}

theorem mem_iff_of_filter
    (same : ∀ place, first.filter (key · == place) = second.filter (key · == place)) (a : β) :
    a ∈ first ↔ a ∈ second := by
  have here : a ∈ first.filter (key · == key a) ↔ a ∈ second.filter (key · == key a) := by
    rw [same]
  simpa using here

/-- Two lists that are sorted by a key are the same if they have the same of
each key, in the same order. -/
theorem eq_of_sorted (sorted : first.Pairwise (key · ≤ key ·))
    (sorted' : second.Pairwise (key · ≤ key ·))
    (same : ∀ place, first.filter (key · == place) = second.filter (key · == place)) :
    first = second := by
  induction first generalizing second with
  | nil =>
    refine (List.eq_nil_iff_forall_not_mem.mpr fun a listed => ?_).symm
    exact List.not_mem_nil ((mem_iff_of_filter same a).mpr listed)
  | cons a first ih =>
    obtain _ | ⟨b, second⟩ := second
    · exact absurd ((mem_iff_of_filter same a).mp List.mem_cons_self) List.not_mem_nil
    obtain ⟨least, rest⟩ := List.pairwise_cons.mp sorted
    obtain ⟨least', rest'⟩ := List.pairwise_cons.mp sorted'
    -- each head is in the other list, so neither has the lower key
    have level : key a = key b := by
      apply Nat.le_antisymm
      · rcases List.mem_cons.mp ((mem_iff_of_filter same b).mpr List.mem_cons_self) with rfl | later
        · exact Nat.le_refl _
        · exact least b later
      · rcases List.mem_cons.mp ((mem_iff_of_filter same a).mp List.mem_cons_self) with rfl | later
        · exact Nat.le_refl _
        · exact least' a later
    have heads := same (key a)
    rw [List.filter_cons_of_pos (by simp), List.filter_cons_of_pos (by simp [level])] at heads
    obtain ⟨rfl, -⟩ := List.cons.inj heads
    refine congrArg (a :: ·) (ih rest rest' fun place => ?_)
    have whole := same place
    rw [List.filter_cons, List.filter_cons] at whole
    by_cases here : (key a == place) = true
    · rw [if_pos here, if_pos here] at whole
      exact (List.cons.inj whole).2
    · rwa [if_neg here, if_neg here] at whole

/-- Sorting by a key keeps what there is of each key in its order. -/
theorem filter_mergeSort (key : β → Nat) (xs : List β) (place : Nat) :
    (xs.mergeSort fun a b => key a ≤ key b).filter (key · == place) =
      xs.filter (key · == place) := by
  have level : (xs.filter (key · == place)).Pairwise fun a b => decide (key a ≤ key b) = true := by
    refine List.pairwise_of_forall_mem_list fun a here b there => ?_
    have atPlace : key a = place := beq_iff_eq.mp (List.mem_filter.mp here).2
    have atPlace' : key b = place := beq_iff_eq.mp (List.mem_filter.mp there).2
    exact decide_eq_true (Nat.le_of_eq (atPlace.trans atPlace'.symm))
  have kept : (xs.filter (key · == place)).Sublist (xs.mergeSort fun a b => key a ≤ key b) :=
    List.sublist_mergeSort (by simp; omega) (by simp; omega) level List.filter_sublist
  have within := kept.filter (key · == place)
  rw [List.filter_filter] at within
  simp only [Bool.and_self] at within
  have perm := (List.mergeSort_perm xs fun a b => key a ≤ key b).filter (key · == place)
  exact (within.eq_of_length perm.length_eq.symm).symm

end Keys

namespace Record

variable {α : Type} {entries : List (String × α)} {entry : String × α} {first : String}
  {order : List String}

/-- The place where the name of an entry stands first in a list, or the end of
the list if it is not on it. -/
def place (order : List String) (entry : String × α) : Nat := order.idxOf entry.1

theorem place_cons_self (order : List String) (called : entry.1 = first) :
    place (first :: order) entry = 0 := by
  rw [place, called, List.idxOf_cons_self]

theorem place_cons_other (order : List String) (other : entry.1 ≠ first) :
    place (first :: order) entry = place order entry + 1 := by
  rw [place, place, List.idxOf_cons_ne _ (Ne.symm other)]

theorem ne_of_mem_arrangeEntries
    (listed : entry ∈ arrangeEntries order (entries.filter (·.1 != first))) : entry.1 ≠ first := by
  simpa using (List.mem_filter.mp (mem_arrangeEntries.mp listed)).2

/-- Arranged entries are in the order of their places. -/
theorem pairwise_arrangeEntries (order : List String) (entries : List (String × α)) :
    (arrangeEntries order entries).Pairwise (place order · ≤ place order ·) := by
  induction order generalizing entries with
  | nil => exact List.pairwise_of_forall fun _ _ => Nat.le_refl 0
  | cons first order ih =>
    have front : ∀ entry ∈ entries.filter (·.1 == first), place (first :: order) entry = 0 := by
      intro entry here
      exact place_cons_self order (beq_iff_eq.mp (List.mem_filter.mp here).2)
    rw [arrangeEntries, List.pairwise_append]
    refine ⟨?_, ?_, ?_⟩
    · refine List.pairwise_of_forall_mem_list fun a here b there => ?_
      rw [front a here]
      exact Nat.zero_le _
    · refine (ih _).imp_of_mem fun here there ordered => ?_
      rw [place_cons_other order (ne_of_mem_arrangeEntries here),
        place_cons_other order (ne_of_mem_arrangeEntries there)]
      exact Nat.succ_le_succ ordered
    · intro a here b _
      rw [front a here]
      exact Nat.zero_le _

/-- Arranging keeps entries of the same place in their order. -/
theorem filter_arrangeEntries (order : List String) (entries : List (String × α)) (spot : Nat) :
    (arrangeEntries order entries).filter (place order · == spot) =
      entries.filter (place order · == spot) := by
  induction order generalizing entries spot with
  | nil => rfl
  | cons first order ih =>
    rw [arrangeEntries, List.filter_append]
    cases spot with
    | zero =>
      have front : ∀ e : String × α, (place (first :: order) e == 0) = (e.1 == first) := by
        intro e
        by_cases called : e.1 = first
        · simp [place_cons_self order called, called]
        · simp [place_cons_other order called, called]
      have none : (arrangeEntries order (entries.filter (·.1 != first))).filter (·.1 == first) = [] :=
        List.filter_eq_nil_iff.mpr fun e listed called =>
          ne_of_mem_arrangeEntries listed (beq_iff_eq.mp called)
      simp only [front, none, List.append_nil, List.filter_filter, Bool.and_self]
    | succ spot =>
      have behind : ∀ e : String × α,
          (place (first :: order) e == spot + 1) = (place order e == spot && e.1 != first) := by
        intro e
        by_cases called : e.1 = first
        · simp [place_cons_self order called, called]
        · simp [place_cons_other order called, called]
      have none : (entries.filter (·.1 == first)).filter
          (fun e => place order e == spot && e.1 != first) = [] :=
        List.filter_eq_nil_iff.mpr fun e listed there =>
          absurd (List.mem_filter.mp listed).2 (by simpa using (Bool.and_eq_true_iff.mp there).2)
      have others : (arrangeEntries order (entries.filter (·.1 != first))).filter
            (fun e => place order e == spot && e.1 != first) =
          (arrangeEntries order (entries.filter (·.1 != first))).filter (place order · == spot) :=
        List.filter_congr fun e listed => by simp [ne_of_mem_arrangeEntries listed]
      simp only [behind, none, others, ih, List.nil_append, List.filter_filter]

/-- **Arranging is a stable sort** by the places of the names. -/
theorem arrangeEntries_eq_mergeSort (order : List String) (entries : List (String × α)) :
    arrangeEntries order entries =
      entries.mergeSort fun a b => place order a ≤ place order b := by
  have sorted : (entries.mergeSort fun a b => place order a ≤ place order b).Pairwise
      (place order · ≤ place order ·) := by
    refine (List.pairwise_mergeSort (by simp; omega) (by simp; omega) entries).imp ?_
    exact of_decide_eq_true
  refine eq_of_sorted (pairwise_arrangeEntries order entries) sorted fun at' => ?_
  rw [filter_arrangeEntries, filter_mergeSort]

theorem perm_arrangeEntries (order : List String) (entries : List (String × α)) :
    (arrangeEntries order entries).Perm entries := by
  rw [arrangeEntries_eq_mergeSort]
  exact List.mergeSort_perm entries _

variable {r : Record α}

/-- Arranging permutes the entries. -/
theorem perm_arrange (r : Record α) (order : List String) :
    (r.arrange order).entries.Perm r.entries :=
  perm_arrangeEntries order r.entries

/-- Arranging twice by the same list is arranging once. -/
theorem arrange_arrange (r : Record α) (order : List String) :
    (r.arrange order).arrange order = r.arrange order := by
  have sorted : (arrangeEntries order r.entries).Pairwise
      fun a b => decide (place order a ≤ place order b) = true :=
    (pairwise_arrangeEntries order r.entries).imp decide_eq_true
  have same : arrangeEntries order (arrangeEntries order r.entries) =
      arrangeEntries order r.entries := by
    rw [arrangeEntries_eq_mergeSort order (arrangeEntries order r.entries),
      List.mergeSort_of_pairwise sorted]
  exact congrArg (Record.mk r.tag) same

/-- Of distinct names at most one is `first`. -/
theorem filter_beq_of_nodup {names : List String} (distinct : names.Nodup) (first : String) :
    names.filter (· == first) = if first ∈ names then [first] else [] := by
  rw [List.filter_beq, distinct.count]
  split <;> rfl

theorem map_arrangeEntries_eq {names : List String} (named : entries.map (·.1) = names)
    (distinct : names.Nodup) :
    (arrangeEntries order entries).map (·.1) =
      order.eraseDups.filter names.contains ++ names.filter (!order.contains ·) := by
  induction order generalizing entries names with
  | nil => simp [arrangeEntries, named]
  | cons first order ih =>
    have kept : ∀ keep : String → Bool,
        (entries.filter fun entry => keep entry.1).map (·.1) = names.filter keep := by
      intro keep
      rw [← named, List.filter_map]
      rfl
    have listed : order.eraseDups.filter (names.filter (· != first)).contains =
        (order.eraseDups.filter (!· == first)).filter names.contains := by
      rw [List.filter_filter]
      refine List.filter_congr fun name _ => ?_
      by_cases here : name = first <;> simp [here]
    have unlisted : (names.filter (· != first)).filter (!order.contains ·) =
        names.filter (!(first :: order).contains ·) := by
      rw [List.filter_filter]
      refine List.filter_congr fun name _ => ?_
      by_cases here : name = first <;> simp [here]
    calc (arrangeEntries (first :: order) entries).map (·.1)
        = names.filter (· == first) ++
            (order.eraseDups.filter (names.filter (· != first)).contains ++
              (names.filter (· != first)).filter (!order.contains ·)) := by
          rw [arrangeEntries, List.map_append, kept (· == first),
            ih (kept (· != first)) (distinct.filter _)]
      _ = (if first ∈ names then [first] else []) ++
            ((order.eraseDups.filter (!· == first)).filter names.contains ++
              names.filter (!(first :: order).contains ·)) := by
          rw [filter_beq_of_nodup distinct, listed, unlisted]
      _ = (first :: order).eraseDups.filter names.contains ++
            names.filter (!(first :: order).contains ·) := by
          rw [List.eraseDups_cons, eraseDups_filter, List.filter_cons, ← List.append_assoc]
          by_cases here : first ∈ names <;> simp [here]

/-- **Arranging by any list.**  The names on the list that the record has come
first, in the order of their first places there; the others follow in the order
that they had. -/
theorem names_arrange_eq (distinct : r.names.Nodup) (order : List String) :
    (r.arrange order).names =
      order.eraseDups.filter r.has ++ r.names.filter (!order.contains ·) := by
  have named : r.has = r.names.contains := by
    funext name
    rw [Bool.eq_iff_iff, has_iff, List.contains_iff_mem]
  rw [named]
  exact map_arrangeEntries_eq rfl distinct

end Record

end NodeSchema
