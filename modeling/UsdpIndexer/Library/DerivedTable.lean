import Mathlib.Algebra.BigOperators.Group.Finset.Basic

/-!
# Tables that are derived group by group

A table of derived rows is kept in groups: to derive a group means to delete what is there
under its key and to insert the derived rows.  As long as a group is always derived to the
same rows, the table holds every derived group once, however often it has been derived, and a
total over the table counts every one of them.
-/

namespace DerivedTable

universe u v w

variable {α : Type u} {κ : Type v} [DecidableEq κ] (key : α → κ) (rows : κ → List α)

/-- Derive the group of a key anew. -/
def replaceGroup (table : List α) (k : κ) : List α :=
  (table.filter fun row => key row ≠ k) ++ rows k

variable {key rows}

/-- The group of the key holds the derived rows then, and nothing else. -/
theorem filter_replaceGroup_self {k : κ} (owned : ∀ row ∈ rows k, key row = k) (table : List α) :
    (replaceGroup key rows table k).filter (fun row => key row = k) = rows k := by
  have gone : (table.filter fun row => key row ≠ k).filter (fun row => key row = k) = [] :=
    List.filter_eq_nil_iff.mpr fun row mem same =>
      of_decide_eq_true (List.mem_filter.mp mem).2 (of_decide_eq_true same)
  have all : (rows k).filter (fun row => key row = k) = rows k :=
    List.filter_eq_self.mpr fun row mem => decide_eq_true (owned row mem)
  rw [replaceGroup, List.filter_append, gone, all, List.nil_append]

/-- The other groups stay as they are. -/
theorem filter_replaceGroup_of_ne {k k' : κ} (owned : ∀ row ∈ rows k, key row = k) (ne : k' ≠ k)
    (table : List α) : (replaceGroup key rows table k).filter (fun row => key row = k')
      = table.filter fun row => key row = k' := by
  have nothing : (rows k).filter (fun row => key row = k') = [] :=
    List.filter_eq_nil_iff.mpr fun row mem same =>
      ne ((of_decide_eq_true same).symm.trans (owned row mem))
  rw [replaceGroup, List.filter_append, nothing, List.append_nil, List.filter_filter]
  refine List.filter_congr fun row _ => ?_
  by_cases same : key row = k' <;> simp [same, ne]

variable (rows) in
/-- Nothing but the groups of the keys is in the table, and each of them once. -/
def Holds (keys : Finset κ) (table : List α) : Prop :=
  ∃ order : List κ, order.Nodup ∧ order.toFinset = keys ∧ table = order.flatMap rows

theorem Holds.nil : Holds rows ∅ [] := ⟨[], List.nodup_nil, rfl, rfl⟩

omit [DecidableEq κ] in
/-- The rows of some groups are those of their keys. -/
theorem filter_flatMap (owned : ∀ k, ∀ row ∈ rows k, key row = k) (p : κ → Prop) [DecidablePred p]
    (order : List κ) :
    (order.flatMap rows).filter (fun row => p (key row)) = (order.filter p).flatMap rows := by
  induction order with
  | nil => rfl
  | cons k order ih =>
      rw [List.flatMap_cons, List.filter_append, ih]
      by_cases holds : p k
      · have all : (rows k).filter (fun row => p (key row)) = rows k :=
          List.filter_eq_self.mpr fun row mem => by
            rw [owned k row mem]
            exact decide_eq_true holds
        rw [all, List.filter_cons_of_pos (by simpa using holds), List.flatMap_cons]
      · have nothing : (rows k).filter (fun row => p (key row)) = [] :=
          List.filter_eq_nil_iff.mpr fun row mem => by
            rw [owned k row mem]
            simpa using holds
        rw [nothing, List.nil_append, List.filter_cons_of_neg (by simpa using holds)]

/-- **Deriving a group.**  It is in the table then, and once, whether it was there or not. -/
theorem Holds.replaceGroup (owned : ∀ k, ∀ row ∈ rows k, key row = k) {keys : Finset κ}
    {table : List α} (holds : Holds rows keys table) (k : κ) :
    Holds rows (insert k keys) (replaceGroup key rows table k) := by
  obtain ⟨order, nodup, rfl, rfl⟩ := holds
  refine ⟨order.filter (· ≠ k) ++ [k], ?_, ?_, ?_⟩
  · refine List.nodup_append.mpr ⟨nodup.filter _, List.nodup_singleton k, ?_⟩
    intro other mem k' mem'
    rw [List.mem_singleton.mp mem']
    exact of_decide_eq_true (List.mem_filter.mp mem).2
  · ext other
    rw [List.mem_toFinset, List.mem_append, List.mem_filter, List.mem_singleton,
      decide_eq_true_iff, Finset.mem_insert, List.mem_toFinset]
    by_cases same : other = k <;> simp [same]
  · rw [DerivedTable.replaceGroup, filter_flatMap owned fun other => other ≠ k,
      List.flatMap_append, List.flatMap_singleton]

theorem Holds.key_mem (owned : ∀ k, ∀ row ∈ rows k, key row = k) {keys : Finset κ}
    {table : List α} (holds : Holds rows keys table) {row : α} (mem : row ∈ table) :
    key row ∈ keys := by
  obtain ⟨order, -, rfl, rfl⟩ := holds
  obtain ⟨k, hk, hrow⟩ := List.mem_flatMap.mp mem
  rw [owned k row hrow]
  exact List.mem_toFinset.mpr hk

/-- A selection of the table holds the selection of every group. -/
theorem Holds.filter {keys : Finset κ} {table : List α} (holds : Holds rows keys table)
    (q : α → Bool) : Holds (fun k => (rows k).filter q) keys (table.filter q) := by
  obtain ⟨order, nodup, same, rfl⟩ := holds
  exact ⟨order, nodup, same, List.filter_flatMap⟩

/-- A total over part of the table is that of the groups of the part. -/
theorem Holds.sum_eq {M : Type w} [AddCommMonoid M]
    (owned : ∀ k, ∀ row ∈ rows k, key row = k) {keys : Finset κ} {table : List α}
    (holds : Holds rows keys table) (p : κ → Prop) [DecidablePred p] (f : α → M) :
    ((table.filter fun row => p (key row)).map f).sum
      = ∑ k ∈ keys with p k, ((rows k).map f).sum := by
  obtain ⟨order, nodup, rfl, rfl⟩ := holds
  have part : order.toFinset.filter p = (order.filter p).toFinset := by
    ext k
    simp
  rw [filter_flatMap owned, List.map_flatMap, List.flatMap_def, List.sum_flatten, List.map_map,
    part, List.sum_toFinset _ (nodup.filter _)]
  rfl

end DerivedTable
