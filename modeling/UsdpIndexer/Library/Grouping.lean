import UsdpIndexer.Library.KeyedTable

/-!
# Grouping by a key

A map from keys to lists that a loop fills, as one groups with a map: the groups stand in the
order in which their keys appear, and a group has its elements in the order of the input.
-/

namespace Grouping

open KeyedTable hiding Unique

universe u v

variable {α : Type u} {Key : Type v} [DecidableEq Key] (key : α → Key)

/-- Put an element into its group; the first of a key opens the group. -/
def pushGroup (groups : List (Key × List α)) (a : α) : List (Key × List α) :=
  upsert Prod.fst (fun old new => (old.1, old.2 ++ new.2)) groups (key a, [a])

/-- The elements under their keys, each key where it comes first. -/
def groupBy (l : List α) : List (Key × List α) := l.foldl (pushGroup key) []

variable {key}

theorem unique_pushGroup {groups : List (Key × List α)}
    (unique : KeyedTable.Unique Prod.fst groups) (a : α) :
    KeyedTable.Unique Prod.fst (pushGroup key groups a) :=
  unique_upsert Prod.fst _ _ unique fun _ same => same

/-- One more element in one of the groups. -/
theorem flatMap_pushGroup {groups : List (Key × List α)}
    (unique : KeyedTable.Unique Prod.fst groups) (a : α) :
    ((pushGroup key groups a).flatMap Prod.snd).Perm (groups.flatMap Prod.snd ++ [a]) := by
  by_cases known : key a ∈ groups.map Prod.fst
  · obtain ⟨group, mem, same⟩ := List.mem_map.mp known
    obtain ⟨front, back, rfl⟩ := List.append_of_mem mem
    -- the other groups have other keys
    rw [KeyedTable.Unique, List.map_append, List.map_cons, List.nodup_append,
      List.nodup_cons] at unique
    obtain ⟨-, ⟨notBack, -⟩, apart⟩ := unique
    have unchanged (part : List (Key × List α)) (ne : ∀ other ∈ part, other.1 ≠ key a) :
        part.map (fun old => if old.1 = key a then (old.1, old.2 ++ [a]) else old) = part :=
      (List.map_congr_left fun other hother => if_neg (ne other hother)).trans (List.map_id _)
    have inFront : ∀ other ∈ front, other.1 ≠ key a := fun other hother equal =>
      apart other.1 (List.mem_map_of_mem hother) group.1 List.mem_cons_self (equal.trans same.symm)
    have inBack : ∀ other ∈ back, other.1 ≠ key a := fun other hother equal =>
      notBack (List.mem_map.mpr ⟨other, hother, equal.trans same.symm⟩)
    rw [pushGroup, upsert, if_pos known, List.map_append, List.map_cons, unchanged front inFront,
      unchanged back inBack, if_pos same]
    simp only [List.flatMap_append, List.flatMap_cons, List.append_assoc]
    exact (List.perm_append_comm.append_left _).append_left _
  · rw [pushGroup, upsert, if_neg known, List.flatMap_append]
    simp

/-- **Every element is in exactly one group.** -/
theorem flatMap_groupBy_perm (l : List α) : ((groupBy key l).flatMap Prod.snd).Perm l := by
  suffices all : KeyedTable.Unique Prod.fst (groupBy key l) ∧
      ((groupBy key l).flatMap Prod.snd).Perm l from all.2
  induction l using List.reverseRecOn with
  | nil => exact ⟨unique_nil _, .nil⟩
  | append_singleton l a ih =>
      have step : groupBy key (l ++ [a]) = pushGroup key (groupBy key l) a := by
        rw [groupBy, List.foldl_append]
        rfl
      rw [step]
      exact ⟨unique_pushGroup ih.1 a, (flatMap_pushGroup ih.1 a).trans (ih.2.append_right _)⟩

end Grouping
