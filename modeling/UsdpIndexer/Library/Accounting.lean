import Mathlib.Algebra.BigOperators.Group.List.Basic
import Mathlib.Data.List.Nodup
import Mathlib.Data.List.Perm.Subperm
import Mathlib.Data.Nat.ModEq

/-!
# Reports against an expected set

Components come in under distinct identifiers from an expected set, one is kept or
not, and a summary is made of what is kept.  `Reported` is what such a summary may rely
on.  Under it the identifiers of the kept components say which components were kept
(`mem_ids_filter_iff`), every expected identifier is kept, held back, or has not come in
(`exactlyOne`), and counting the kept components is enough to see whether anything is
missing (`length_filter_eq_length_iff`).
-/

namespace Accounting

universe u v

variable {ι : Type u} {α : Type v}

/-- One of three and no other. -/
def ExactlyOne (p q r : Prop) : Prop :=
  (p ∧ ¬ q ∧ ¬ r) ∨ (¬ p ∧ q ∧ ¬ r) ∨ (¬ p ∧ ¬ q ∧ r)

/-- Components with distinct identifiers from a nonempty set. -/
structure Reported (id : α → ι) (expected : List ι) (components : List α) : Prop where
  nonempty : expected ≠ []
  expectedNodup : expected.Nodup
  idsNodup : (components.map id).Nodup
  subset : ∀ component ∈ components, id component ∈ expected

instance [DecidableEq ι] (id : α → ι) (expected : List ι) (components : List α) :
    Decidable (Reported id expected components) :=
  decidable_of_iff (expected ≠ [] ∧ expected.Nodup ∧ (components.map id).Nodup ∧
      ∀ component ∈ components, id component ∈ expected)
    ⟨fun ⟨nonempty, nodup, ids, subset⟩ => ⟨nonempty, nodup, ids, subset⟩,
      fun ⟨nonempty, nodup, ids, subset⟩ => ⟨nonempty, nodup, ids, subset⟩⟩

namespace Reported

variable {id : α → ι} {expected : List ι} {components : List α}

/-- The identifiers of a selection tell what was selected. -/
theorem mem_ids_filter_iff (reported : Reported id expected components) {keep : α → Bool}
    {component : α} (mem : component ∈ components) :
    id component ∈ (components.filter keep).map id ↔ keep component := by
  constructor
  · intro kept
    obtain ⟨other, hother, same⟩ := List.mem_map.mp kept
    obtain ⟨inside, keeps⟩ := List.mem_filter.mp hother
    rwa [List.inj_on_of_nodup_map reported.idsNodup inside mem same] at keeps
  · intro keeps
    exact List.mem_map_of_mem (List.mem_filter.mpr ⟨mem, keeps⟩)

theorem decide_mem_ids_filter [DecidableEq ι] (reported : Reported id expected components)
    {keep : α → Bool} {component : α} (mem : component ∈ components) :
    decide (id component ∈ (components.filter keep).map id) = keep component := by
  simp only [reported.mem_ids_filter_iff mem, Bool.decide_eq_true]

/-- Every expected identifier is kept, missing or held back. -/
theorem exactlyOne (reported : Reported id expected components) (keep : α → Bool) (i : ι) :
    ExactlyOne (i ∈ (components.filter keep).map id) (i ∉ components.map id)
      (i ∈ (components.filter fun component => !keep component).map id) := by
  by_cases present : i ∈ components.map id
  · obtain ⟨component, mem, rfl⟩ := List.mem_map.mp present
    rw [ExactlyOne, reported.mem_ids_filter_iff mem, reported.mem_ids_filter_iff mem]
    cases keep component <;> simp [present]
  · have absent (chosen : α → Bool) : i ∉ (components.filter chosen).map id := fun mem =>
      present ((List.filter_sublist.map id).subset mem)
    exact .inr (.inl ⟨absent keep, present, absent _⟩)

/-- Counting what is kept shows whether everything has come in and was kept. -/
theorem length_filter_eq_length_iff (reported : Reported id expected components)
    {keep : α → Bool} :
    (components.filter keep).length = expected.length
      ↔ (∀ i ∈ expected, i ∈ components.map id) ∧ ∀ component ∈ components, keep component := by
  have sub : components.map id ⊆ expected := by
    intro i mem
    obtain ⟨component, hcomponent, rfl⟩ := List.mem_map.mp mem
    exact reported.subset component hcomponent
  have subperm := reported.idsNodup.subperm sub
  have fewer := subperm.length_le
  have kept := List.length_filter_le keep components
  rw [List.length_map] at fewer
  constructor
  · intro counted
    refine ⟨fun i mem => ?_, ?_⟩
    · have all : expected.length ≤ (components.map id).length := by
        rw [List.length_map]
        omega
      exact (subperm.perm_of_length_le all).mem_iff.mpr mem
    · exact List.length_filter_eq_length_iff.mp (by omega)
  · rintro ⟨all, keeps⟩
    have more := (reported.expectedNodup.subperm fun i mem => all i mem).length_le
    rw [List.length_map] at more
    have everything := List.length_filter_eq_length_iff.mpr keeps
    omega

/-- The components under the kept identifiers are the kept ones. -/
theorem filter_mem_ids [DecidableEq ι] (reported : Reported id expected components)
    {keep : α → Bool} :
    (components.filter fun component => id component ∈ (components.filter keep).map id)
      = components.filter keep := by
  apply List.filter_congr
  intro component mem
  exact reported.decide_mem_ids_filter mem

end Reported

/-! ## Sums of rounded terms -/

/-- Rounding every term down gives no more than rounding the sum down. -/
theorem sum_div_le (d : ℕ) (terms : List ℕ) : (terms.map (· / d)).sum ≤ terms.sum / d := by
  induction terms with
  | nil => exact Nat.zero_le _
  | cons term terms ih =>
      rw [List.map_cons, List.sum_cons, List.sum_cons]
      have step : term / d + terms.sum / d ≤ (term + terms.sum) / d := Nat.div_add_div_le_add_div
      omega

/-- Every term but the first loses less than one. -/
theorem div_sum_lt (d : ℕ) {terms : List ℕ} (nonempty : terms ≠ []) :
    terms.sum / d < (terms.map (· / d)).sum + terms.length := by
  induction terms with
  | nil => exact absurd rfl nonempty
  | cons term terms ih =>
      rw [List.map_cons, List.sum_cons, List.sum_cons, List.length_cons]
      by_cases last : terms = []
      · rw [last]
        simp
      · have rest := ih last
        have step := Nat.add_div_le_div_add_div_add_one term terms.sum d
        omega

end Accounting
