import Mathlib.Algebra.BigOperators.Group.List.Basic
import Mathlib.Data.Finset.Card
import Mathlib.Data.List.Perm.Basic
import UsdpIndexer.Library.FailingFold

/-!
# Two parts of a whole

Two selections of one list, and what both of them take.  Whatever is added up over the two parts
is the sum over the whole and, once more, over what they share (`sum_map`, `countP`).  Of distinct
values the parts may have more in common than what they share, so that there the whole and the
shared are at most the parts (`Overlap.distinct`).

Selecting, mapping and reading entries keep the relation: it has to be shown of the first
selection only (`overlap_filter`).
-/

universe u v

/-- `left` and `right` make up `whole`, with what is in both of them twice. -/
structure Overlap {α : Type u} (whole shared left right : List α) : Prop where
  perm : (whole ++ shared).Perm (left ++ right)
  left_subset : left ⊆ whole
  right_subset : right ⊆ whole
  shared_left : shared ⊆ left
  shared_right : shared ⊆ right

/-- Numbers of distinct values, of which the parts may have some in common. -/
structure DistinctOverlap (whole shared left right : ℕ) : Prop where
  whole_le : whole + shared ≤ left + right
  left_le : left ≤ whole
  right_le : right ≤ whole

/-- What one of two conditions selects, and what both of them do. -/
theorem overlap_filter {α : Type u} (p q : α → Bool) (l : List α) :
    Overlap (l.filter fun a => p a || q a) (l.filter fun a => p a && q a) (l.filter p)
      (l.filter q) where
  perm := by
    induction l with
    | nil => exact .refl _
    | cons a l ih =>
        have twice : ((l.filter fun a => p a || q a) ++ a :: l.filter fun a => p a && q a).Perm
            (a :: (l.filter p ++ l.filter q)) := List.perm_middle.trans (ih.cons a)
        simp only [List.filter_cons]
        cases p a <;> cases q a
        · exact ih
        · exact (ih.cons a).trans List.perm_middle.symm
        · exact ih.cons a
        · exact (twice.cons a).trans (List.perm_middle.symm.cons a)
  left_subset := (List.monotone_filter_right l fun _ => Bool.or_eq_true_iff.mpr ∘ .inl).subset
  right_subset := (List.monotone_filter_right l fun _ => Bool.or_eq_true_iff.mpr ∘ .inr).subset
  shared_left := (List.monotone_filter_right l fun _ => And.left ∘ Bool.and_eq_true_iff.mp).subset
  shared_right := (List.monotone_filter_right l fun _ => And.right ∘ Bool.and_eq_true_iff.mp).subset

namespace Overlap

variable {α : Type u} {β : Type v} {whole shared left right : List α}

theorem mem_whole_iff (parts : Overlap whole shared left right) {a : α} :
    a ∈ whole ↔ a ∈ left ∨ a ∈ right := by
  constructor
  · intro mem
    exact List.mem_append.mp (parts.perm.subset (List.mem_append_left _ mem))
  · rintro (mem | mem)
    · exact parts.left_subset mem
    · exact parts.right_subset mem

/-! ## What keeps it -/

theorem append_mono {l₁ l₂ m₁ m₂ : List α} (first : l₁ ⊆ m₁) (second : l₂ ⊆ m₂) :
    l₁ ++ l₂ ⊆ m₁ ++ m₂ :=
  List.append_subset.mpr ⟨List.subset_append_of_subset_left _ first,
    List.subset_append_of_subset_right _ second⟩

theorem map (parts : Overlap whole shared left right) (f : α → β) :
    Overlap (whole.map f) (shared.map f) (left.map f) (right.map f) where
  perm := by
    rw [← List.map_append, ← List.map_append]
    exact parts.perm.map f
  left_subset := List.map_subset f parts.left_subset
  right_subset := List.map_subset f parts.right_subset
  shared_left := List.map_subset f parts.shared_left
  shared_right := List.map_subset f parts.shared_right

theorem filterMap (parts : Overlap whole shared left right) (f : α → Option β) :
    Overlap (whole.filterMap f) (shared.filterMap f) (left.filterMap f) (right.filterMap f) where
  perm := by
    rw [← List.filterMap_append, ← List.filterMap_append]
    exact parts.perm.filterMap f
  left_subset := List.filterMap_subset f parts.left_subset
  right_subset := List.filterMap_subset f parts.right_subset
  shared_left := List.filterMap_subset f parts.shared_left
  shared_right := List.filterMap_subset f parts.shared_right

theorem filter (parts : Overlap whole shared left right) (p : α → Bool) :
    Overlap (whole.filter p) (shared.filter p) (left.filter p) (right.filter p) where
  perm := by
    rw [← List.filter_append, ← List.filter_append]
    exact parts.perm.filter p
  left_subset := List.filter_subset p parts.left_subset
  right_subset := List.filter_subset p parts.right_subset
  shared_left := List.filter_subset p parts.shared_left
  shared_right := List.filter_subset p parts.shared_right

theorem append {whole' shared' left' right' : List α} (parts : Overlap whole shared left right)
    (parts' : Overlap whole' shared' left' right') :
    Overlap (whole ++ whole') (shared ++ shared') (left ++ left') (right ++ right') where
  perm := by
    have exchange (a b c d : List α) : ((a ++ b) ++ (c ++ d)).Perm ((a ++ c) ++ (b ++ d)) := by
      simp only [List.append_assoc]
      exact (List.perm_append_comm_assoc b c d).append_left a
    calc ((whole ++ whole') ++ (shared ++ shared')).Perm
          ((whole ++ shared) ++ (whole' ++ shared')) := exchange _ _ _ _
      List.Perm _ ((left ++ right) ++ (left' ++ right')) := parts.perm.append parts'.perm
      List.Perm _ ((left ++ left') ++ (right ++ right')) := exchange _ _ _ _
  left_subset := append_mono parts.left_subset parts'.left_subset
  right_subset := append_mono parts.right_subset parts'.right_subset
  shared_left := append_mono parts.shared_left parts'.shared_left
  shared_right := append_mono parts.shared_right parts'.shared_right

/-- Where both parts can be read, so can the whole. -/
theorem mapM {ε : Type*} {f : α → Except ε β} {lefts rights : List β}
    (parts : Overlap whole shared left right) (leftRun : left.mapM f = .ok lefts)
    (rightRun : right.mapM f = .ok rights) :
    ∃ wholes shareds, whole.mapM f = .ok wholes ∧ shared.mapM f = .ok shareds ∧
      Overlap wholes shareds lefts rights := by
  have leftReads := FailingFold.exists_mapM_eq_ok_iff.mp ⟨lefts, leftRun⟩
  have rightReads := FailingFold.exists_mapM_eq_ok_iff.mp ⟨rights, rightRun⟩
  obtain ⟨wholes, wholeRun⟩ := FailingFold.exists_mapM_eq_ok_iff.mpr fun a mem =>
    (parts.mem_whole_iff.mp mem).elim (leftReads a) (rightReads a)
  obtain ⟨shareds, sharedRun⟩ := FailingFold.exists_mapM_eq_ok_iff.mpr fun a mem =>
    leftReads a (parts.shared_left mem)
  refine ⟨wholes, shareds, wholeRun, sharedRun, ?_⟩
  have read {l : List α} {l' : List β} (run : l.mapM f = .ok l') :
      l.filterMap (fun a => (f a).toOption) = l' := by
    have same := @FailingFold.map_of_mapM_eq_ok _ _ _ _ _ _ _ run some (fun a => (f a).toOption)
      fun a b step => by rw [step]; rfl
    have back := congrArg (List.filterMap id) same
    rwa [List.filterMap_map, List.filterMap_map, Function.id_comp, Function.id_comp,
      List.filterMap_some, eq_comm] at back
  rw [← read wholeRun, ← read sharedRun, ← read leftRun, ← read rightRun]
  exact parts.filterMap _

/-! ## What adds up -/

theorem length (parts : Overlap whole shared left right) :
    whole.length + shared.length = left.length + right.length := by
  rw [← List.length_append, ← List.length_append]
  exact parts.perm.length_eq

theorem countP (parts : Overlap whole shared left right) (p : α → Bool) :
    whole.countP p + shared.countP p = left.countP p + right.countP p := by
  rw [← List.countP_append, ← List.countP_append]
  exact parts.perm.countP_eq p

theorem sum_map {M : Type v} [AddCommMonoid M] (parts : Overlap whole shared left right)
    (f : α → M) :
    (whole.map f).sum + (shared.map f).sum = (left.map f).sum + (right.map f).sum := by
  rw [← List.sum_append, ← List.sum_append]
  exact (parts.map f).perm.sum_eq

theorem length_dedup_mono [DecidableEq α] {part whole : List α} (subset : part ⊆ whole) :
    part.dedup.length ≤ whole.dedup.length := by
  rw [← List.card_toFinset, ← List.card_toFinset]
  refine Finset.card_le_card fun a mem => ?_
  rw [List.mem_toFinset] at mem ⊢
  exact subset mem

theorem distinct [DecidableEq α] (parts : Overlap whole shared left right) :
    DistinctOverlap whole.dedup.length shared.dedup.length left.dedup.length
      right.dedup.length where
  whole_le := by
    simp only [← List.card_toFinset]
    have union : whole.toFinset = left.toFinset ∪ right.toFinset := by
      ext a
      rw [Finset.mem_union, List.mem_toFinset, List.mem_toFinset, List.mem_toFinset]
      exact parts.mem_whole_iff
    have inter : shared.toFinset ⊆ left.toFinset ∩ right.toFinset := by
      intro a mem
      rw [List.mem_toFinset] at mem
      exact Finset.mem_inter.mpr ⟨List.mem_toFinset.mpr (parts.shared_left mem),
        List.mem_toFinset.mpr (parts.shared_right mem)⟩
    calc whole.toFinset.card + shared.toFinset.card
        ≤ (left.toFinset ∪ right.toFinset).card + (left.toFinset ∩ right.toFinset).card :=
          Nat.add_le_add (union ▸ le_rfl) (Finset.card_le_card inter)
      _ = left.toFinset.card + right.toFinset.card := Finset.card_union_add_card_inter _ _
  left_le := length_dedup_mono parts.left_subset
  right_le := length_dedup_mono parts.right_subset

end Overlap
