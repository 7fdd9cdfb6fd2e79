import Mathlib.Data.List.Sort
import Mathlib.Data.Prod.Lex

/-!
# Sorting with a comparator

`sortBy compare` is a stable sort driven by a signed comparator, the way many
library sorts are called: `compare a b ≤ 0` lets `a` stay in front of `b`.  A
comparator says something only through the key it orders by, so every law is
stated for a comparator with `OrdersBy compare key`: the result is a
permutation, it is sorted by the key, an already sorted list is returned as it
is, and where the key separates the elements the result does not depend on the
order of the input.

`lexCompare` is the two-key comparator `first || second`: the second difference
decides only where the first one is zero.
-/

namespace StableOrder

universe u v

variable {α : Type u} {κ : Type v}

/-- Stable sort by a signed comparator. -/
def sortBy (compare : α → α → ℤ) (l : List α) : List α :=
  l.insertionSort fun a b => compare a b ≤ 0

/-- The comparator orders by `key`. -/
def OrdersBy [LE κ] (compare : α → α → ℤ) (key : α → κ) : Prop :=
  ∀ a b, compare a b ≤ 0 ↔ key a ≤ key b

theorem perm_sortBy (compare : α → α → ℤ) (l : List α) : (sortBy compare l).Perm l :=
  List.perm_insertionSort _ l

@[simp] theorem mem_sortBy {compare : α → α → ℤ} {l : List α} {a : α} :
    a ∈ sortBy compare l ↔ a ∈ l :=
  (perm_sortBy compare l).mem_iff

/-- The sort commutes with a change that the comparator does not see. -/
theorem sortBy_map {compare : α → α → ℤ} {f : α → α}
    (unseen : ∀ a b, compare (f a) (f b) = compare a b) (l : List α) :
    sortBy compare (l.map f) = (sortBy compare l).map f := by
  refine (List.map_insertionSort _ _ f l fun a _ b _ => ?_).symm
  rw [unseen]

/-- Sorting by what is behind the elements sorts what is behind them. -/
theorem map_sortBy {β : Type v} (f : α → β) (compare : β → β → ℤ) (l : List α) :
    (sortBy (fun a b => compare (f a) (f b)) l).map f = sortBy compare (l.map f) :=
  List.map_insertionSort _ _ f l fun _ _ _ _ => Iff.rfl

/-- A list the comparator finds in order is left alone. -/
theorem sortBy_eq_self {compare : α → α → ℤ} {l : List α}
    (sorted : l.Pairwise fun a b => compare a b ≤ 0) : sortBy compare l = l :=
  sorted.insertionSort_eq

section Key

variable [LinearOrder κ] {compare : α → α → ℤ} {key : α → κ}

theorem pairwise_sortBy (orders : OrdersBy compare key) (l : List α) :
    (sortBy compare l).Pairwise fun a b => key a ≤ key b := by
  have total : Std.Total fun a b => compare a b ≤ 0 :=
    ⟨fun a b => by rw [orders, orders]; exact le_total _ _⟩
  have trans : IsTrans α fun a b => compare a b ≤ 0 :=
    ⟨fun a b c hab hbc => by rw [orders] at *; exact le_trans hab hbc⟩
  exact (List.pairwise_insertionSort (fun a b => compare a b ≤ 0) l).imp
    fun h => (orders _ _).mp h

/-- Whatever comes out in front of an element has no larger key. -/
theorem le_of_mem_front (orders : OrdersBy compare key) {l front back : List α} {a b : α}
    (split : sortBy compare l = front ++ a :: back) (mem : b ∈ front) : key b ≤ key a := by
  have sorted := pairwise_sortBy orders l
  rw [split, List.pairwise_append] at sorted
  exact sorted.2.2 b mem a List.mem_cons_self

/-- **Where the key separates the elements, the input order is lost.** -/
theorem sortBy_eq_of_perm (orders : OrdersBy compare key) {l l' : List α}
    (perm : l.Perm l') (separates : ∀ a ∈ l, ∀ b ∈ l, key a = key b → a = b) :
    sortBy compare l = sortBy compare l' := by
  have same : (sortBy compare l).Perm (sortBy compare l') :=
    (perm_sortBy compare l).trans (perm.trans (perm_sortBy compare l').symm)
  have antisymm : ∀ a b, a ∈ sortBy compare l → b ∈ sortBy compare l' →
      key a ≤ key b → key b ≤ key a → a = b := by
    intro a b ha hb hab hba
    exact separates a (mem_sortBy.mp ha) b
      (perm.mem_iff.mpr (mem_sortBy.mp hb)) (le_antisymm hab hba)
  exact same.eq_of_pairwise antisymm (pairwise_sortBy orders l) (pairwise_sortBy orders l')

end Key

/-! ## Two keys -/

/-- The comparator `first || second`. -/
def lexCompare (first second : α → ℤ) (a b : α) : ℤ :=
  if first a - first b ≠ 0 then first a - first b else second a - second b

theorem lexCompare_nonpos_iff (first second : α → ℤ) (a b : α) :
    lexCompare first second a b ≤ 0
      ↔ first a < first b ∨ (first a = first b ∧ second a ≤ second b) := by
  unfold lexCompare
  split <;> omega

theorem ordersBy_lexCompare (first second : α → ℤ) :
    OrdersBy (lexCompare first second) fun a => toLex (first a, second a) := by
  intro a b
  rw [lexCompare_nonpos_iff, Prod.Lex.toLex_le_toLex]

/-- The two-key comparator with its arguments exchanged: both keys descend. -/
theorem ordersBy_lexCompare_desc (first second : α → ℤ) :
    OrdersBy (fun a b => lexCompare first second b a)
      fun a => toLex (-first a, -second a) := by
  intro a b
  rw [lexCompare_nonpos_iff, Prod.Lex.toLex_le_toLex]
  show _ ↔ -first a < -first b ∨ (-first a = -first b ∧ -second a ≤ -second b)
  omega

/-- One key that descends. -/
theorem ordersBy_desc (key : α → ℤ) : OrdersBy (fun a b => key b - key a) fun a => -key a := by
  intro a b
  show key b - key a ≤ 0 ↔ -key a ≤ -key b
  omega

/-- A list in order for both keys is left alone by the two-key sort. -/
theorem sortBy_lexCompare_eq_self {first second : α → ℤ} {l : List α}
    (sorted : l.Pairwise fun a b =>
      first a < first b ∨ (first a = first b ∧ second a ≤ second b)) :
    sortBy (lexCompare first second) l = l :=
  sortBy_eq_self (sorted.imp fun h => (lexCompare_nonpos_iff first second _ _).mpr h)

/-! ## Lists in order -/

/-- A list in which nothing that passes comes after something that does not is cut in
two by filtering. -/
theorem filter_append_filter_not {l : List α} {p : α → Bool}
    (closed : l.Pairwise fun a b => p b → p a) :
    l.filter p ++ l.filter (fun a => !p a) = l := by
  induction l with
  | nil => rfl
  | cons a l ih =>
      rw [List.pairwise_cons] at closed
      by_cases passes : p a
      · rw [List.filter_cons_of_pos passes, List.filter_cons_of_neg (by simpa using passes),
          List.cons_append, ih closed.2]
      · -- then nothing behind it passes
        have nothing : l.filter p = [] :=
          List.filter_eq_nil_iff.mpr fun b mem later => passes (closed.1 b mem later)
        have rest := ih closed.2
        rw [nothing, List.nil_append] at rest
        rw [List.filter_cons_of_neg (by simpa using passes), nothing, List.nil_append,
          List.filter_cons_of_pos (by simpa using passes), rest]

/-- A list whose elements are not pairwise related has two that show it. -/
theorem exists_split_of_not_pairwise {R : α → α → Prop} :
    ∀ {l : List α}, ¬ l.Pairwise R →
      ∃ front a middle b back, l = front ++ a :: middle ++ b :: back ∧ ¬ R a b := by
  intro l
  induction l with
  | nil => intro unrelated; exact absurd List.Pairwise.nil unrelated
  | cons a l ih =>
      intro unrelated
      by_cases head : ∀ b ∈ l, R a b
      · -- the first element is related to all the others, so two of these are not
        have tail : ¬ l.Pairwise R := fun related => unrelated (.cons head related)
        obtain ⟨front, c, middle, b, back, rfl, shows⟩ := ih tail
        exact ⟨a :: front, c, middle, b, back, rfl, shows⟩
      · push Not at head
        obtain ⟨b, mem, shows⟩ := head
        obtain ⟨middle, back, rfl⟩ := List.append_of_mem mem
        exact ⟨[], a, middle, b, back, rfl, shows⟩

end StableOrder
