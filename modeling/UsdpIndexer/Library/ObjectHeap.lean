import Mathlib.Data.List.Basic

/-!
# Objects by reference

A heap of objects of one kind, for languages in which a list holds references
and two lists can hold the same object.  A reference is allocated when it is
below `next`; `alloc` gives out the next one.

* `Agrees base heap heap'` — what was allocated below `base` reads the same in
  both heaps.  This is the frame of a function that touches only objects it has
  made itself.
* `readAll heap refs` — the values behind a list of references.
-/

namespace ObjectHeap

universe u

/-- A reference to an object. -/
abbrev Ref := ℕ

/-- The objects of one kind. -/
structure Heap (α : Type u) where
  cell : Ref → α
  next : Ref

variable {α : Type u}

namespace Heap

/-- What is stored under a reference. -/
def read (heap : Heap α) (ref : Ref) : α := heap.cell ref

/-- A new object. -/
def alloc (heap : Heap α) (value : α) : Heap α :=
  { cell := Function.update heap.cell heap.next value, next := heap.next + 1 }

/-- A new value for an object that is there. -/
def write (heap : Heap α) (ref : Ref) (value : α) : Heap α :=
  { heap with cell := Function.update heap.cell ref value }

@[simp] theorem next_alloc (heap : Heap α) (value : α) :
    (heap.alloc value).next = heap.next + 1 := rfl

@[simp] theorem next_write (heap : Heap α) (ref : Ref) (value : α) :
    (heap.write ref value).next = heap.next := rfl

@[simp] theorem read_alloc_self (heap : Heap α) (value : α) :
    (heap.alloc value).read heap.next = value :=
  Function.update_self _ _ _

theorem read_alloc_of_ne {heap : Heap α} {ref : Ref} (other : ref ≠ heap.next) (value : α) :
    (heap.alloc value).read ref = heap.read ref :=
  Function.update_of_ne other _ _

@[simp] theorem read_write_self (heap : Heap α) (ref : Ref) (value : α) :
    (heap.write ref value).read ref = value :=
  Function.update_self _ _ _

theorem read_write_of_ne {heap : Heap α} {ref ref' : Ref} (other : ref' ≠ ref) (value : α) :
    (heap.write ref value).read ref' = heap.read ref' :=
  Function.update_of_ne other _ _

/-! ### Many references -/

/-- The values behind a list of references. -/
def readAll (heap : Heap α) (refs : List Ref) : List α := refs.map heap.read

@[simp] theorem readAll_nil (heap : Heap α) : heap.readAll [] = [] := rfl

@[simp] theorem readAll_cons (heap : Heap α) (ref : Ref) (refs : List Ref) :
    heap.readAll (ref :: refs) = heap.read ref :: heap.readAll refs := rfl

/-- A new object changes nothing for references that were given out before. -/
theorem readAll_alloc {heap : Heap α} {refs : List Ref}
    (allocated : ∀ ref ∈ refs, ref < heap.next) (value : α) :
    (heap.alloc value).readAll refs = heap.readAll refs :=
  List.map_congr_left fun ref mem => read_alloc_of_ne (Nat.ne_of_lt (allocated ref mem)) value

/-- A write changes nothing for references to other objects. -/
theorem readAll_write {heap : Heap α} {ref : Ref} {refs : List Ref}
    (other : ref ∉ refs) (value : α) :
    (heap.write ref value).readAll refs = heap.readAll refs := by
  refine List.map_congr_left fun ref' mem => read_write_of_ne ?_ value
  rintro rfl
  exact other mem

end Heap

/-! ### Frames -/

/-- What was allocated below `base` is unchanged. -/
def Agrees (base : Ref) (heap heap' : Heap α) : Prop :=
  ∀ ref < base, heap'.read ref = heap.read ref

theorem Agrees.refl (base : Ref) (heap : Heap α) : Agrees base heap heap := fun _ _ => rfl

theorem Agrees.trans {base : Ref} {heap heap' heap'' : Heap α} (first : Agrees base heap heap')
    (second : Agrees base heap' heap'') : Agrees base heap heap'' :=
  fun ref below => (second ref below).trans (first ref below)

theorem agrees_alloc {base : Ref} {heap : Heap α} (given : base ≤ heap.next) (value : α) :
    Agrees base heap (heap.alloc value) :=
  fun _ below => Heap.read_alloc_of_ne (Nat.ne_of_lt (Nat.lt_of_lt_of_le below given)) value

theorem agrees_write {base ref : Ref} (own : base ≤ ref) (heap : Heap α) (value : α) :
    Agrees base heap (heap.write ref value) :=
  fun _ below => Heap.read_write_of_ne (Nat.ne_of_lt (Nat.lt_of_lt_of_le below own)) value

theorem Agrees.readAll {base : Ref} {heap heap' : Heap α} (agrees : Agrees base heap heap')
    {refs : List Ref} (below : ∀ ref ∈ refs, ref < base) :
    heap'.readAll refs = heap.readAll refs :=
  List.map_congr_left fun ref mem => agrees ref (below ref mem)

end ObjectHeap
