import Mathlib.Algebra.Order.Group.Basic
import Mathlib.Algebra.Order.Group.Nat
import Mathlib.Data.List.Chain

/-!
# Pacing

Jobs come in one after the other, and between the starts of any two of them an interval has to
pass.  `pace` starts every job as soon as it has come in and the interval since the start before
it is over.

No other way to start the jobs in their order starts any of them earlier (`pace_le`); a window of
`n` intervals has at most `n` starts (`Spaced.countP_window_le`); and a job waits for at most one
interval more than there are jobs still waiting when it comes in (`nextFree_le_backlog`).

Times are those of any ordered group.
-/

namespace Pacing

universe u

variable {Time : Type u} [AddCommGroup Time] [LinearOrder Time]

/-- Between a time and the next one lies the interval. -/
def Spaced (interval : Time) (times : List Time) : Prop :=
  times.IsChain fun a b => a + interval ≤ b

/-- The starts of jobs that come in at these times, if none may start before `free`. -/
def pace (interval : Time) : Time → List Time → List Time
  | _, [] => []
  | free, now :: nows => max now free :: pace interval (max now free + interval) nows

/-- When the next job may start. -/
def nextFree (interval : Time) : Time → List Time → Time
  | free, [] => free
  | free, now :: nows => nextFree interval (max now free + interval) nows

variable {interval free : Time} {nows times : List Time}

/-- One more job. -/
theorem pace_concat (now : Time) :
    ∀ free : Time, pace interval free (nows ++ [now])
      = pace interval free nows ++ [max now (nextFree interval free nows)] := by
  induction nows with
  | nil => intro free; rfl
  | cons first nows ih =>
      intro free
      exact congrArg (List.cons _) (ih _)

theorem nextFree_concat (now : Time) :
    ∀ free : Time, nextFree interval free (nows ++ [now])
      = max now (nextFree interval free nows) + interval := by
  induction nows with
  | nil => intro free; rfl
  | cons first nows ih => exact fun free => ih _

/-- No job starts before it has come in. -/
theorem le_pace : ∀ free : Time, List.Forall₂ (· ≤ ·) nows (pace interval free nows) := by
  induction nows with
  | nil => exact fun _ => .nil
  | cons now nows ih => exact fun free => .cons (le_max_left _ _) (ih _)

theorem le_head_pace : ∀ start ∈ (pace interval free nows).head?, free ≤ start := by
  cases nows with
  | nil => exact fun _ mem => by cases mem
  | cons now nows =>
      rintro _ ⟨⟩
      exact le_max_right _ _

theorem spaced_cons {time : Time} :
    Spaced interval (time :: times)
      ↔ (∀ next ∈ times.head?, time + interval ≤ next) ∧ Spaced interval times := by
  cases times with
  | nil => exact iff_of_true (.singleton _) ⟨fun _ mem => (by cases mem), .nil⟩
  | cons next times =>
      refine List.isChain_cons_cons.trans (and_congr_left' ?_)
      exact ⟨fun le _ mem => Option.some.inj mem ▸ le, fun all => all next rfl⟩

theorem spaced_pace : ∀ free : Time, Spaced interval (pace interval free nows) := by
  induction nows with
  | nil => exact fun _ => .nil
  | cons now nows ih => exact fun free => spaced_cons.mpr ⟨le_head_pace, ih _⟩

section Ordered

variable [IsOrderedAddMonoid Time]

/-- **The starts are the earliest that there are** for jobs that keep their order. -/
theorem pace_le (after : List.Forall₂ (· ≤ ·) nows times) :
    ∀ {free : Time}, Spaced interval times → (∀ start ∈ times.head?, free ≤ start) →
      List.Forall₂ (· ≤ ·) (pace interval free nows) times := by
  induction after with
  | nil => exact fun _ _ => .nil
  | @cons now time nows times early _ ih =>
      intro free spaced allowed
      obtain ⟨gap, rest⟩ := spaced_cons.mp spaced
      have first : max now free ≤ time := max_le early (allowed time rfl)
      refine .cons first (ih rest fun next mem => ?_)
      exact (add_le_add_left first interval).trans (gap next mem)

theorem Spaced.le_of_mem (nonneg : 0 ≤ interval) {time : Time}
    (spaced : Spaced interval (time :: times)) : ∀ later ∈ times, time + interval ≤ later := by
  induction times generalizing time with
  | nil => exact fun _ mem => absurd mem List.not_mem_nil
  | cons next times ih =>
      obtain ⟨gap, rest⟩ := spaced_cons.mp spaced
      have le := gap next rfl
      intro later mem
      rcases List.mem_cons.mp mem with rfl | mem
      · exact le
      · exact le.trans ((le_add_of_nonneg_right nonneg).trans (ih rest later mem))

/-- **A window of `n` intervals has at most `n` of the times.** -/
theorem Spaced.countP_window_le (positive : 0 < interval) (spaced : Spaced interval times) :
    ∀ (start : Time) (n : ℕ),
      times.countP (fun time => start ≤ time ∧ time < start + n • interval) ≤ n := by
  induction times with
  | nil => exact fun _ _ => Nat.zero_le _
  | cons time times ih =>
      intro start n
      have rest := (spaced_cons.mp spaced).2
      rw [List.countP_cons]
      by_cases inside : start ≤ time ∧ time < start + n • interval
      · -- what follows lies in the window without its first interval
        obtain ⟨n, rfl⟩ : ∃ m, n = m + 1 := by
          refine Nat.exists_eq_succ_of_ne_zero fun zero => ?_
          rw [zero, zero_nsmul, add_zero] at inside
          exact absurd inside.1 (not_le.mpr inside.2)
        have fewer := ih rest (start + interval) n
        have monotone : times.countP (fun t => start ≤ t ∧ t < start + (n + 1) • interval)
            ≤ times.countP (fun t =>
              start + interval ≤ t ∧ t < start + interval + n • interval) := by
          refine List.countP_mono_left fun later mem within => ?_
          have gap := spaced.le_of_mem positive.le later mem
          obtain ⟨-, upper⟩ := of_decide_eq_true within
          refine decide_eq_true ⟨(add_le_add_left inside.1 interval).trans gap, ?_⟩
          rwa [succ_nsmul', ← add_assoc] at upper
        rw [if_pos (decide_eq_true inside)]
        exact Nat.succ_le_succ (monotone.trans fewer)
      · rw [if_neg (by simpa using inside), add_zero]
        exact ih rest start n

/-- **The backlog**: if `k` intervals were to be waited for before, then with every job that is
still waiting it is one more. -/
theorem nextFree_le_backlog (nonneg : 0 ≤ interval) {now : Time} (before : ∀ a ∈ nows, a ≤ now) :
    ∀ {free : Time} {k : ℕ}, free ≤ now + (k + 1) • interval →
      nextFree interval free nows
        ≤ now + (k + (pace interval free nows).countP (now < ·) + 1) • interval := by
  induction nows with
  | nil => exact fun bound => bound
  | cons a nows ih =>
      intro free k bound
      have rest := fun b mem => before b (List.mem_cons_of_mem _ mem)
      rw [nextFree, pace, List.countP_cons]
      by_cases waits : now < max a free
      · have same : max a free = free :=
          max_eq_right (le_of_not_ge fun le =>
            absurd (before a List.mem_cons_self) (not_le.mpr (max_eq_left le ▸ waits)))
        have next : free + interval ≤ now + (k + 1 + 1) • interval := by
          rw [succ_nsmul _ (k + 1), ← add_assoc]
          exact add_le_add_left bound interval
        rw [same] at waits ⊢
        rw [if_pos (decide_eq_true waits)]
        have later := ih rest next
        rwa [add_right_comm k, add_assoc k] at later
      · rw [if_neg (by simpa using waits), add_zero]
        refine ih rest ((add_le_add_left (not_lt.mp waits) interval).trans ?_)
        exact add_le_add_right (le_self_nsmul nonneg (Nat.succ_ne_zero k)) now

end Ordered

end Pacing
