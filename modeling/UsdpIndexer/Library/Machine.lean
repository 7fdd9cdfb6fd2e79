import Mathlib.Data.List.Basic

/-!
# Step functions that emit events

A machine is a function `step` that takes an input and a state to the next
state and the events that become visible on the way.  `run` feeds it a whole
schedule.  The induction over a schedule is done here, once: `run_invariant`
carries a property of the state *together with everything emitted so far*, so a
safety theorem about a machine is a property of one step.

What the environment promises is a condition on each input in the state that it
meets: `Along` is the promise for a whole schedule, and `run_invariant_along` the
invariant rule under it; `run_iff_along` is for a promise that is needed as well.

A machine that pays out of a budget for what it emits emits no more than the budget
(`run_emits_le`), and one that pays for every step uses its budget up
(`run_budget_eq_zero`).
-/

namespace Machine

universe u v w

variable {Input : Type u} {State : Type v} {Event : Type w}

/-- Feed a schedule to the machine and collect what it emits. -/
def run (step : Input → State → State × List Event) : List Input → State → State × List Event
  | [], s => (s, [])
  | input :: schedule, s =>
      let first := step input s
      let rest := run step schedule first.1
      (rest.1, first.2 ++ rest.2)

variable {step : Input → State → State × List Event}

@[simp] theorem run_nil (s : State) : run step [] s = (s, []) := rfl

theorem run_cons (input : Input) (schedule : List Input) (s : State) :
    run step (input :: schedule) s
      = ((run step schedule (step input s).1).1,
          (step input s).2 ++ (run step schedule (step input s).1).2) := rfl

theorem run_append (schedule schedule' : List Input) :
    ∀ s : State, run step (schedule ++ schedule') s
      = ((run step schedule' (run step schedule s).1).1,
          (run step schedule s).2 ++ (run step schedule' (run step schedule s).1).2) := by
  induction schedule with
  | nil => intro s; rfl
  | cons input schedule ih =>
      intro s
      rw [List.cons_append, run_cons, ih, run_cons]
      simp only [List.append_assoc]

/-- One more input: its step is taken from where the schedule ended. -/
theorem run_concat (schedule : List Input) (input : Input) (s : State) :
    run step (schedule ++ [input]) s
      = ((step input (run step schedule s).1).1,
          (run step schedule s).2 ++ (step input (run step schedule s).1).2) := by
  rw [run_append, run_cons, run_nil, List.append_nil]

/-- What every step preserves is carried from any point of a run to any later one. -/
theorem run_invariant_from (P : State → List Event → Prop)
    (preserved : ∀ input s trace, P s trace →
      P (step input s).1 (trace ++ (step input s).2)) :
    ∀ (schedule : List Input) {s : State} {trace : List Event}, P s trace →
      P (run step schedule s).1 (trace ++ (run step schedule s).2) := by
  intro schedule
  induction schedule with
  | nil => intro s trace start; simpa using start
  | cons input schedule ih =>
      intro s trace start
      have := ih (preserved input s trace start)
      rwa [List.append_assoc] at this

/-- **What every step preserves holds along every run**, of the state and of
all the events emitted so far. -/
theorem run_invariant (P : State → List Event → Prop)
    (preserved : ∀ input s trace, P s trace →
      P (step input s).1 (trace ++ (step input s).2))
    (schedule : List Input) {s : State} (start : P s []) :
    P (run step schedule s).1 (run step schedule s).2 := by
  simpa using run_invariant_from P preserved schedule start

/-- Every input of the schedule is allowed in the state that it meets. -/
def Along (step : Input → State → State × List Event) (Allowed : Input → State → Prop) :
    List Input → State → Prop
  | [], _ => True
  | input :: schedule, s => Allowed input s ∧ Along step Allowed schedule (step input s).1

instance Along.decidable {Allowed : Input → State → Prop}
    [∀ input s, Decidable (Allowed input s)] :
    (schedule : List Input) → (s : State) → Decidable (Along step Allowed schedule s)
  | [], _ => isTrue trivial
  | input :: schedule, s =>
      have : Decidable (Along step Allowed schedule (step input s).1) :=
        Along.decidable schedule (step input s).1
      inferInstanceAs (Decidable (Allowed input s ∧ _))

@[simp] theorem along_nil (Allowed : Input → State → Prop) (s : State) :
    Along step Allowed [] s := trivial

@[simp] theorem along_cons (Allowed : Input → State → Prop) (input : Input)
    (schedule : List Input) (s : State) :
    Along step Allowed (input :: schedule) s
      ↔ Allowed input s ∧ Along step Allowed schedule (step input s).1 := Iff.rfl

theorem along_append {Allowed : Input → State → Prop} (schedule schedule' : List Input) :
    ∀ s : State, Along step Allowed (schedule ++ schedule') s
      ↔ Along step Allowed schedule s ∧ Along step Allowed schedule' (run step schedule s).1 := by
  induction schedule with
  | nil => intro s; simp
  | cons input schedule ih =>
      intro s
      rw [List.cons_append, along_cons, ih, along_cons, run_cons, and_assoc]

/-- A condition on single inputs holds along every schedule of such inputs. -/
theorem along_of_forall {Admissible : Input → Prop} :
    ∀ {schedule : List Input} {s : State}, (∀ input ∈ schedule, Admissible input) →
      Along step (fun input _ => Admissible input) schedule s := by
  intro schedule
  induction schedule with
  | nil => intro s _; exact trivial
  | cons input schedule ih =>
      intro s admissible
      exact ⟨admissible input List.mem_cons_self,
        ih fun i mem => admissible i (List.mem_cons_of_mem _ mem)⟩

/-- Inputs that are allowed in every state. -/
theorem along_of_forall_inputs {Allowed : Input → State → Prop} {schedule : List Input} {s : State}
    (allowed : ∀ input ∈ schedule, ∀ s, Allowed input s) : Along step Allowed schedule s := by
  induction schedule generalizing s with
  | nil => exact trivial
  | cons input schedule ih =>
      exact ⟨allowed input List.mem_cons_self s,
        ih fun i mem => allowed i (List.mem_cons_of_mem _ mem)⟩

theorem Along.and {Allowed Allowed' : Input → State → Prop} :
    ∀ {schedule : List Input} {s : State}, Along step Allowed schedule s →
      Along step Allowed' schedule s →
        Along step (fun input s => Allowed input s ∧ Allowed' input s) schedule s := by
  intro schedule
  induction schedule with
  | nil => intro s _ _; exact trivial
  | cons input schedule ih =>
      rintro s ⟨allowed, rest⟩ ⟨allowed', rest'⟩
      exact ⟨⟨allowed, allowed'⟩, ih rest rest'⟩

/-- The invariant rule for schedules of allowed inputs, from any point of a run. -/
theorem run_invariant_along_from {Allowed : Input → State → Prop}
    (P : State → List Event → Prop)
    (preserved : ∀ input s trace, Allowed input s → P s trace →
      P (step input s).1 (trace ++ (step input s).2)) :
    ∀ (schedule : List Input) {s : State} {trace : List Event},
      Along step Allowed schedule s → P s trace →
        P (run step schedule s).1 (trace ++ (run step schedule s).2) := by
  intro schedule
  induction schedule with
  | nil => intro s trace _ start; simpa using start
  | cons input schedule ih =>
      rintro s trace ⟨allowed, rest⟩ start
      have := ih rest (preserved input s trace allowed start)
      rwa [List.append_assoc] at this

/-- **The invariant rule under a promise of the environment**, which may depend on the
state an input meets. -/
theorem run_invariant_along {Allowed : Input → State → Prop} (P : State → List Event → Prop)
    (preserved : ∀ input s trace, Allowed input s → P s trace →
      P (step input s).1 (trace ++ (step input s).2))
    (schedule : List Input) {s : State} (promised : Along step Allowed schedule s)
    (start : P s []) : P (run step schedule s).1 (run step schedule s).2 := by
  simpa using run_invariant_along_from P preserved schedule promised start

/-- Where each step keeps a property exactly if its input is allowed, a run keeps it exactly
if every input is allowed along the way.  `Inv` is what the steps may rely on. -/
theorem run_iff_along {Inv P : State → Prop} {Allowed : Input → State → Prop}
    (kept : ∀ input s, Inv s → Inv (step input s).1)
    (decides : ∀ input s, Inv s → (P (step input s).1 ↔ P s ∧ Allowed input s)) :
    ∀ (schedule : List Input) {s : State}, Inv s →
      (P (run step schedule s).1 ↔ P s ∧ Along step Allowed schedule s) := by
  intro schedule
  induction schedule with
  | nil => intro s _; simp
  | cons input schedule ih =>
      intro s start
      show P (run step schedule (step input s).1).1 ↔ _
      rw [ih (kept input s start), decides input s start, along_cons, and_assoc]

/-! ## Budgets -/

/-- **Where every event is paid for**, a run emits no more than the budget. -/
theorem run_emits_le (budget : State → ℕ)
    (pays : ∀ input s, (step input s).2.length + budget (step input s).1 ≤ budget s) :
    ∀ (schedule : List Input) (s : State), (run step schedule s).2.length ≤ budget s := by
  intro schedule
  induction schedule with
  | nil => intro s; exact Nat.zero_le _
  | cons input schedule ih =>
      intro s
      rw [run_cons, List.length_append]
      have first := pays input s
      have rest := ih (step input s).1
      omega

/-- **Where every step costs something**, a run uses the budget up. -/
theorem run_budget_eq_zero (budget : State → ℕ)
    (pays : ∀ input s, budget (step input s).1 ≤ budget s - 1) :
    ∀ (schedule : List Input) (s : State), budget s ≤ schedule.length →
      budget (run step schedule s).1 = 0 := by
  intro schedule
  induction schedule with
  | nil =>
      intro s enough
      exact Nat.le_zero.mp enough
  | cons input schedule ih =>
      intro s enough
      rw [List.length_cons] at enough
      have first := pays input s
      exact ih (step input s).1 (by omega)

end Machine
