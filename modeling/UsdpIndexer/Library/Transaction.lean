import Mathlib.Data.List.Basic

/-!
# Transactions with program memory

A program that runs statements inside a database transaction changes two
things of different character: the database, which a rollback restores, and its
own variables, which a rollback does not.  `Transaction D M E A` keeps them
apart — an exception carries the memory out and drops the database — so that
`exec` can say what a client observes: on success both changes, on failure the
old database with the new memory.

`bind_eq_ok` is the one inversion a proof about a committed transaction needs:
it peels the statements off one after the other.

`Ends` is the rule of pre- and postconditions, with a condition on the failures: it goes
through sequences (`Ends.bind`) and loops (`Ends.forM`).

What a transaction leaves in the memory it leaves there whether it commits or not;
`KeepsMemory` says that it is nothing, and `exec_memory_bind` cuts a transaction in two.
-/

universe u v w x

/-- A program over a database `D` and a memory `M` that returns an `A` or fails
with an `E`; a failure remembers the memory only. -/
def Transaction (D : Type u) (M : Type v) (E : Type w) (A : Type x) :=
  D → M → Except (E × M) (A × D × M)

namespace Transaction

variable {D : Type u} {M : Type v} {E : Type w} {A B : Type x}

protected def pure (a : A) : Transaction D M E A := fun d m => .ok (a, d, m)

protected def bind (t : Transaction D M E A) (f : A → Transaction D M E B) :
    Transaction D M E B := fun d m =>
  match t d m with
  | .ok (a, d', m') => f a d' m'
  | .error e => .error e

instance : Monad (Transaction D M E) where
  pure := Transaction.pure
  bind := Transaction.bind

/-- Give up: the exception that makes the client roll back. -/
def fail (e : E) : Transaction D M E A := fun _ m => .error (e, m)

/-- One statement of the database. -/
def statement (run : D → Except E (A × D)) : Transaction D M E A := fun d m =>
  match run d with
  | .ok (a, d') => .ok (a, d', m)
  | .error e => .error (e, m)

/-- A computation of the client that touches neither. -/
def compute (result : Except E A) : Transaction D M E A := fun d m =>
  match result with
  | .ok a => .ok (a, d, m)
  | .error e => .error (e, m)

/-- An assignment to the client's variables. -/
def assign (update : M → M) : Transaction D M E PUnit := fun d m => .ok (⟨⟩, d, update m)

/-- What the client sees of a transaction that was begun, run, and committed
or rolled back. -/
structure Outcome (D : Type u) (M : Type v) (E : Type w) (A : Type x) where
  database : D
  memory : M
  result : Except E A

/-- Run a transaction and commit it, or roll it back where it failed. -/
def exec (t : Transaction D M E A) (d : D) (m : M) : Outcome D M E A :=
  match t d m with
  | .ok (a, d', m') => ⟨d', m', .ok a⟩
  | .error (e, m') => ⟨d, m', .error e⟩

/-! ## Inversion -/

theorem bind_eq_ok {t : Transaction D M E A} {f : A → Transaction D M E B}
    {d d'' : D} {m m'' : M} {b : B} :
    (t >>= f) d m = .ok (b, d'', m'')
      ↔ ∃ a d' m', t d m = .ok (a, d', m') ∧ f a d' m' = .ok (b, d'', m'') := by
  show Transaction.bind t f d m = _ ↔ _
  cases run : t d m with
  | error e => simp [Transaction.bind, run]
  | ok p =>
      obtain ⟨a, d', m'⟩ := p
      simp only [Transaction.bind, run, Except.ok.injEq, Prod.mk.injEq]
      constructor
      · intro h; exact ⟨a, d', m', ⟨rfl, rfl, rfl⟩, h⟩
      · rintro ⟨a', d₁, m₁, ⟨rfl, rfl, rfl⟩, h⟩; exact h

theorem pure_eq_ok {a b : A} {d d' : D} {m m' : M} :
    (pure a : Transaction D M E A) d m = .ok (b, d', m') ↔ b = a ∧ d' = d ∧ m' = m := by
  show Except.ok (a, d, m) = _ ↔ _
  simp [eq_comm]

theorem statement_eq_ok {run : D → Except E (A × D)} {d d' : D} {m m' : M} {a : A} :
    (statement run : Transaction D M E A) d m = .ok (a, d', m')
      ↔ run d = .ok (a, d') ∧ m' = m := by
  unfold statement
  cases h : run d with
  | error e => simp
  | ok p => obtain ⟨a₁, d₁⟩ := p; simp [and_assoc, eq_comm]

/-- Peel off a statement. -/
theorem statement_bind_eq_ok {run : D → Except E (A × D)} {f : A → Transaction D M E B}
    {d d'' : D} {m m'' : M} {b : B} :
    (statement run >>= f) d m = .ok (b, d'', m'')
      ↔ ∃ a d', run d = .ok (a, d') ∧ f a d' m = .ok (b, d'', m'') := by
  rw [bind_eq_ok]
  constructor
  · rintro ⟨a, d', m', first, rest⟩
    rw [statement_eq_ok] at first
    obtain ⟨first, rfl⟩ := first
    exact ⟨a, d', first, rest⟩
  · rintro ⟨a, d', first, rest⟩
    exact ⟨a, d', m, statement_eq_ok.mpr ⟨first, rfl⟩, rest⟩

/-- Peel off a computation of the client. -/
theorem compute_bind_eq_ok {result : Except E A} {f : A → Transaction D M E B}
    {d d'' : D} {m m'' : M} {b : B} :
    (compute result >>= f) d m = .ok (b, d'', m'')
      ↔ ∃ a, result = .ok a ∧ f a d m = .ok (b, d'', m'') := by
  cases result with
  | error e =>
      constructor
      · intro run; cases run
      · rintro ⟨a, fails, -⟩; cases fails
  | ok a =>
      constructor
      · intro run; exact ⟨a, rfl, run⟩
      · rintro ⟨a', same, run⟩; cases same; exact run

/-- An assignment only changes the memory of what follows. -/
@[simp] theorem assign_bind {update : M → M} {f : PUnit → Transaction D M E B} {d : D} {m : M} :
    (assign update >>= f) d m = f ⟨⟩ d (update m) := rfl

/-- A committed transaction is one that ran through. -/
theorem exec_result_ok {t : Transaction D M E A} {d : D} {m : M} {a : A}
    (committed : (t.exec d m).result = .ok a) :
    t d m = .ok (a, (t.exec d m).database, (t.exec d m).memory) := by
  unfold exec at committed ⊢
  cases run : t d m with
  | error e => simp [run] at committed
  | ok p =>
      obtain ⟨a', d', m'⟩ := p
      simp only [run, Except.ok.injEq] at committed
      rw [committed]

/-- **Rollback.**  A failed transaction leaves the database as it was. -/
theorem exec_database_of_error {t : Transaction D M E A} {d : D} {m : M} {e : E}
    (failed : (t.exec d m).result = .error e) : (t.exec d m).database = d := by
  unfold exec at failed ⊢
  cases run : t d m with
  | error e' => rfl
  | ok p => simp [run] at failed

/-- A transaction that ran through has committed. -/
theorem exec_of_eq_ok {t : Transaction D M E A} {d d' : D} {m m' : M} {a : A}
    (run : t d m = .ok (a, d', m')) : t.exec d m = ⟨d', m', .ok a⟩ := by
  rw [exec, run]

theorem exec_result_ok_iff {t : Transaction D M E A} {d : D} {m : M} {a : A} :
    (t.exec d m).result = .ok a ↔ ∃ d' m', t d m = .ok (a, d', m') := by
  constructor
  · intro committed
    exact ⟨_, _, exec_result_ok committed⟩
  · rintro ⟨d', m', run⟩
    rw [exec_of_eq_ok run]

/-! ## Sequences -/

instance : LawfulMonad (Transaction D M E) := LawfulMonad.mk' (Transaction D M E)
  (fun t => by
    funext d m
    show Transaction.bind t _ d m = t d m
    unfold Transaction.bind
    split
    · rename_i run
      exact run.symm
    · rename_i run
      exact run.symm)
  (fun _ _ => rfl)
  (fun t f g => by
    funext d m
    show Transaction.bind (Transaction.bind t f) g d m
      = Transaction.bind t (fun a => Transaction.bind (f a) g) d m
    unfold Transaction.bind
    cases t d m with
    | error e => rfl
    | ok p => rfl)

/-! ## Conditions -/

/-- From a database with `P` the transaction ends in one with `Q`, or fails with `R`. -/
def Ends (P : D → Prop) (t : Transaction D M E A) (Q : A → D → Prop) (R : E → Prop) : Prop :=
  ∀ d m, P d → match t d m with
    | .ok (a, d', _) => Q a d'
    | .error (e, _) => R e

variable {P : D → Prop} {Q : A → D → Prop} {R : E → Prop}

theorem Ends.pure (a : A) (holds : ∀ d, P d → Q a d) :
    Ends P (Pure.pure a : Transaction D M E A) Q R := fun d _ start => holds d start

theorem Ends.of_imp {t : Transaction D M E A} {P' : D → Prop} (ends : Ends P t Q R)
    (stronger : ∀ d, P' d → P d) : Ends P' t Q R := fun d m start => ends d m (stronger d start)

theorem Ends.bind {t : Transaction D M E A} {f : A → Transaction D M E B} {Q' : B → D → Prop}
    (first : Ends P t Q R) (rest : ∀ a, Ends (Q a) (f a) Q' R) : Ends P (t >>= f) Q' R := by
  intro d m start
  have after := first d m start
  show match Transaction.bind t f d m with
    | .ok (b, d', _) => Q' b d'
    | .error (e, _) => R e
  unfold Transaction.bind
  cases run : t d m with
  | error e =>
      rw [run] at after
      exact after
  | ok p =>
      obtain ⟨a, d', m'⟩ := p
      rw [run] at after
      exact rest a d' m' after

/-- A loop: what holds of the elements that are done. -/
theorem Ends.forM {β : Type*} {f : β → Transaction D M E PUnit} (I : List β → D → Prop)
    {l : List β} (step : ∀ front b back, l = front ++ b :: back →
      Ends (I front) (f b) (fun _ => I (front ++ [b])) R) :
    Ends (I []) (l.forM f) (fun _ => I l) R := by
  suffices rest : ∀ back front : List β, l = front ++ back →
      Ends (I front) (back.forM f) (fun _ => I l) R from rest l [] rfl
  intro back
  induction back with
  | nil =>
      intro front split
      rw [split, List.append_nil]
      exact Ends.pure _ fun _ holds => holds
  | cons b back ih =>
      intro front split
      exact (step front b back split).bind fun _ => ih (front ++ [b]) (by simpa using split)

/-- What a client observes of a transaction that is committed or rolled back. -/
theorem Ends.exec {t : Transaction D M E A} (ends : Ends P t Q R) {d : D} (start : P d) (m : M) :
    (∃ a, (t.exec d m).result = .ok a ∧ Q a (t.exec d m).database) ∨
      ∃ e, (t.exec d m).result = .error e ∧ R e ∧ (t.exec d m).database = d := by
  have after := ends d m start
  unfold Transaction.exec
  cases run : t d m with
  | error e =>
      rw [run] at after
      exact .inr ⟨_, rfl, after, rfl⟩
  | ok p =>
      rw [run] at after
      exact .inl ⟨_, rfl, after⟩

/-! ## The memory -/

/-- The memory is the same afterwards, whether the transaction commits or not. -/
def KeepsMemory (t : Transaction D M E A) : Prop := ∀ d m, (t.exec d m).memory = m

theorem keepsMemory_pure (a : A) : KeepsMemory (pure a : Transaction D M E A) := fun _ _ => rfl

theorem keepsMemory_fail (e : E) : KeepsMemory (fail e : Transaction D M E A) := fun _ _ => rfl

theorem keepsMemory_statement (run : D → Except E (A × D)) :
    KeepsMemory (statement run : Transaction D M E A) := by
  intro d m
  unfold exec statement
  cases run d with
  | error e => rfl
  | ok p => rfl

theorem keepsMemory_compute (result : Except E A) :
    KeepsMemory (compute result : Transaction D M E A) := by
  intro d m
  unfold exec compute
  cases result with
  | error e => rfl
  | ok a => rfl

theorem KeepsMemory.of_eq_ok {t : Transaction D M E A} (keeps : KeepsMemory t) {d d' : D}
    {m m' : M} {a : A} (run : t d m = .ok (a, d', m')) : m' = m := by
  have same := keeps d m
  rw [exec_of_eq_ok run] at same
  exact same

/-- The memory after two parts: that of the first, if it failed, or else that of the second. -/
theorem exec_memory_bind (t : Transaction D M E A) (f : A → Transaction D M E B) (d : D) (m : M) :
    ((∃ e, (t.exec d m).result = .error e) ∧
      ((t >>= f).exec d m).memory = (t.exec d m).memory) ∨
    ∃ a d' m', t d m = .ok (a, d', m') ∧
      ((t >>= f).exec d m).memory = ((f a).exec d' m').memory := by
  have seq : (t >>= f) d m = Transaction.bind t f d m := rfl
  cases run : t d m with
  | error e =>
      obtain ⟨e, m'⟩ := e
      have failed : (t >>= f) d m = .error (e, m') := by rw [seq, Transaction.bind, run]
      left
      rw [exec, exec, failed, run]
      exact ⟨⟨e, rfl⟩, rfl⟩
  | ok p =>
      obtain ⟨a, d', m'⟩ := p
      have rest : (t >>= f) d m = f a d' m' := by rw [seq, Transaction.bind, run]
      refine .inr ⟨a, d', m', rfl, ?_⟩
      rw [exec, exec, rest]
      cases f a d' m' with
      | error e => rfl
      | ok q => rfl

theorem KeepsMemory.bind {t : Transaction D M E A} {f : A → Transaction D M E B}
    (first : KeepsMemory t) (rest : ∀ a, KeepsMemory (f a)) : KeepsMemory (t >>= f) := by
  intro d m
  rcases exec_memory_bind t f d m with ⟨-, same⟩ | ⟨a, d', m', run, same⟩
  · rw [same]
    exact first d m
  · rw [same, rest a d' m']
    exact first.of_eq_ok run

/-- An assignment before a transaction that keeps the memory. -/
theorem KeepsMemory.exec_assign_bind {update : M → M} {f : PUnit → Transaction D M E B}
    (rest : KeepsMemory (f ⟨⟩)) (d : D) (m : M) :
    ((assign update >>= f).exec d m).memory = update m :=
  rest d (update m)

end Transaction
