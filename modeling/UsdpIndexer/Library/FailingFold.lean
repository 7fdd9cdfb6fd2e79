import Mathlib.Data.List.Basic
import Mathlib.Data.List.Forall2
import Mathlib.Data.List.Perm.Basic

/-!
# Folds that can fail

A loop over a list whose body updates an accumulator and may throw is
`List.foldlM` in `Except`.  Reasoning about such a loop has two halves, and
both are inductions that need to be done only once:

* while it succeeds, a property of *the prefix consumed so far* and the
  accumulator is carried along (`ok_of_prefix`);
* it fails exactly when some prefix succeeds and the next element is rejected
  (`eq_error_iff`).
-/

namespace FailingFold

universe u v w

variable {α : Type u} {σ : Type v} {ε : Type w}

theorem foldlM_cons (f : σ → α → Except ε σ) (s : σ) (a : α) (l : List α) :
    (a :: l).foldlM f s = (f s a).bind fun s' => l.foldlM f s' := rfl

theorem foldlM_cons_ok {f : σ → α → Except ε σ} {s s' : σ} {a : α} (l : List α)
    (step : f s a = .ok s') : (a :: l).foldlM f s = l.foldlM f s' := by
  rw [foldlM_cons, step]
  rfl

theorem foldlM_cons_error {f : σ → α → Except ε σ} {s : σ} {e : ε} {a : α} (l : List α)
    (step : f s a = .error e) : (a :: l).foldlM f s = .error e := by
  rw [foldlM_cons, step]
  rfl

/-- A successful fold over a nonempty list is a successful first step and a
successful rest. -/
theorem foldlM_cons_eq_ok {f : σ → α → Except ε σ} {s t : σ} {a : α} {l : List α} :
    (a :: l).foldlM f s = .ok t ↔ ∃ s', f s a = .ok s' ∧ l.foldlM f s' = .ok t := by
  cases step : f s a with
  | error e => simp [foldlM_cons_error l step]
  | ok s' => simp [foldlM_cons_ok l step]

theorem foldlM_append_ok {f : σ → α → Except ε σ} {s s' : σ} {l : List α} (l' : List α)
    (front : l.foldlM f s = .ok s') : (l ++ l').foldlM f s = l'.foldlM f s' := by
  rw [List.foldlM_append, front]
  rfl

theorem foldlM_append_error {f : σ → α → Except ε σ} {s : σ} {e : ε} {l : List α}
    (l' : List α) (front : l.foldlM f s = .error e) : (l ++ l').foldlM f s = .error e := by
  rw [List.foldlM_append, front]
  rfl

/-- The two halves of a successful fold. -/
theorem foldlM_append_eq_ok {f : σ → α → Except ε σ} {s t : σ} {l l' : List α} :
    (l ++ l').foldlM f s = .ok t
      ↔ ∃ s', l.foldlM f s = .ok s' ∧ l'.foldlM f s' = .ok t := by
  cases front : l.foldlM f s with
  | error e => simp [foldlM_append_error l' front]
  | ok s' => simp [foldlM_append_ok l' front]

/-- **Carrying a fact about the consumed prefix.**  If a property of the prefix
and the accumulator holds at the start and survives every successful step, it
holds of the whole list when the loop is through. -/
theorem ok_of_prefix {f : σ → α → Except ε σ} (P : List α → σ → Prop)
    (preserved : ∀ (front : List α) (s s' : σ) (a : α),
      P front s → f s a = .ok s' → P (front ++ [a]) s') :
    ∀ (l front : List α) {s t : σ}, P front s → l.foldlM f s = .ok t → P (front ++ l) t := by
  intro l
  induction l with
  | nil =>
      intro front s t start run
      cases run
      simpa using start
  | cons a l ih =>
      intro front s t start run
      obtain ⟨s', step, rest⟩ := foldlM_cons_eq_ok.mp run
      have := ih (front ++ [a]) (preserved front s s' a start step) rest
      simpa using this

/-- An accumulator invariant that ignores the prefix. -/
theorem ok_of_step {f : σ → α → Except ε σ} (P : σ → Prop)
    (preserved : ∀ (s s' : σ) (a : α), P s → f s a = .ok s' → P s')
    {l : List α} {s t : σ} (start : P s) (run : l.foldlM f s = .ok t) : P t :=
  ok_of_prefix (fun _ => P) (fun _ s s' a => preserved s s' a) l [] start run

/-- **When a loop throws.**  Exactly when it gets through some prefix and the
body rejects the element that follows. -/
theorem eq_error_iff {f : σ → α → Except ε σ} {e : ε} :
    ∀ {l : List α} {s : σ}, l.foldlM f s = .error e ↔
      ∃ front a back t, l = front ++ a :: back ∧ front.foldlM f s = .ok t ∧ f t a = .error e := by
  intro l
  induction l with
  | nil =>
      intro s
      constructor
      · intro run; cases run
      · rintro ⟨front, a, back, t, split, -⟩; simp at split
  | cons b l ih =>
      intro s
      constructor
      · intro run
        cases step : f s b with
        | error e' =>
            rw [foldlM_cons_error l step] at run
            cases run
            exact ⟨[], b, l, s, rfl, rfl, step⟩
        | ok s' =>
            rw [foldlM_cons_ok l step] at run
            obtain ⟨front, a, back, t, rfl, through, rejected⟩ := ih.mp run
            exact ⟨b :: front, a, back, t, rfl,
              by rw [foldlM_cons_ok front step]; exact through, rejected⟩
      · rintro ⟨front, a, back, t, split, through, rejected⟩
        rw [split, foldlM_append_ok _ through]
        exact foldlM_cons_error back rejected

/-- What is done to the result of a loop that has not thrown. -/
theorem map_eq_ok {β : Type*} {g : σ → β} {x : Except ε σ} {b : β} :
    x.map g = .ok b ↔ ∃ s, x = .ok s ∧ g s = b := by
  cases x with
  | error e =>
      constructor
      · intro run; cases run
      · rintro ⟨s, run, -⟩; cases run
  | ok s =>
      constructor
      · intro run; cases run; exact ⟨s, rfl, rfl⟩
      · rintro ⟨_, ⟨⟩, rfl⟩; rfl

/-- What is done with the result of a loop that has not thrown, if it may throw too. -/
theorem bind_eq_ok {τ : Type v} {x : Except ε σ} {f : σ → Except ε τ} {b : τ} :
    (x >>= f) = .ok b ↔ ∃ s, x = .ok s ∧ f s = .ok b := by
  cases x with
  | error e =>
      constructor
      · intro run; cases run
      · rintro ⟨s, run, -⟩; cases run
  | ok s =>
      constructor
      · intro run; exact ⟨s, rfl, run⟩
      · rintro ⟨_, ⟨⟩, run⟩; exact run

/-- What is done with a result without throwing. -/
theorem exists_bind_eq_ok_iff {τ : Type v} {x : Except ε σ} {g : σ → τ} :
    (∃ b, (x >>= fun s => .ok (g s)) = .ok b) ↔ ∃ s, x = .ok s := by
  constructor
  · rintro ⟨b, run⟩
    obtain ⟨s, run, -⟩ := bind_eq_ok.mp run
    exact ⟨s, run⟩
  · rintro ⟨s, run⟩
    exact ⟨g s, bind_eq_ok.mpr ⟨s, run, rfl⟩⟩

/-- Two loops whose bodies do the same to the elements of the list. -/
theorem foldlM_congr {f f' : σ → α → Except ε σ} {l : List α}
    (same : ∀ a ∈ l, ∀ s, f s a = f' s a) (s : σ) : l.foldlM f s = l.foldlM f' s := by
  induction l generalizing s with
  | nil => rfl
  | cons a l ih =>
      rw [foldlM_cons, foldlM_cons, same a List.mem_cons_self s]
      congr 1
      funext s'
      exact ih (fun b mem => same b (List.mem_cons_of_mem _ mem)) s'

/-- Two loops whose bodies are the same up to a change of the accumulator. -/
theorem foldlM_eq_map {τ : Type v} {f : σ → α → Except ε σ} {f' : τ → α → Except ε τ}
    {g : σ → τ} (commutes : ∀ s a, f' (g s) a = (f s a).map g) (l : List α) :
    ∀ s : σ, l.foldlM f' (g s) = (l.foldlM f s).map g := by
  induction l with
  | nil => intro s; rfl
  | cons a l ih =>
      intro s
      cases step : f s a with
      | error e =>
          have step' := commutes s a
          rw [step] at step'
          rw [foldlM_cons_error l step, foldlM_cons_error l step']
          rfl
      | ok s' =>
          have step' := commutes s a
          rw [step] at step'
          rw [foldlM_cons_ok l step, foldlM_cons_ok l step']
          exact ih s'

/-- A map that may throw, element by element. -/
theorem mapM_eq_ok {β : Type*} {f : α → Except ε β} :
    ∀ {l : List α} {l' : List β},
      l.mapM f = .ok l' ↔ List.Forall₂ (fun a b => f a = .ok b) l l' := by
  intro l
  induction l with
  | nil =>
      intro l'
      rw [List.mapM_nil, List.forall₂_nil_left_iff]
      constructor
      · rintro ⟨⟩; rfl
      · rintro rfl; rfl
  | cons a l ih =>
      intro l'
      rw [List.mapM_cons, List.forall₂_cons_left_iff]
      cases first : f a with
      | error e =>
          constructor
          · intro run; cases run
          · rintro ⟨b, bs, accepted, -⟩; cases accepted
      | ok b =>
          cases rest : l.mapM f with
          | error e =>
              constructor
              · intro run; cases run
              · rintro ⟨b, bs, -, others, -⟩
                rw [← ih, rest] at others
                cases others
          | ok bs =>
              constructor
              · intro run
                cases run
                exact ⟨b, bs, rfl, ih.mp rest, rfl⟩
              · rintro ⟨_, bs', ⟨⟩, others, rfl⟩
                rw [← ih, rest] at others
                cases others
                rfl

/-- A map throws if it throws at one of the elements, and only then. -/
theorem exists_mapM_eq_ok_iff {β : Type*} {f : α → Except ε β} {l : List α} :
    (∃ l', l.mapM f = .ok l') ↔ ∀ a ∈ l, ∃ b, f a = .ok b := by
  simp only [mapM_eq_ok]
  induction l with
  | nil => simp
  | cons a l ih =>
      rw [List.forall_mem_cons, ← ih]
      constructor
      · rintro ⟨_, run⟩
        cases run with
        | cons head tail => exact ⟨⟨_, head⟩, _, tail⟩
      · rintro ⟨⟨b, head⟩, l', tail⟩
        exact ⟨b :: l', .cons head tail⟩

/-- The results of a map that has not thrown. -/
theorem mem_of_mapM_eq_ok {β : Type*} {f : α → Except ε β} {l : List α} {l' : List β}
    (run : l.mapM f = .ok l') (b : β) : b ∈ l' ↔ ∃ a ∈ l, f a = .ok b := by
  rw [mapM_eq_ok] at run
  induction run with
  | nil => simp
  | cons head tail ih => simp [ih, head, eq_comm]

/-- What can be read off every result is what the elements it comes from determine. -/
theorem map_of_mapM_eq_ok {β γ : Type*} {f : α → Except ε β} {l : List α} {l' : List β}
    (run : l.mapM f = .ok l') {g : β → γ} {h : α → γ}
    (reads : ∀ a b, f a = .ok b → g b = h a) : l'.map g = l.map h := by
  rw [mapM_eq_ok] at run
  induction run with
  | nil => rfl
  | cons head tail ih => rw [List.map_cons, List.map_cons, reads _ _ head, ih]

/-- The order of a list does not decide whether a map over it throws, and the results of
another order are those of this one in that order. -/
theorem exists_mapM_eq_ok_of_perm {β : Type*} {f : α → Except ε β} {l l' : List α}
    {results : List β} (perm : l'.Perm l) (run : l.mapM f = .ok results) :
    ∃ results', l'.mapM f = .ok results' ∧ results'.Perm results := by
  obtain ⟨results', others, same⟩ := List.perm_comp_forall₂ perm (mapM_eq_ok.mp run)
  exact ⟨results', mapM_eq_ok.mpr others, same⟩

end FailingFold
