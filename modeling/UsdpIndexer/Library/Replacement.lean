import Mathlib.Data.List.Infix

/-!
# Replacing every occurrence

`replaceAll needle marker text` is `text.replaceAll(needle, marker)`: from left to right,
every occurrence of a nonempty text is replaced by the marker, and what has been replaced is
not looked at again.

An occurrence in the result that was not in the text has a part of a marker in it.  A word
that does not overlap the marker has no such occurrences, so it comes in by no replacement
(`infix_of_infix_replaceAll`), and the replacement of anything that is part of it removes it
(`not_infix_replaceAll_of_infix`).
-/

namespace Replacement

universe u

variable {α : Type u} {needle marker word text : List α}

/-! ## Overlaps -/

/-- An occurrence of the word may share characters with a marker that has been put in. -/
def Overlaps (word marker : List α) : Prop :=
  word <:+: marker ∨ marker <:+: word ∨ (∃ common ∈ marker.inits, common ≠ [] ∧ common <:+ word) ∨
    ∃ common ∈ marker.tails, common ≠ [] ∧ common <+: word

instance [DecidableEq α] (word marker : List α) : Decidable (Overlaps word marker) :=
  inferInstanceAs (Decidable (_ ∨ _ ∨ _ ∨ _))

/-- **A word that does not overlap the marker occurs on one side of it.** -/
theorem infix_or_infix_of_not_overlaps {front back : List α} (apart : ¬ Overlaps word marker)
    (occurs : word <:+: front ++ (marker ++ back)) : word <:+: front ∨ word <:+: back := by
  simp only [Overlaps, not_or, not_exists, not_and, List.mem_inits, List.mem_tails] at apart
  obtain ⟨within, around, ahead, behind⟩ := apart
  obtain ⟨before, after, whole⟩ := occurs
  rw [List.append_assoc, List.append_eq_append_iff] at whole
  obtain ⟨common, rfl, rest⟩ | ⟨gap, rfl, rest⟩ := whole
  · -- it starts in front of the marker
    rw [List.append_eq_append_iff] at rest
    obtain ⟨gap, rfl, -⟩ | ⟨common', rfl, rest⟩ := rest
    · exact .inl ⟨before, gap, by rw [List.append_assoc]⟩
    · rw [List.append_eq_append_iff] at rest
      obtain ⟨more, rfl, -⟩ | ⟨more, rfl, -⟩ := rest
      · exact absurd ⟨common, more, by rw [List.append_assoc]⟩ around
      · cases common' with
        | nil => exact .inl ⟨before, [], by simp⟩
        | cons c common' =>
            exact absurd (List.suffix_append common _)
              (ahead _ (List.prefix_append _ more) (List.cons_ne_nil _ _))
  · -- it starts in the marker or behind it
    rw [List.append_eq_append_iff] at rest
    obtain ⟨more, rfl, rfl⟩ | ⟨common, rfl, rest⟩ := rest
    · exact .inr ⟨more, after, by rw [List.append_assoc]⟩
    · rw [List.append_eq_append_iff] at rest
      obtain ⟨more, rfl, -⟩ | ⟨more, rfl, rfl⟩ := rest
      · exact absurd ⟨gap, more, by rw [List.append_assoc]⟩ within
      · cases common with
        | nil => exact .inr ⟨[], after, by simp⟩
        | cons c common =>
            exact absurd (List.prefix_append _ more)
              (behind _ (List.suffix_append gap _) (List.cons_ne_nil _ _))

/-- No occurrence starts in what has been passed over, with the text behind it. -/
def PassedOver (needle front text : List α) : Prop :=
  ∀ behind, behind <:+ front → behind ≠ [] → ¬ needle <+: behind ++ text

theorem passedOver_nil : PassedOver needle [] text := fun _ suffix some =>
  absurd (List.suffix_nil.mp suffix) some

theorem PassedOver.concat {front : List α} {c : α} (passed : PassedOver needle front (c :: text))
    (absent : ¬ needle <+: c :: text) : PassedOver needle (front ++ [c]) text := by
  intro behind suffix some
  obtain rfl | ⟨rest, rfl, inside⟩ := List.suffix_concat_iff.mp suffix
  · exact absurd rfl some
  · rw [← List.append_cons]
    by_cases none : rest = []
    · rwa [none]
    · exact passed rest inside none

/-- An occurrence in what has been passed over would have started there. -/
theorem PassedOver.not_infix {front : List α} (nonempty : needle ≠ [])
    (passed : PassedOver needle front text) : ¬ needle <:+: front := by
  rintro ⟨before, after, rfl⟩
  rw [List.append_assoc] at passed
  refine passed (needle ++ after) (List.suffix_append _ _) (by simp [nonempty]) ?_
  rw [List.append_assoc]
  exact List.prefix_append _ _

/-! ## The replacement -/

variable [DecidableEq α]

/-- The replacement, with the number of characters that belong to an occurrence already
replaced. -/
def replaceFrom (needle marker : List α) : ℕ → List α → List α
  | _, [] => []
  | skip + 1, _ :: text => replaceFrom needle marker skip text
  | 0, c :: text =>
      if needle <+: c :: text then marker ++ replaceFrom needle marker (needle.length - 1) text
      else c :: replaceFrom needle marker 0 text

/-- Every occurrence of the needle is replaced, from the left. -/
def replaceAll (needle marker text : List α) : List α := replaceFrom needle marker 0 text

theorem replaceFrom_eq (skip : ℕ) (text : List α) :
    replaceFrom needle marker skip text = replaceAll needle marker (text.drop skip) := by
  induction text generalizing skip with
  | nil => cases skip <;> rfl
  | cons c text ih =>
      cases skip with
      | zero => rfl
      | succ skip => rw [replaceFrom, ih, List.drop_succ_cons]

@[simp] theorem replaceAll_nil : replaceAll needle marker [] = [] := rfl

theorem replaceAll_occurrence (nonempty : needle ≠ []) (rest : List α) :
    replaceAll needle marker (needle ++ rest) = marker ++ replaceAll needle marker rest := by
  cases needle with
  | nil => exact absurd rfl nonempty
  | cons c needle =>
      have occurs : c :: needle <+: c :: (needle ++ rest) := List.prefix_append (c :: needle) rest
      rw [replaceAll, List.cons_append, replaceFrom, if_pos occurs, replaceFrom_eq,
        List.length_cons, Nat.add_sub_cancel, List.drop_left]

theorem replaceAll_passed {c : α} (absent : ¬ needle <+: c :: text) :
    replaceAll needle marker (c :: text) = c :: replaceAll needle marker text := by
  rw [replaceAll, replaceFrom, if_neg absent]
  rfl

/-- The cases of a replacement: an occurrence is replaced, or a character is passed over. -/
theorem replaceAll_induction {motive : List α → Prop} (nonempty : needle ≠ []) (nil : motive [])
    (found : ∀ rest, motive rest → motive (needle ++ rest))
    (passed : ∀ c text, ¬ needle <+: c :: text → motive text → motive (c :: text)) :
    ∀ text, motive text := by
  intro text
  induction size : text.length using Nat.strong_induction_on generalizing text with
  | _ size ih =>
      subst size
      cases text with
      | nil => exact nil
      | cons c text =>
          by_cases occurs : needle <+: c :: text
          · obtain ⟨rest, split⟩ := occurs
            rw [← split] at ih ⊢
            have positive := List.length_pos_iff.mpr nonempty
            exact found rest (ih _ (by rw [List.length_append]; omega) rest rfl)
          · exact passed c text occurs (ih _ (Nat.lt_succ_self _) text rfl)

/-- **What does not occur is not replaced.** -/
theorem replaceAll_eq_self (absent : ¬ needle <:+: text) :
    replaceAll needle marker text = text := by
  induction text with
  | nil => rfl
  | cons c text ih =>
      rw [List.infix_cons_iff, not_or] at absent
      rw [replaceAll_passed absent.1, ih absent.2]

/-- With what has been passed over in front. -/
theorem infix_append_of_infix_append_replaceAll (nonempty : needle ≠ [])
    (apart : ¬ Overlaps word marker) (front : List α)
    (occurs : word <:+: front ++ replaceAll needle marker text) : word <:+: front ++ text := by
  induction text using replaceAll_induction nonempty generalizing front with
  | nil => exact occurs
  | found rest ih =>
      rw [replaceAll_occurrence nonempty] at occurs
      rcases infix_or_infix_of_not_overlaps apart occurs with before | behind
      · exact before.trans List.infix_append_left
      · have inside : word <:+: rest := ih [] behind
        exact (inside.trans List.infix_append_right).trans List.infix_append_right
  | passed c text absent ih =>
      rw [replaceAll_passed absent, List.append_cons] at occurs
      rw [List.append_cons]
      exact ih _ occurs

/-- **No replacement brings in a word** that does not overlap the marker. -/
theorem infix_of_infix_replaceAll (nonempty : needle ≠ []) (apart : ¬ Overlaps word marker)
    (occurs : word <:+: replaceAll needle marker text) : word <:+: text :=
  infix_append_of_infix_append_replaceAll nonempty apart [] occurs

theorem PassedOver.not_infix_replaceAll {front : List α} (nonempty : needle ≠ [])
    (inside : needle <:+: word) (apart : ¬ Overlaps word marker)
    (passed : PassedOver needle front text) :
    ¬ word <:+: front ++ replaceAll needle marker text := by
  induction text using replaceAll_induction nonempty generalizing front with
  | nil =>
      rw [replaceAll_nil, List.append_nil]
      exact fun occurs => passed.not_infix nonempty (inside.trans occurs)
  | found rest ih =>
      rw [replaceAll_occurrence nonempty]
      intro occurs
      rcases infix_or_infix_of_not_overlaps apart occurs with before | behind
      · exact passed.not_infix nonempty (inside.trans before)
      · exact ih passedOver_nil behind
  | passed c text absent ih =>
      rw [replaceAll_passed absent, List.append_cons]
      exact ih (passed.concat absent)

/-- **A replacement removes what has the needle in it**, if that does not overlap the marker: every
occurrence would be one between two markers, where the needle is nowhere left. -/
theorem not_infix_replaceAll_of_infix (nonempty : needle ≠ []) (inside : needle <:+: word)
    (apart : ¬ Overlaps word marker) (text : List α) :
    ¬ word <:+: replaceAll needle marker text :=
  passedOver_nil.not_infix_replaceAll nonempty inside apart

end Replacement
