import Mathlib.Data.List.Infix

/-!
# Text predicates

Lower-casing, substring tests and a digit scanner on strings, by way of their
character lists, so that they compute and so that list lemmas apply.  Casing is
the ASCII one: the texts it is applied to are hexadecimal strings and messages
that are compared with ASCII needles.
-/

namespace Text

/-- A lower-cased letter is in lower case: the upper-case letters and their
images `+ 32` do not overlap. -/
private theorem toLower_toLower (c : Char) : c.toLower.toLower = c.toLower := by
  unfold Char.toLower
  split
  · rename_i upper
    rw [dif_neg]
    have shift : ('a'.val - 'A'.val).toNat = 32 := by decide
    have first : 'A'.val.toNat = 65 := by decide
    have last : 'Z'.val.toNat = 90 := by decide
    simp only [ge_iff_le, UInt32.le_iff_toNat_le, UInt32.toNat_add] at upper ⊢
    omega
  · rfl

/-- Lower case, letter by letter. -/
def toLowerCase (s : String) : String := String.ofList (s.toList.map Char.toLower)

@[simp] theorem toList_toLowerCase (s : String) :
    (toLowerCase s).toList = s.toList.map Char.toLower := by
  rw [toLowerCase, String.toList_ofList]

@[simp] theorem toLowerCase_toLowerCase (s : String) :
    toLowerCase (toLowerCase s) = toLowerCase s := by
  rw [toLowerCase, toList_toLowerCase, List.map_map, toLowerCase]
  congr 2
  funext c
  exact toLower_toLower c

/-- `needle` occurs in `s`. -/
def includes (s needle : String) : Bool := decide (needle.toList <:+: s.toList)

/-- Replace every occurrence of one character by another. -/
def replaceChar (old new : Char) (s : String) : String :=
  String.ofList (s.toList.map fun c => if c = old then new else c)

/-- White space as a pattern `\s` understands it. -/
def isSpace (c : Char) : Bool :=
  c.isWhitespace || c.toNat ∈ [0x0b, 0x0c, 0xa0, 0x1680, 0x2028, 0x2029, 0x202f, 0x205f,
    0x3000, 0xfeff] || (0x2000 ≤ c.toNat && c.toNat ≤ 0x200a)

/-- A lower-case hexadecimal digit. -/
def isLowerHexDigit (c : Char) : Bool :=
  c.isDigit || ('a'.toNat ≤ c.toNat && c.toNat ≤ 'f'.toNat)

/-- The pattern `^0x[0-9a-f]{n}$`. -/
def isHex (n : ℕ) (s : String) : Bool :=
  match s.toList with
  | '0' :: 'x' :: digits => digits.length = n && digits.all isLowerHexDigit
  | _ => false

/-- The value of a string of decimal digits. -/
def decimalValue (digits : List Char) : ℕ :=
  digits.foldl (fun value c => 10 * value + (c.toNat - '0'.toNat)) 0

/-! ## What a text in pieces contains -/

section Pieces

variable {α : Type*} {needle front back : List α} {c : α}

/-- **An occurrence does not reach beyond a separator** that is not part of it. -/
theorem infix_append_cons_iff (absent : c ∉ needle) :
    needle <:+: front ++ c :: back ↔ needle <:+: front ∨ needle <:+: back := by
  constructor
  · rintro ⟨before, after, whole⟩
    rw [List.append_assoc, List.append_eq_append_iff] at whole
    obtain ⟨middle, rfl, rest⟩ | ⟨middle, rfl, rest⟩ := whole
    · -- the occurrence starts in front of the separator
      rw [List.append_eq_append_iff] at rest
      obtain ⟨gap, rfl, -⟩ | ⟨overlap, rfl, rest⟩ := rest
      · exact .inl ⟨before, gap, by rw [List.append_assoc]⟩
      · cases overlap with
        | nil => exact .inl ⟨before, [], by simp⟩
        | cons first overlap =>
            cases rest
            simp at absent
    · -- it starts behind the end of the front
      cases middle with
      | nil =>
          cases needle with
          | nil => exact .inr List.nil_infix
          | cons first needle =>
              cases rest
              simp at absent
      | cons first middle =>
          cases rest
          exact .inr ⟨middle, after, by rw [List.append_assoc]; rfl⟩
  · rintro (inFront | inBack)
    · exact inFront.trans List.infix_append_left
    · exact inBack.trans ((List.infix_cons (List.infix_refl back)).trans List.infix_append_right)

/-- A text with a character that another one lacks does not occur in it. -/
theorem not_infix_of_mem {text : List α} (mem : c ∈ needle) (absent : c ∉ text) :
    ¬ needle <:+: text :=
  fun occurs => absent (occurs.subset mem)

end Pieces

end Text
