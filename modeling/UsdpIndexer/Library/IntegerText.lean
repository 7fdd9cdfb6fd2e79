import Mathlib.Data.Int.Notation
import UsdpIndexer.Library.Text

/-!
# Integers and dates as text

`parseInteger` reads an integer literal the way a conversion to an arbitrary-precision
integer does: white space around it is dropped, nothing counts as zero, there may be a
sign, and the prefixes `0x`, `0o` and `0b` are understood.  What `toString` writes is read
back (`parseInteger_toString`).  `toISOString` writes a time in milliseconds since the
epoch.
-/

namespace IntegerText

open Text

/-- The value of a digit; letters of either case go on after `9`. -/
def digitValue (c : Char) : Option ℕ :=
  if c.isDigit then some (c.toNat - '0'.toNat)
  else if c.isAlpha then some (c.toLower.toNat - 'a'.toNat + 10)
  else none

/-- The value of a nonempty text of digits below the base. -/
def digitsValue (base : ℕ) (digits : List Char) : Option ℕ :=
  if digits ≠ [] ∧ digits.all fun c => (digitValue c).any (· < base) then
    some (digits.foldl (fun value c => base * value + (digitValue c).getD 0) 0)
  else none

/-- The text without the white space on both sides. -/
def trim (text : List Char) : List Char :=
  ((text.dropWhile isSpace).reverse.dropWhile isSpace).reverse

/-- `BigInt` of a text: what is blank counts as zero, and only a decimal may have a sign. -/
def parseInteger (text : String) : Option ℤ :=
  match trim text.toList with
  | [] => some 0
  | '0' :: 'x' :: digits | '0' :: 'X' :: digits => (digitsValue 16 digits).map Int.ofNat
  | '0' :: 'o' :: digits | '0' :: 'O' :: digits => (digitsValue 8 digits).map Int.ofNat
  | '0' :: 'b' :: digits | '0' :: 'B' :: digits => (digitsValue 2 digits).map Int.ofNat
  | '-' :: digits => (digitsValue 10 digits).map fun value => -(value : ℤ)
  | '+' :: digits => (digitsValue 10 digits).map Int.ofNat
  | digits => (digitsValue 10 digits).map Int.ofNat

/-! ## Reading what has been written -/

theorem isSpace_of_isDigit {c : Char} (digit : c.isDigit) : isSpace c = false := by
  have range : 48 ≤ c.toNat ∧ c.toNat ≤ 57 := by
    simpa [Char.isDigit, UInt32.le_iff_toNat_le] using digit
  have solid : c.isWhitespace = false := by
    simp only [Char.isWhitespace, Bool.or_eq_false_iff, decide_eq_false_iff_not]
    refine ⟨⟨⟨?_, ?_⟩, ?_⟩, ?_⟩ <;> rintro rfl <;> revert range <;> decide
  simp only [isSpace, solid, Bool.false_or, Bool.or_eq_false_iff, decide_eq_false_iff_not,
    List.mem_cons, List.not_mem_nil, or_false, Bool.and_eq_false_iff]
  omega

theorem trim_eq_self {text : List Char} (solid : ∀ c ∈ text, isSpace c = false) :
    trim text = text := by
  have kept {chars : List Char} (solid : ∀ c ∈ chars, isSpace c = false) :
      chars.dropWhile isSpace = chars := by
    cases chars with
    | nil => rfl
    | cons c chars => rw [List.dropWhile_cons_of_neg (by simp [solid c])]
  rw [trim, kept solid, kept fun c mem => solid c (List.mem_reverse.mp mem), List.reverse_reverse]

theorem digitsValue_toDigits (n : ℕ) : digitsValue 10 (Nat.toDigits 10 n) = some n := by
  have digits : ∀ c ∈ Nat.toDigits 10 n, c.isDigit := fun c mem =>
    Nat.isDigit_of_mem_toDigits (by decide) (by decide) mem
  have value {c : Char} (digit : c.isDigit) : digitValue c = some (c.toNat - '0'.toNat) :=
    if_pos digit
  have below : (Nat.toDigits 10 n).all fun c => (digitValue c).any (· < 10) := by
    rw [List.all_eq_true]
    intro c mem
    have range : 48 ≤ c.toNat ∧ c.toNat ≤ 57 := by
      simpa [Char.isDigit, UInt32.le_iff_toNat_le] using digits c mem
    rw [value (digits c mem), Option.any_some, decide_eq_true_eq]
    show c.toNat - 48 < 10
    omega
  have same : (Nat.toDigits 10 n).foldl (fun value c => 10 * value + (digitValue c).getD 0) 0
      = Nat.ofDigitChars 10 (Nat.toDigits 10 n) 0 := by
    rw [Nat.ofDigitChars_eq_foldl]
    apply List.foldl_ext
    intro sum c mem
    rw [value (digits c mem), Option.getD_some]
  rw [digitsValue, if_pos ⟨Nat.toDigits_ne_nil, below⟩, same, Nat.ofDigitChars_ten_toDigits]

/-- Digits alone are a literal without a prefix. -/
theorem parseInteger_of_digits {text : String} {digits : List Char} (chars : text.toList = digits)
    (solid : ∀ c ∈ digits, c.isDigit) (nonempty : digits ≠ []) :
    parseInteger text = (digitsValue 10 digits).map Int.ofNat := by
  rw [parseInteger, chars, trim_eq_self fun c mem => isSpace_of_isDigit (solid c mem)]
  split
  · exact absurd rfl nonempty
  · exact absurd (solid 'x' (by simp)) (by decide)
  · exact absurd (solid 'X' (by simp)) (by decide)
  · exact absurd (solid 'o' (by simp)) (by decide)
  · exact absurd (solid 'O' (by simp)) (by decide)
  · exact absurd (solid 'b' (by simp)) (by decide)
  · exact absurd (solid 'B' (by simp)) (by decide)
  · exact absurd (solid '-' (by simp)) (by decide)
  · exact absurd (solid '+' (by simp)) (by decide)
  · rfl

/-- **What is written is read back.** -/
theorem parseInteger_toString (n : ℕ) : parseInteger (toString (n : ℤ)) = some (n : ℤ) := by
  have chars : (toString (n : ℤ)).toList = Nat.toDigits 10 n := by
    show (Nat.repr n).toList = _
    rw [Nat.repr_eq_ofList_toDigits, String.toList_ofList]
  have solid : ∀ c ∈ Nat.toDigits 10 n, c.isDigit := fun c mem =>
    Nat.isDigit_of_mem_toDigits (by decide) (by decide) mem
  rw [parseInteger_of_digits chars solid Nat.toDigits_ne_nil, digitsValue_toDigits]
  rfl

/-- A scan for digits alone reads what has been written, where there are only digits. -/
theorem decimalValue_toString {n : ℤ} (digits : (toString n).toList.all Char.isDigit) :
    decimalValue (toString n).toList = n.toNat := by
  cases n with
  | ofNat m =>
      show decimalValue (Nat.repr m).toList = m
      rw [Nat.repr_eq_ofList_toDigits, String.toList_ofList, decimalValue,
        ← Nat.ofDigitChars_eq_foldl, Nat.ofDigitChars_ten_toDigits]
  | negSucc m =>
      have chars : (toString (Int.negSucc m)).toList = '-' :: (Nat.repr (m + 1)).toList := by
        show ("-" ++ Nat.repr (m + 1)).toList = _
        rw [String.toList_append]
        rfl
      rw [chars] at digits
      cases digits

theorem toString_ne_empty (n : ℤ) : toString n ≠ "" := by
  have repr (m : ℕ) : Nat.repr m ≠ "" := by
    rw [Nat.repr_eq_ofList_toDigits]
    simp
  cases n with
  | ofNat m => exact repr m
  | negSucc m =>
      show "-" ++ Nat.repr (m + 1) ≠ ""
      simp

/-! ## Dates -/

/-- A number with zeros in front, up to a width. -/
def padStart (width n : ℕ) : String :=
  let digits := Nat.repr n
  String.ofList (List.replicate (width - digits.length) '0') ++ digits

/-- Year, month and day of the Gregorian calendar, from the days since the epoch.  The
years are counted from March here, in eras of 400. -/
def civilDate (days : ℤ) : ℤ × ℕ × ℕ :=
  let shifted := days + 719468
  let era := shifted / 146097
  let dayOfEra := (shifted % 146097).toNat
  let yearOfEra := (dayOfEra - dayOfEra / 1460 + dayOfEra / 36524 - dayOfEra / 146096) / 365
  let dayOfYear := dayOfEra - (365 * yearOfEra + yearOfEra / 4 - yearOfEra / 100)
  let monthFromMarch := (5 * dayOfYear + 2) / 153
  let day := dayOfYear - (153 * monthFromMarch + 2) / 5 + 1
  let month := if monthFromMarch < 10 then monthFromMarch + 3 else monthFromMarch - 9
  (yearOfEra + era * 400 + (if month ≤ 2 then 1 else 0), month, day)

/-- `date.toISOString()`. -/
def toISOString (milliseconds : ℤ) : String :=
  let (year, month, day) := civilDate (milliseconds / 86400000)
  let time := (milliseconds % 86400000).toNat
  let yearText :=
    if 0 ≤ year ∧ year ≤ 9999 then padStart 4 year.toNat
    else (if year < 0 then "-" else "+") ++ padStart 6 year.natAbs
  s!"{yearText}-{padStart 2 month}-{padStart 2 day}T{padStart 2 (time / 3600000)}:" ++
    s!"{padStart 2 (time / 60000 % 60)}:{padStart 2 (time / 1000 % 60)}." ++
    s!"{padStart 3 (time % 1000)}Z"

example : toISOString 1709209845678 = "2024-02-29T12:30:45.678Z" := by decide

end IntegerText
