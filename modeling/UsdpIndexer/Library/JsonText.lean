import Mathlib.Data.List.Sort
import Mathlib.Data.Nat.Basic
import Mathlib.Order.Basic

/-!
# Reading a JSON text

`parse` is `JSON.parse`.  The values of numbers are not kept.  An object has its members as
they are written; `entries` are those that count, the last under each name, in the order in which
the language lists them.

A text with an escaped surrogate that is not one of a pair has no value here.

A string is shorter than the text it is read from (`length_lt_of_member`).
-/

namespace JsonText

/-- A JSON value; of a number it is only known that it is one. -/
inductive Value
  | null
  | bool (value : Bool)
  | number
  | string (value : List Char)
  | array (items : List Value)
  | object (members : List (List Char × Value))

/-- What `typeof` says of a value, with names of their own for `null` and a list. -/
def Value.typeName : Value → String
  | .null => "null"
  | .bool _ => "boolean"
  | .number => "number"
  | .string _ => "string"
  | .array _ => "array"
  | .object _ => "object"

/-- The text without the white space in front. -/
def skipSpace (text : List Char) : List Char :=
  text.dropWhile fun c => c = ' ' || c = '\t' || c = '\n' || c = '\r'

/-! ## Strings -/

/-- The value of a hexadecimal digit. -/
def hexDigit (c : Char) : Option ℕ :=
  if c.isDigit then some (c.toNat - '0'.toNat)
  else if 'a' ≤ c ∧ c ≤ 'f' then some (c.toNat - 'a'.toNat + 10)
  else if 'A' ≤ c ∧ c ≤ 'F' then some (c.toNat - 'A'.toNat + 10)
  else none

/-- The four digits behind `\u`. -/
def fourDigits (a b c d : Char) : Option ℕ := do
  return 4096 * (← hexDigit a) + 256 * (← hexDigit b) + 16 * (← hexDigit c) + (← hexDigit d)

/-- The character that a letter behind `\` stands for. -/
def unescape (c : Char) : Option Char :=
  [('"', '"'), ('\\', '\\'), ('/', '/'), ('b', '\x08'), ('f', '\x0c'), ('n', '\n'), ('r', '\r'),
    ('t', '\t')].lookup c

/-- A string behind its opening quote, as characters and escaped code units. -/
def stringPieces : List Char → Option (List (Char ⊕ ℕ) × List Char)
  | [] => none
  | '"' :: rest => some ([], rest)
  | '\\' :: 'u' :: a :: b :: c :: d :: rest => do
      let unit ← fourDigits a b c d
      let (pieces, rest) ← stringPieces rest
      return (.inr unit :: pieces, rest)
  | '\\' :: c :: rest => do
      let c ← unescape c
      let (pieces, rest) ← stringPieces rest
      return (.inl c :: pieces, rest)
  | c :: rest =>
      if c.toNat < 0x20 then none
      else do
        let (pieces, rest) ← stringPieces rest
        return (.inl c :: pieces, rest)

/-- The first unit of a pair. -/
def isHighSurrogate (unit : ℕ) : Bool := 0xd800 ≤ unit && unit < 0xdc00

/-- The second unit of a pair. -/
def isLowSurrogate (unit : ℕ) : Bool := 0xdc00 ≤ unit && unit < 0xe000

/-- Put pairs of surrogates together. -/
def joinUnits : List (Char ⊕ ℕ) → Option (List Char)
  | [] => some []
  | .inl c :: rest => do return c :: (← joinUnits rest)
  | .inr high :: .inr low :: rest =>
      if isHighSurrogate high && isLowSurrogate low then do
        let code := 0x10000 + 0x400 * (high - 0xd800) + (low - 0xdc00)
        return Char.ofNat code :: (← joinUnits rest)
      else if isHighSurrogate high || isLowSurrogate high then none
      else do return Char.ofNat high :: (← joinUnits (.inr low :: rest))
  | .inr unit :: rest =>
      if isHighSurrogate unit || isLowSurrogate unit then none
      else do return Char.ofNat unit :: (← joinUnits rest)

/-- A string behind its opening quote, and what comes behind it. -/
def readString (text : List Char) : Option (List Char × List Char) := do
  let (pieces, rest) ← stringPieces text
  return (← joinUnits pieces, rest)

/-! ## Numbers -/

/-- What comes behind a digit and the digits that follow it. -/
def skipDigits : List Char → Option (List Char)
  | [] => none
  | c :: rest => if c.isDigit then some (rest.dropWhile Char.isDigit) else none

/-- The text without a sign of these in front. -/
def skipSign (signs : List Char) : List Char → List Char
  | [] => []
  | c :: rest => if c ∈ signs then rest else c :: rest

/-- The text behind an integer, which has no zero in front unless it is zero. -/
def skipInteger : List Char → Option (List Char)
  | '0' :: rest => some rest
  | text => skipDigits text

/-- The text behind a fraction, if there is one. -/
def skipFraction : List Char → Option (List Char)
  | '.' :: rest => skipDigits rest
  | text => some text

/-- The text behind an exponent, if there is one. -/
def skipExponent : List Char → Option (List Char)
  | 'e' :: rest | 'E' :: rest => skipDigits (skipSign ['+', '-'] rest)
  | text => some text

/-- The text behind a number. -/
def skipNumber (text : List Char) : Option (List Char) := do
  skipExponent (← skipFraction (← skipInteger (skipSign ['-'] text)))

/-! ## Values -/

/-- What comes behind a character, with space in front of it. -/
def expect (c : Char) (text : List Char) : Option (List Char) :=
  match skipSpace text with
  | [] => none
  | d :: rest => if d = c then some rest else none

/-- The words that are values. -/
def readWord (text : List Char) : Option (Value × List Char) :=
  let words := [("true", Value.bool true), ("false", .bool false), ("null", .null)]
  words.findSome? fun (word, value) =>
    if word.toList <+: text then some (value, text.drop word.length) else none

/-- A string, and what comes behind it. -/
def readStringValue (text : List Char) : Option (Value × List Char) := do
  let rest ← expect '"' text
  let (value, rest) ← readString rest
  return (.string value, rest)

section Lists

variable {β : Type} (item : List Char → Option (β × List Char)) (closing : Char)

/-- Items with commas between them, up to the closing bracket; there is a unit of fuel for each. -/
def readSeparated : ℕ → List Char → Option (List β × List Char)
  | 0, _ => none
  | fuel + 1, text => do
      let (first, rest) ← item text
      match expect ',' rest with
      | some rest =>
          let (others, rest) ← readSeparated fuel rest
          return (first :: others, rest)
      | none => return ([first], ← expect closing rest)

/-- Items in brackets, or none. -/
def readBracketed (opening : Char) (text : List Char) : Option (List β × List Char) := do
  let rest ← expect opening text
  ((expect closing rest).map ([], ·)).or (readSeparated item closing rest.length rest)

end Lists

/-- A name, a colon and a value. -/
def readMember (value : List Char → Option (Value × List Char)) (text : List Char) :
    Option ((List Char × Value) × List Char) := do
  let rest ← expect '"' text
  let (name, rest) ← readString rest
  let rest ← expect ':' rest
  let (value, rest) ← value rest
  return ((name, value), rest)

/-- The value in front, and what comes behind it; there is a unit of fuel for every level. -/
def readValue : ℕ → List Char → Option (Value × List Char)
  | 0, _ => none
  | fuel + 1, text =>
      (readStringValue text).or <|
        ((readBracketed (readMember (readValue fuel)) '}' '{' text).map fun (members, rest) =>
          (.object members, rest)).or <|
        ((readBracketed (readValue fuel) ']' '[' text).map fun (items, rest) =>
          (.array items, rest)).or <|
        (readWord (skipSpace text)).or ((skipNumber (skipSpace text)).map (.number, ·))

/-- The value that is the whole text, but for white space. -/
def parse (text : List Char) : Option Value := do
  let (value, rest) ← readValue (text.length + 1) text
  if skipSpace rest = [] then some value else none

/-! ## The members that count -/

/-- Digits, the first no zero unless there is no other. -/
def isNumeral : List Char → Bool
  | [] => false
  | ['0'] => true
  | '0' :: _ => false
  | digits => digits.all Char.isDigit

/-- The number that a name is written for, if it is below `2 ^ 32 - 1`. -/
def arrayIndex (name : List Char) : Option ℕ :=
  if isNumeral name then
    (some (name.foldl (fun value digit => 10 * value + (digit.toNat - '0'.toNat)) 0)).filter
      fun index => index < 4294967295
  else none

/-- The names in the order in which an object lists them: those written for numbers in the order
of the numbers, then the others as each comes first. -/
def propertyOrder (names : List (List Char)) : List (List Char) :=
  let distinct := names.eraseDups
  let indexed := distinct.filterMap fun name => (arrayIndex name).map fun index => (index, name)
  (indexed.insertionSort fun a b => a.1 ≤ b.1).map Prod.snd ++
    distinct.filter fun name => (arrayIndex name).isNone

example : propertyOrder ["b".toList, "10".toList, "02".toList, "9".toList, "b".toList]
    = ["9".toList, "10".toList, "b".toList, "02".toList] := by decide +kernel

/-- The members that count: of those under one name the last. -/
def entries {β : Type*} (members : List (List Char × β)) : List (List Char × β) :=
  (propertyOrder (members.map Prod.fst)).filterMap fun name =>
    members.reverse.find? fun member => member.1 = name

theorem mem_of_mem_entries {β : Type*} {members : List (List Char × β)} {member : List Char × β}
    (mem : member ∈ entries members) : member ∈ members := by
  obtain ⟨name, -, found⟩ := List.mem_filterMap.mp mem
  exact List.mem_reverse.mp (List.mem_of_find?_eq_some found)

/-! ## A string is shorter than the text -/

theorem length_skipSpace_le (text : List Char) : (skipSpace text).length ≤ text.length :=
  (List.dropWhile_suffix _).length_le

theorem length_of_expect {c : Char} {text rest : List Char} (found : expect c text = some rest) :
    rest.length < text.length := by
  have shorter := length_skipSpace_le text
  unfold expect at found
  cases front : skipSpace text with
  | nil =>
      rw [front] at found
      cases found
  | cons d behind =>
      rw [front] at found shorter
      by_cases same : d = c
      · simp only [if_pos same, Option.some.injEq] at found
        subst found
        exact shorter
      · simp only [if_neg same] at found
        cases found

theorem length_of_stringPieces {text rest : List Char} {pieces : List (Char ⊕ ℕ)}
    (read : stringPieces text = some (pieces, rest)) :
    pieces.length + rest.length < text.length := by
  fun_induction stringPieces text generalizing pieces rest with
  | case1 => cases read
  | case2 =>
      cases read
      simp
  | case3 a b c d text ih =>
      simp only [Option.bind_eq_bind, Option.bind_eq_some_iff, Option.pure_def] at read
      obtain ⟨unit, -, ⟨pieces, rest⟩, inner, ⟨⟩⟩ := read
      have := ih inner
      simp only [List.length_cons]
      omega
  | case4 c text _ ih =>
      simp only [Option.bind_eq_bind, Option.bind_eq_some_iff, Option.pure_def] at read
      obtain ⟨unit, -, ⟨pieces, rest⟩, inner, ⟨⟩⟩ := read
      have := ih inner
      simp only [List.length_cons]
      omega
  | case5 => cases read
  | case6 c text _ _ _ _ ih =>
      simp only [Option.bind_eq_bind, Option.bind_eq_some_iff, Option.pure_def] at read
      obtain ⟨⟨pieces, rest⟩, inner, ⟨⟩⟩ := read
      have := ih inner
      simp only [List.length_cons]
      omega

theorem length_of_joinUnits {pieces : List (Char ⊕ ℕ)} {value : List Char}
    (joined : joinUnits pieces = some value) : value.length ≤ pieces.length := by
  fun_induction joinUnits pieces generalizing value with
  | case1 =>
      cases joined
      simp
  | case4 => cases joined
  | case6 => cases joined
  | _ =>
      -- a character in front of what the rest stands for
      rename_i ih
      simp only [Option.bind_eq_bind, Option.bind_eq_some_iff, Option.pure_def] at joined
      obtain ⟨rest, inner, ⟨⟩⟩ := joined
      have := ih inner
      simp only [List.length_cons] at this ⊢
      omega

theorem length_of_readString {text value rest : List Char}
    (read : readString text = some (value, rest)) :
    value.length + rest.length < text.length := by
  simp only [readString, Option.bind_eq_bind, Option.bind_eq_some_iff, Option.pure_def] at read
  obtain ⟨⟨pieces, rest⟩, inner, value, joined, ⟨⟩⟩ := read
  have whole := length_of_stringPieces inner
  have shorter := length_of_joinUnits joined
  simp only at whole shorter ⊢
  omega

theorem length_of_skipDigits {text rest : List Char} (skipped : skipDigits text = some rest) :
    rest.length ≤ text.length := by
  cases text with
  | nil => cases skipped
  | cons c text =>
      rw [skipDigits] at skipped
      split_ifs at skipped
      obtain rfl := Option.some.inj skipped
      exact (List.dropWhile_suffix _).length_le.trans (Nat.le_succ _)

theorem length_skipSign_le (signs text : List Char) :
    (skipSign signs text).length ≤ text.length := by
  cases text with
  | nil => exact le_rfl
  | cons c text =>
      rw [skipSign]
      split_ifs
      · exact Nat.le_succ _
      · exact le_rfl

theorem length_of_skipInteger {text rest : List Char} (skipped : skipInteger text = some rest) :
    rest.length ≤ text.length := by
  unfold skipInteger at skipped
  split at skipped
  · obtain rfl := Option.some.inj skipped
    exact Nat.le_succ _
  · exact length_of_skipDigits skipped

theorem length_of_skipFraction {text rest : List Char} (skipped : skipFraction text = some rest) :
    rest.length ≤ text.length := by
  unfold skipFraction at skipped
  split at skipped
  · exact (length_of_skipDigits skipped).trans (Nat.le_succ _)
  · obtain rfl := Option.some.inj skipped
    exact le_rfl

theorem length_of_skipExponent {text rest : List Char} (skipped : skipExponent text = some rest) :
    rest.length ≤ text.length := by
  unfold skipExponent at skipped
  split at skipped
  · exact ((length_of_skipDigits skipped).trans (length_skipSign_le _ _)).trans (Nat.le_succ _)
  · exact ((length_of_skipDigits skipped).trans (length_skipSign_le _ _)).trans (Nat.le_succ _)
  · obtain rfl := Option.some.inj skipped
    exact le_rfl

theorem length_of_skipNumber {text rest : List Char} (skipped : skipNumber text = some rest) :
    rest.length ≤ text.length := by
  simp only [skipNumber, Option.bind_eq_bind, Option.bind_eq_some_iff] at skipped
  obtain ⟨fraction, integer, exponent, fraction', skipped⟩ := skipped
  calc rest.length ≤ exponent.length := length_of_skipExponent skipped
    _ ≤ fraction.length := length_of_skipFraction fraction'
    _ ≤ (skipSign ['-'] text).length := length_of_skipInteger integer
    _ ≤ text.length := length_skipSign_le _ _

theorem length_of_readWord {text rest : List Char} {value : Value}
    (read : readWord text = some (value, rest)) :
    rest.length ≤ text.length ∧ value ∈ [Value.bool true, .bool false, .null] := by
  obtain ⟨⟨word, value⟩, listed, found⟩ := List.exists_of_findSome?_eq_some read
  dsimp only at found
  split_ifs at found
  cases found
  refine ⟨(List.drop_suffix _ _).length_le, ?_⟩
  exact List.mem_map_of_mem (f := Prod.snd) listed

/-- The reader goes on in the text. -/
def Advances {β : Type} (read : List Char → Option (β × List Char)) : Prop :=
  ∀ text value rest, read text = some (value, rest) → rest.length ≤ text.length

/-- Every item is read from a part of the text that is no longer. -/
theorem Advances.readSeparated {β : Type} {item : List Char → Option (β × List Char)}
    (advances : Advances item) (closing : Char) {fuel : ℕ} {text rest : List Char} {items : List β}
    (read : readSeparated item closing fuel text = some (items, rest)) :
    rest.length ≤ text.length ∧ ∀ value ∈ items, ∃ part behind, item part = some (value, behind) ∧
      part.length ≤ text.length := by
  induction fuel generalizing text rest items with
  | zero => cases read
  | succ fuel ih =>
      simp only [JsonText.readSeparated, Option.bind_eq_bind, Option.bind_eq_some_iff] at read
      obtain ⟨⟨first, behind⟩, head, read⟩ := read
      have shorter := advances _ _ _ head
      dsimp only at read
      cases comma : expect ',' behind with
      | some behind' =>
          have further := length_of_expect comma
          simp only [comma, Option.bind_eq_some_iff, Option.pure_def, Option.some.injEq,
            Prod.mk.injEq] at read
          obtain ⟨⟨others, rest'⟩, tail, rfl, rfl⟩ := read
          obtain ⟨bound, parts⟩ := ih tail
          refine ⟨by dsimp only; omega, fun value mem => ?_⟩
          rcases List.mem_cons.mp mem with rfl | inside
          · exact ⟨text, behind, head, le_rfl⟩
          · obtain ⟨part, behind, read, short⟩ := parts value inside
            exact ⟨part, behind, read, by omega⟩
      | none =>
          simp only [comma, Option.bind_eq_some_iff, Option.pure_def, Option.some.injEq,
            Prod.mk.injEq] at read
          obtain ⟨rest', closed, rfl, rfl⟩ := read
          have := length_of_expect closed
          refine ⟨by omega, fun value mem => ?_⟩
          obtain rfl := List.mem_singleton.mp mem
          exact ⟨text, behind, head, le_rfl⟩

theorem Advances.readBracketed {β : Type} {item : List Char → Option (β × List Char)}
    (advances : Advances item) (closing opening : Char) {text rest : List Char} {items : List β}
    (read : readBracketed item closing opening text = some (items, rest)) :
    rest.length ≤ text.length ∧ ∀ value ∈ items, ∃ part behind, item part = some (value, behind) ∧
      part.length ≤ text.length := by
  simp only [JsonText.readBracketed, Option.bind_eq_bind, Option.bind_eq_some_iff] at read
  obtain ⟨behind, opened, read⟩ := read
  have shorter := length_of_expect opened
  cases closed : expect closing behind with
  | some behind' =>
      have := length_of_expect closed
      simp only [closed, Option.map_some, Option.some_or, Option.some.injEq, Prod.mk.injEq] at read
      obtain ⟨rfl, rfl⟩ := read
      exact ⟨by omega, fun _ mem => absurd mem List.not_mem_nil⟩
  | none =>
      rw [closed, Option.map_none, Option.none_or] at read
      obtain ⟨bound, parts⟩ := advances.readSeparated closing read
      refine ⟨by omega, fun value mem => ?_⟩
      obtain ⟨part, behind, read, short⟩ := parts value mem
      exact ⟨part, behind, read, by omega⟩

theorem readMember_eq_some {value : List Char → Option (Value × List Char)}
    {text rest : List Char} {member : List Char × Value}
    (read : readMember value text = some (member, rest)) :
    ∃ part, value part = some (member.2, rest) ∧ part.length ≤ text.length := by
  simp only [readMember, Option.bind_eq_bind, Option.bind_eq_some_iff, Option.pure_def,
    Option.some.injEq, Prod.mk.injEq] at read
  obtain ⟨behind, quote, ⟨name, behind'⟩, named, part, colon, ⟨value, rest'⟩, read, rfl, rfl⟩ :=
    read
  have := length_of_expect quote
  have := length_of_readString named
  have := length_of_expect colon
  exact ⟨part, read, by dsimp only at *; omega⟩

theorem Advances.readMember {value : List Char → Option (Value × List Char)}
    (advances : Advances value) : Advances (readMember value) := by
  intro text member rest read
  obtain ⟨part, read, short⟩ := readMember_eq_some read
  exact (advances part member.2 rest read).trans short

theorem readStringValue_eq_some {text rest : List Char} {value : Value}
    (read : readStringValue text = some (value, rest)) :
    ∃ chars, value = .string chars ∧ chars.length + rest.length < text.length := by
  simp only [readStringValue, Option.bind_eq_bind, Option.bind_eq_some_iff, Option.pure_def,
    Option.some.injEq, Prod.mk.injEq] at read
  obtain ⟨behind, quote, ⟨chars, rest⟩, string, rfl, rfl⟩ := read
  have shorter := length_of_expect quote
  have whole := length_of_readString string
  exact ⟨chars, rfl, by dsimp only; omega⟩

/-- The readers of a value, one of which has read it. -/
theorem readValue_succ {fuel : ℕ} {text rest : List Char} {value : Value}
    (read : readValue (fuel + 1) text = some (value, rest)) :
    readStringValue text = some (value, rest) ∨
      (∃ members, readBracketed (readMember (readValue fuel)) '}' '{' text = some (members, rest) ∧
        value = .object members) ∨
      (∃ items, readBracketed (readValue fuel) ']' '[' text = some (items, rest) ∧
        value = .array items) ∨
      readWord (skipSpace text) = some (value, rest) ∨
      skipNumber (skipSpace text) = some rest ∧ value = .number := by
  simp only [readValue, Option.or_eq_some_iff, Option.map_eq_some_iff, Prod.mk.injEq] at read
  rcases read with string | ⟨-, ⟨⟨members, behind⟩, inner, rfl, rfl⟩ |
    ⟨-, ⟨⟨items, behind⟩, inner, rfl, rfl⟩ | ⟨-, word | ⟨-, behind, number, rfl, rfl⟩⟩⟩⟩
  · exact .inl string
  · exact .inr (.inl ⟨members, inner, rfl⟩)
  · exact .inr (.inr (.inl ⟨items, inner, rfl⟩))
  · exact .inr (.inr (.inr (.inl word)))
  · exact .inr (.inr (.inr (.inr ⟨number, rfl⟩)))

theorem advances_readValue (fuel : ℕ) : Advances (readValue fuel) := by
  induction fuel with
  | zero => exact fun _ _ _ read => by cases read
  | succ fuel ih =>
      intro text value rest read
      have space := length_skipSpace_le text
      rcases readValue_succ read with string | ⟨members, inner, -⟩ | ⟨items, inner, -⟩ | word |
        ⟨number, -⟩
      · obtain ⟨chars, -, whole⟩ := readStringValue_eq_some string
        omega
      · exact (ih.readMember.readBracketed '}' '{' inner).1
      · exact (ih.readBracketed ']' '[' inner).1
      · exact (length_of_readWord word).1.trans space
      · exact (length_of_skipNumber number).trans space

theorem length_lt_of_string {fuel : ℕ} {text rest chars : List Char}
    (read : readValue fuel text = some (.string chars, rest)) : chars.length < text.length := by
  cases fuel with
  | zero => cases read
  | succ fuel =>
      rcases readValue_succ read with string | ⟨members, -, differs⟩ | ⟨items, -, differs⟩ | word |
        ⟨-, differs⟩
      · obtain ⟨_, ⟨⟩, whole⟩ := readStringValue_eq_some string
        omega
      · cases differs
      · cases differs
      · simpa using (length_of_readWord word).2
      · cases differs

/-- **A string in the object of a text is shorter than the text.** -/
theorem length_lt_of_member {text name chars : List Char} {members : List (List Char × Value)}
    (parsed : parse text = some (.object members)) (mem : (name, .string chars) ∈ members) :
    chars.length < text.length := by
  simp only [parse, Option.bind_eq_bind, Option.bind_eq_some_iff] at parsed
  obtain ⟨⟨value, rest⟩, read, parsed⟩ := parsed
  dsimp only at parsed
  split_ifs at parsed
  obtain rfl := Option.some.inj parsed
  rcases readValue_succ read with string | ⟨members, inner, ⟨⟩⟩ | ⟨items, -, differs⟩ | word |
    ⟨-, differs⟩
  · obtain ⟨_, differs, -⟩ := readStringValue_eq_some string
    cases differs
  · have member := (advances_readValue text.length).readMember
    obtain ⟨part, behind, read, short⟩ := (member.readBracketed '}' '{' inner).2 _ mem
    obtain ⟨inside, read, shorter⟩ := readMember_eq_some read
    exact (length_lt_of_string read).trans_le (shorter.trans short)
  · cases differs
  · simpa using (length_of_readWord word).2
  · cases differs

end JsonText
