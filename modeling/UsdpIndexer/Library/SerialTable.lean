import Mathlib.Data.List.Basic
import Mathlib.Data.List.Nodup
import Mathlib.Order.Lattice

/-!
# Tables that number their rows

A table whose primary key is drawn from a sequence.  The rows are kept with their
numbers, which ascend and lie below the next number of the sequence; that is part of the
type, so a number always stands for one row.  A row that is inserted can be found under
its number from then on (`find?_insert_of_find?`), and rows are changed in place only
(`find?_update`).

`insertOrSelect` is the idiom for reusing a row under a second, unique key: insert unless
there is a conflict, and in case of a conflict read the number of the row that is there.
A conflict has drawn a number all the same.  `upsert` changes that row instead.
-/

universe u v w

/-- Rows with ascending numbers below `next`. -/
structure SerialTable (Row : Type u) where
  rows : List (ℕ × Row)
  next : ℕ
  ascending : rows.Pairwise fun a b => a.1 < b.1
  below : ∀ row ∈ rows, row.1 < next

namespace SerialTable

variable {Row : Type u} {Key : Type v}

/-- No row, and the first id is one. -/
def empty : SerialTable Row := ⟨[], 1, List.Pairwise.nil, fun _ mem => absurd mem List.not_mem_nil⟩

/-- The rows without their numbers. -/
def values (table : SerialTable Row) : List Row := table.rows.map Prod.snd

/-- The row under a number. -/
def find? (table : SerialTable Row) (id : ℕ) : Option Row :=
  (table.rows.find? fun row => row.1 = id).map Prod.snd

/-- Draw a number and use it. -/
def insert (table : SerialTable Row) (row : Row) : SerialTable Row where
  rows := table.rows ++ [(table.next, row)]
  next := table.next + 1
  ascending := by
    rw [List.pairwise_append]
    refine ⟨table.ascending, List.pairwise_singleton _ _, fun a ha b hb => ?_⟩
    rw [List.mem_singleton.mp hb]
    exact table.below a ha
  below := by
    intro other mem
    rcases List.mem_append.mp mem with old | new
    · exact Nat.lt_succ_of_lt (table.below other old)
    · rw [List.mem_singleton.mp new]
      exact Nat.lt_succ_self _

/-- Draw a number and drop it. -/
def skip (table : SerialTable Row) : SerialTable Row :=
  { table with
    next := table.next + 1
    below := fun row mem => Nat.lt_succ_of_lt (table.below row mem) }

/-- Change rows in place. -/
def update (table : SerialTable Row) (change : ℕ → Row → Row) : SerialTable Row where
  rows := table.rows.map fun row => (row.1, change row.1 row.2)
  next := table.next
  ascending := by
    rw [List.pairwise_map]
    exact table.ascending
  below := by
    intro row mem
    obtain ⟨old, hold, rfl⟩ := List.mem_map.mp mem
    exact table.below old hold

@[simp] theorem rows_skip (table : SerialTable Row) : table.skip.rows = table.rows := rfl

@[simp] theorem rows_insert (table : SerialTable Row) (row : Row) :
    (table.insert row).rows = table.rows ++ [(table.next, row)] := rfl

@[simp] theorem values_insert (table : SerialTable Row) (row : Row) :
    (table.insert row).values = table.values ++ [row] := by
  simp [values]

theorem nodup_ids (table : SerialTable Row) : (table.rows.map Prod.fst).Nodup := by
  rw [List.Nodup, List.pairwise_map]
  exact table.ascending.imp Nat.ne_of_lt

/-- A number stands for one row. -/
theorem find?_eq_some_iff {table : SerialTable Row} {id : ℕ} {row : Row} :
    table.find? id = some row ↔ (id, row) ∈ table.rows := by
  rw [find?, Option.map_eq_some_iff]
  constructor
  · rintro ⟨⟨i, r⟩, hit, rfl⟩
    obtain rfl : i = id := by simpa using List.find?_some hit
    exact List.mem_of_find?_eq_some hit
  · intro mem
    obtain ⟨other, hit⟩ : ∃ other, (table.rows.find? fun row => row.1 = id) = some other := by
      rw [← Option.isSome_iff_exists, List.find?_isSome]
      exact ⟨_, mem, decide_eq_true rfl⟩
    have same : other.1 = id := by simpa using List.find?_some hit
    have equal := List.inj_on_of_nodup_map table.nodup_ids (List.mem_of_find?_eq_some hit) mem same
    exact ⟨other, hit, by rw [equal]⟩

@[simp] theorem find?_skip (table : SerialTable Row) (id : ℕ) :
    table.skip.find? id = table.find? id := rfl

@[simp] theorem find?_insert_self (table : SerialTable Row) (row : Row) :
    (table.insert row).find? table.next = some row := by
  rw [find?_eq_some_iff, rows_insert]
  exact List.mem_append_right _ (List.mem_singleton_self _)

/-- What is there stays there. -/
theorem find?_insert_of_find? {table : SerialTable Row} {id : ℕ} {stored : Row}
    (found : table.find? id = some stored) (row : Row) :
    (table.insert row).find? id = some stored := by
  rw [find?_eq_some_iff] at found ⊢
  exact List.mem_append_left _ found

theorem find?_insert_of_ne {table : SerialTable Row} {id : ℕ} (other : id ≠ table.next)
    (row : Row) : (table.insert row).find? id = table.find? id := by
  rw [find?, find?, rows_insert, List.find?_append, List.find?_singleton]
  simp [Ne.symm other]

theorem lt_next_of_find? {table : SerialTable Row} {id : ℕ} {row : Row}
    (found : table.find? id = some row) : id < table.next :=
  table.below _ (find?_eq_some_iff.mp found)

/-- What holds of every row after an insertion holds of the rows before and of the new one. -/
theorem forall_find?_insert_iff {table : SerialTable Row} {row : Row} {p : ℕ → Row → Prop} :
    (∀ id stored, (table.insert row).find? id = some stored → p id stored)
      ↔ (∀ id stored, table.find? id = some stored → p id stored) ∧ p table.next row := by
  constructor
  · intro all
    exact ⟨fun id stored found => all id stored (find?_insert_of_find? found row),
      all table.next row (find?_insert_self table row)⟩
  · rintro ⟨old, new⟩ id stored found
    by_cases same : id = table.next
    · subst same
      rw [find?_insert_self] at found
      obtain rfl := Option.some.inj found
      exact new
    · rw [find?_insert_of_ne same] at found
      exact old id stored found

@[simp] theorem find?_update (table : SerialTable Row) (change : ℕ → Row → Row) (id : ℕ) :
    (table.update change).find? id = (table.find? id).map (change id) := by
  rw [find?, find?, update, List.find?_map, Option.map_map]
  cases hit : table.rows.find? fun row => decide (row.1 = id) with
  | none =>
      show Option.map _ (table.rows.find? fun row => decide (row.1 = id)) = _
      rw [hit]
      rfl
  | some row =>
      have same : row.1 = id := by simpa using List.find?_some hit
      show Option.map _ (table.rows.find? fun row => decide (row.1 = id)) = _
      rw [hit]
      show some (change row.1 row.2) = some (change id row.2)
      rw [same]

/-! ## Tables that grow -/

/-- Every row of the one table is in the other, under the same number. -/
def Extends (table table' : SerialTable Row) : Prop :=
  ∀ ⦃id : ℕ⦄ ⦃row : Row⦄, table.find? id = some row → table'.find? id = some row

theorem Extends.refl (table : SerialTable Row) : table.Extends table := fun _ _ found => found

theorem Extends.trans {table table' table'' : SerialTable Row} (first : table.Extends table')
    (second : table'.Extends table'') : table.Extends table'' :=
  fun _ _ found => second (first found)

theorem extends_insert (table : SerialTable Row) (row : Row) : table.Extends (table.insert row) :=
  fun _ _ found => find?_insert_of_find? found row

theorem extends_skip (table : SerialTable Row) : table.Extends table.skip :=
  fun _ _ found => found

/-! ## Stamps -/

section Stamps

variable {Stamp : Type w} [LinearOrder Stamp]

/-- The rows have different stamps, all of them before `now`. -/
structure Stamped (stamp : Row → Stamp) (now : Stamp) (table : SerialTable Row) : Prop where
  before : ∀ row ∈ table.rows, stamp row.2 < now
  apart : ∀ a ∈ table.rows, ∀ b ∈ table.rows, stamp a.2 = stamp b.2 → a = b

variable {stamp : Row → Stamp} {now later : Stamp} {table : SerialTable Row}

theorem Stamped.empty : (empty : SerialTable Row).Stamped stamp now where
  before := fun _ mem => absurd mem List.not_mem_nil
  apart := fun _ mem => absurd mem List.not_mem_nil

theorem Stamped.mono (stamped : table.Stamped stamp now) (le : now ≤ later) :
    table.Stamped stamp later where
  before := fun row mem => lt_of_lt_of_le (stamped.before row mem) le
  apart := stamped.apart

/-- One row that is stamped now, beside rows that were there. -/
theorem Stamped.of_mem_rows {table' : SerialTable Row} (stamped : table.Stamped stamp now)
    {new : ℕ × Row} (stampNew : stamp new.2 = now) (lt : now < later)
    (rows : ∀ row ∈ table'.rows, row = new ∨ row ∈ table.rows) : table'.Stamped stamp later where
  before := by
    intro row mem
    rcases rows row mem with rfl | old
    · rwa [stampNew]
    · exact (stamped.before row old).trans lt
  apart := by
    intro a ha b hb same
    rcases rows a ha with rfl | oldA <;> rcases rows b hb with rfl | oldB
    · rfl
    · exact absurd (same.symm.trans stampNew) (ne_of_lt (stamped.before b oldB))
    · exact absurd (same.trans stampNew) (ne_of_lt (stamped.before a oldA))
    · exact stamped.apart a oldA b oldB same

theorem Stamped.insert (stamped : table.Stamped stamp now) {row : Row} (stampNew : stamp row = now)
    (lt : now < later) : (table.insert row).Stamped stamp later := by
  have rows (other : ℕ × Row) (mem : other ∈ (table.insert row).rows) :
      other = (table.next, row) ∨ other ∈ table.rows := by
    rcases List.mem_append.mp mem with old | new
    · exact .inr old
    · exact .inl (List.mem_singleton.mp new)
  exact stamped.of_mem_rows stampNew lt rows

/-- A change that leaves the stamps alone. -/
theorem Stamped.update (stamped : table.Stamped stamp now) {change : ℕ → Row → Row}
    (unstamped : ∀ id row, stamp (change id row) = stamp row) :
    (table.update change).Stamped stamp now where
  before := by
    intro row mem
    obtain ⟨old, hold, rfl⟩ := List.mem_map.mp mem
    rw [unstamped]
    exact stamped.before old hold
  apart := by
    intro a ha b hb same
    obtain ⟨oldA, holdA, rfl⟩ := List.mem_map.mp ha
    obtain ⟨oldB, holdB, rfl⟩ := List.mem_map.mp hb
    rw [unstamped, unstamped] at same
    rw [stamped.apart oldA holdA oldB holdB same]

end Stamps

/-! ## Reusing rows under a second key -/

section Key

variable [DecidableEq Key] (key : Row → Key)

/-- The number of the row under a key. -/
def idOf (table : SerialTable Row) (k : Key) : Option ℕ :=
  (table.rows.find? fun row => key row.2 = k).map Prod.fst

/-- `INSERT … ON CONFLICT (key) DO NOTHING RETURNING id`. -/
def insertNew (table : SerialTable Row) (row : Row) : Option ℕ × SerialTable Row :=
  match table.idOf key (key row) with
  | some _ => (none, table.skip)
  | none => (some table.next, table.insert row)

/-- … and `SELECT id … WHERE key = …` if nothing came back. -/
def insertOrSelect (table : SerialTable Row) (row : Row) : Option ℕ × SerialTable Row :=
  match table.insertNew key row with
  | (some id, inserted) => (some id, inserted)
  | (none, inserted) => (inserted.idOf key (key row), inserted)

/-- Every key stands for one row. -/
def KeyedBy (table : SerialTable Row) : Prop := (table.values.map key).Nodup

variable {key}

theorem find?_of_idOf {table : SerialTable Row} {k : Key} {id : ℕ}
    (found : table.idOf key k = some id) :
    ∃ row, table.find? id = some row ∧ key row = k := by
  obtain ⟨⟨i, row⟩, hit, rfl⟩ := Option.map_eq_some_iff.mp found
  exact ⟨row, find?_eq_some_iff.mpr (List.mem_of_find?_eq_some hit),
    by simpa using List.find?_some hit⟩

theorem idOf_eq_none_iff {table : SerialTable Row} {k : Key} :
    table.idOf key k = none ↔ k ∉ table.values.map key := by
  simp [idOf, values, List.find?_eq_none]

/-- **What `insertOrSelect` comes to**: the row is new and is inserted, or there is a row
under its key already and that row's number is returned. -/
theorem insertOrSelect_spec (key : Row → Key) (table : SerialTable Row) (row : Row) :
    (table.idOf key (key row) = none ∧
      table.insertOrSelect key row = (some table.next, table.insert row)) ∨
    ∃ id stored, table.idOf key (key row) = some id ∧ table.find? id = some stored ∧
      key stored = key row ∧ table.insertOrSelect key row = (some id, table.skip) := by
  rw [insertOrSelect, insertNew]
  cases conflict : table.idOf key (key row) with
  | none => exact .inl ⟨rfl, rfl⟩
  | some id =>
      obtain ⟨stored, found, same⟩ := find?_of_idOf conflict
      exact .inr ⟨id, stored, rfl, found, same, Prod.ext conflict rfl⟩

/-- The number that is returned stands for a row under the key. -/
theorem find?_insertOrSelect (key : Row → Key) (table : SerialTable Row) (row : Row) :
    ∃ id stored, (table.insertOrSelect key row).1 = some id ∧
      (table.insertOrSelect key row).2.find? id = some stored ∧ key stored = key row ∧
      (stored = row ∨ table.find? id = some stored) := by
  rcases insertOrSelect_spec key table row with
    ⟨-, result⟩ | ⟨id, stored, -, found, same, result⟩
  · rw [result]
    exact ⟨table.next, row, rfl, find?_insert_self table row, rfl, .inl rfl⟩
  · rw [result]
    exact ⟨id, stored, rfl, found, same, .inr found⟩

theorem extends_insertOrSelect (key : Row → Key) (table : SerialTable Row) (row : Row) :
    table.Extends (table.insertOrSelect key row).2 := by
  rcases insertOrSelect_spec key table row with ⟨-, result⟩ | ⟨id, stored, -, -, -, result⟩
  · rw [result]
    exact extends_insert table row
  · rw [result]
    exact extends_skip table

/-- Afterwards there are the old rows and perhaps the new one. -/
theorem mem_values_insertOrSelect {table : SerialTable Row} {row other : Row}
    (mem : other ∈ (table.insertOrSelect key row).2.values) :
    other ∈ table.values ∨ other = row := by
  rcases insertOrSelect_spec key table row with
    ⟨-, result⟩ | ⟨id, stored, -, -, -, result⟩
  · rw [result] at mem
    simpa using mem
  · rw [result] at mem
    exact .inl mem

theorem KeyedBy.insertOrSelect {table : SerialTable Row} (keyed : table.KeyedBy key) (row : Row) :
    (table.insertOrSelect key row).2.KeyedBy key := by
  rcases insertOrSelect_spec key table row with
    ⟨absent, result⟩ | ⟨id, stored, -, -, -, result⟩
  · rw [result, KeyedBy, values_insert, List.map_append, List.nodup_append]
    refine ⟨keyed, by simp, ?_⟩
    rintro k hk k' hk' rfl
    rw [List.map_singleton, List.mem_singleton] at hk'
    exact idOf_eq_none_iff.mp absent (hk' ▸ hk)
  · rw [result]
    exact keyed

/-- `INSERT … ON CONFLICT (key) DO UPDATE … RETURNING id`, with `merge old new` the row
that is there afterwards. -/
def upsert (key : Row → Key) (merge : Row → Row → Row) (table : SerialTable Row) (row : Row) :
    ℕ × SerialTable Row :=
  match table.idOf key (key row) with
  | some id => (id, (table.update fun i old => if i = id then merge old row else old).skip)
  | none => (table.next, table.insert row)

/-- **What `upsert` comes to**: a new row, or a change of the one row under the key. -/
theorem upsert_spec (key : Row → Key) (merge : Row → Row → Row) (table : SerialTable Row)
    (row : Row) :
    (table.idOf key (key row) = none ∧
      table.upsert key merge row = (table.next, table.insert row)) ∨
    ∃ id stored, table.idOf key (key row) = some id ∧ table.find? id = some stored ∧
      key stored = key row ∧ table.upsert key merge row
        = (id, (table.update fun i old => if i = id then merge old row else old).skip) := by
  rw [upsert]
  cases conflict : table.idOf key (key row) with
  | none => exact .inl ⟨rfl, rfl⟩
  | some id =>
      obtain ⟨stored, found, same⟩ := find?_of_idOf conflict
      exact .inr ⟨id, stored, rfl, found, same, rfl⟩

/-- The row that an upsert returns the number of. -/
theorem find?_upsert_self (key : Row → Key) (merge : Row → Row → Row) (table : SerialTable Row)
    (row : Row) :
    ∃ written, (table.upsert key merge row).2.find? (table.upsert key merge row).1
        = some written ∧
      (written = row ∨ ∃ stored, table.find? (table.upsert key merge row).1 = some stored ∧
        key stored = key row ∧ written = merge stored row) := by
  rcases upsert_spec key merge table row with ⟨-, result⟩ | ⟨id, stored, -, found, same, result⟩
  · rw [result]
    exact ⟨row, find?_insert_self table row, .inl rfl⟩
  · rw [result]
    exact ⟨merge stored row, by simp [found], .inr ⟨stored, found, same, rfl⟩⟩

/-- The other rows are left alone. -/
theorem find?_upsert_of_ne (key : Row → Key) (merge : Row → Row → Row) (table : SerialTable Row)
    (row : Row) {id : ℕ} (other : id ≠ (table.upsert key merge row).1) :
    (table.upsert key merge row).2.find? id = table.find? id := by
  rcases upsert_spec key merge table row with ⟨-, result⟩ | ⟨i, stored, -, -, -, result⟩
  · rw [result] at other ⊢
    exact find?_insert_of_ne other row
  · rw [result] at other ⊢
    rw [find?_skip, find?_update]
    simp [other]

/-- The rows after an upsert: the one that was written, and the others. -/
theorem mem_rows_upsert {merge : Row → Row → Row} {table : SerialTable Row} {row written : Row}
    (found : (table.upsert key merge row).2.find? (table.upsert key merge row).1 = some written)
    {other : ℕ × Row} :
    other ∈ (table.upsert key merge row).2.rows
      ↔ other = ((table.upsert key merge row).1, written) ∨
        other ∈ table.rows ∧ other.1 ≠ (table.upsert key merge row).1 := by
  obtain ⟨id, stored⟩ := other
  rw [← find?_eq_some_iff]
  by_cases same : id = (table.upsert key merge row).1
  · subst same
    simp [found, eq_comm]
  · rw [find?_upsert_of_ne key merge table row same, find?_eq_some_iff]
    simp [same]

/-! ### Upserts that replace the row under the key -/

section Replace

variable {merge : Row → Row → Row}
  (replaces : ∀ stored row, key stored = key row → merge stored row = row)
include replaces

theorem find?_upsert_replace (table : SerialTable Row) (row : Row) :
    (table.upsert key merge row).2.find? (table.upsert key merge row).1 = some row := by
  obtain ⟨written, found, rfl | ⟨stored, -, same, rfl⟩⟩ := find?_upsert_self key merge table row
  · exact found
  · rw [found, replaces stored row same]

/-- A row that was there is there still, or another one under its key is. -/
theorem exists_find?_upsert_replace {table : SerialTable Row} {row stored : Row} {id : ℕ}
    (found : table.find? id = some stored) :
    ∃ stored', (table.upsert key merge row).2.find? id = some stored' ∧
      key stored' = key stored := by
  by_cases other : id = (table.upsert key merge row).1
  · subst other
    refine ⟨row, find?_upsert_replace replaces table row, ?_⟩
    rcases upsert_spec key merge table row with ⟨-, result⟩ | ⟨i, there, -, found', same, result⟩
    · rw [result] at found
      exact absurd (lt_next_of_find? found) (lt_irrefl _)
    · rw [result] at found
      rw [found', Option.some.injEq] at found
      rw [← found, same]
  · exact ⟨stored, by rw [find?_upsert_of_ne key merge table row other, found], rfl⟩

theorem mem_values_upsert_replace {table : SerialTable Row} {row other : Row}
    (mem : other ∈ (table.upsert key merge row).2.values) : other = row ∨ other ∈ table.values := by
  obtain ⟨⟨id, _⟩, hmem, rfl⟩ := List.mem_map.mp mem
  rcases (mem_rows_upsert (find?_upsert_replace replaces table row)).mp hmem
    with same | ⟨old, -⟩
  · exact .inl (Prod.mk.inj same).2
  · exact .inr (List.mem_map_of_mem old)

end Replace

end Key

theorem mem_values_of_find? {table : SerialTable Row} {id : ℕ} {row : Row}
    (found : table.find? id = some row) : row ∈ table.values :=
  List.mem_map.mpr ⟨_, find?_eq_some_iff.mp found, rfl⟩

/-- What is there after a change has been there before it. -/
theorem mem_values_update {table : SerialTable Row} {change : ℕ → Row → Row} {row : Row}
    (mem : row ∈ (table.update change).values) :
    ∃ id stored, table.find? id = some stored ∧ row = change id stored := by
  obtain ⟨⟨id, _⟩, hmem, rfl⟩ := List.mem_map.mp mem
  obtain ⟨old, hold, same⟩ := List.mem_map.mp hmem
  cases same
  exact ⟨old.1, old.2, find?_eq_some_iff.mpr hold, rfl⟩

end SerialTable
