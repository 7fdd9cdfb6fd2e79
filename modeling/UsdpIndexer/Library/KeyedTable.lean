import Mathlib.Data.List.Nodup
import Mathlib.Data.List.Sublists

/-!
# Keyed tables

A relational table with a uniqueness constraint, as a list of rows together
with the function `key` that reads the constrained columns off a row.  Two
statements write to such a table:

* `insertNew` — `INSERT … ON CONFLICT (key) DO NOTHING RETURNING …`.  The rows
  that the statement reports back are `fresh`, so the table afterwards is the
  old table followed by what was returned.  A batch may carry one key twice;
  the second row is skipped like any other conflict.
* `upsert` — `INSERT … ON CONFLICT (key) DO UPDATE`, with `merge old new` the
  row that replaces the conflicting one.

`Unique` is the constraint itself.  Both statements keep it, and every
membership question about the result is answered by a key question about the
operands, so that later proofs never unfold the recursion.
-/

namespace KeyedTable

universe u v

variable {Row : Type u} {Key : Type v} (key : Row → Key)

/-- The uniqueness constraint: no two rows carry one key. -/
def Unique (table : List Row) : Prop := (table.map key).Nodup

@[simp] theorem unique_nil : Unique key [] := List.nodup_nil

/-- Under the constraint a row is determined by its key. -/
theorem Unique.eq_of_key_eq {table : List Row} (unique : Unique key table)
    {row row' : Row} (mem : row ∈ table) (mem' : row' ∈ table)
    (equal : key row = key row') : row = row' :=
  List.inj_on_of_nodup_map unique mem mem' equal

/-- Under the constraint the rows with a given key are one row or none. -/
theorem Unique.countP_key_eq_one [DecidableEq Key] {table : List Row}
    (unique : Unique key table) {row : Row} (mem : row ∈ table) :
    table.countP (fun other => key other = key row) = 1 := by
  have counted : (table.map key).count (key row) = 1 :=
    List.count_eq_one_of_mem unique (List.mem_map_of_mem mem)
  rw [List.count, List.countP_map] at counted
  simpa only [Function.comp_def, beq_eq_decide] using counted

/-! ## Inserting what is not there yet -/

section InsertNew

variable [DecidableEq Key]

/-- The rows an insert that ignores conflicts adds, in order: a row is skipped
when its key is in the table, or was added earlier by the same statement. -/
def fresh (table : List Row) : List Row → List Row
  | [] => []
  | row :: rows =>
      if key row ∈ table.map key then fresh table rows
      else row :: fresh (table ++ [row]) rows

/-- The table after an insert that ignores conflicts. -/
def insertNew (table rows : List Row) : List Row :=
  table ++ fresh key table rows

@[simp] theorem fresh_nil (table : List Row) : fresh key table [] = [] := rfl

theorem fresh_cons_of_mem {table : List Row} {row : Row} (rows : List Row)
    (mem : key row ∈ table.map key) :
    fresh key table (row :: rows) = fresh key table rows := by
  rw [fresh, if_pos mem]

theorem fresh_cons_of_notMem {table : List Row} {row : Row} (rows : List Row)
    (notMem : key row ∉ table.map key) :
    fresh key table (row :: rows) = row :: fresh key (table ++ [row]) rows := by
  rw [fresh, if_neg notMem]

@[simp] theorem mem_insertNew {table rows : List Row} {row : Row} :
    row ∈ insertNew key table rows ↔ row ∈ table ∨ row ∈ fresh key table rows :=
  List.mem_append

/-- Nothing is added where every key is there already. -/
theorem insertNew_eq_self {table rows : List Row}
    (stored : ∀ row ∈ rows, key row ∈ table.map key) : insertNew key table rows = table := by
  induction rows with
  | nil => rw [insertNew, fresh_nil, List.append_nil]
  | cons row rows ih =>
      rw [insertNew, fresh_cons_of_mem key rows (stored row List.mem_cons_self)]
      exact ih fun row' mem => stored row' (List.mem_cons_of_mem _ mem)

/-- What an insert adds is a selection of what it was given, in that order. -/
theorem fresh_sublist (rows : List Row) :
    ∀ table : List Row, (fresh key table rows).Sublist rows := by
  induction rows with
  | nil => intro table; exact List.Sublist.refl []
  | cons row rows ih =>
      intro table
      by_cases mem : key row ∈ table.map key
      · rw [fresh_cons_of_mem key rows mem]
        exact (ih table).cons row
      · rw [fresh_cons_of_notMem key rows mem]
        exact (ih (table ++ [row])).cons_cons row

theorem mem_of_mem_fresh {table rows : List Row} {row : Row}
    (mem : row ∈ fresh key table rows) : row ∈ rows :=
  (fresh_sublist key rows table).subset mem

/-- Inserting keeps the constraint. -/
theorem unique_insertNew (rows : List Row) :
    ∀ table : List Row, Unique key table → Unique key (insertNew key table rows) := by
  induction rows with
  | nil => intro table unique; simpa [insertNew] using unique
  | cons row rows ih =>
      intro table unique
      by_cases mem : key row ∈ table.map key
      · simpa only [insertNew, fresh_cons_of_mem key rows mem] using ih table unique
      · have extended : Unique key (table ++ [row]) := by
          rw [Unique, List.map_append, List.nodup_append]
          refine ⟨unique, by simp, ?_⟩
          rintro k hk k' hk' rfl
          simp only [List.map_cons, List.map_nil, List.mem_singleton] at hk'
          exact mem (hk' ▸ hk)
        have := ih (table ++ [row]) extended
        simpa only [insertNew, fresh_cons_of_notMem key rows mem, List.append_assoc,
          List.singleton_append] using this

/-- Every row the statement was given has its key in the table afterwards. -/
theorem key_mem_insertNew {row : Row} (rows : List Row) :
    ∀ table : List Row, row ∈ rows → key row ∈ (insertNew key table rows).map key := by
  induction rows with
  | nil => intro table mem; simp at mem
  | cons head rows ih =>
      intro table mem
      by_cases conflict : key head ∈ table.map key
      · rw [insertNew, fresh_cons_of_mem key rows conflict]
        rcases List.mem_cons.mp mem with rfl | mem
        · rw [List.map_append]
          exact List.mem_append_left _ conflict
        · exact ih table mem
      · have step := fresh_cons_of_notMem key rows conflict
        rcases List.mem_cons.mp mem with rfl | mem
        · rw [insertNew, step]
          simp
        · have := ih (table ++ [head]) mem
          rw [insertNew] at this ⊢
          rw [step]
          simpa using this

/-- The keys an insert adds are those that were not there. -/
theorem key_mem_fresh {k : Key} (rows : List Row) :
    ∀ table : List Row, k ∈ (fresh key table rows).map key
      ↔ k ∈ rows.map key ∧ k ∉ table.map key := by
  induction rows with
  | nil => intro table; simp
  | cons row rows ih =>
      intro table
      by_cases mem : key row ∈ table.map key
      · rw [fresh_cons_of_mem key rows mem, ih table, List.map_cons, List.mem_cons]
        refine and_congr_left fun notMem => ?_
        have other : k ≠ key row := by
          rintro rfl
          exact notMem mem
        rw [or_iff_right other]
      · rw [fresh_cons_of_notMem key rows mem, List.map_cons, List.map_cons, List.mem_cons,
          List.mem_cons, ih (table ++ [row]), List.map_append, List.mem_append, List.map_singleton,
          List.mem_singleton, not_or]
        by_cases same : k = key row
        · subst same
          simp [mem]
        · simp [same]

/-- Nothing is skipped exactly if the keys are new and distinct. -/
theorem fresh_eq_self_iff (rows : List Row) :
    ∀ table : List Row, fresh key table rows = rows
      ↔ (rows.map key).Nodup ∧ ∀ row ∈ rows, key row ∉ table.map key := by
  induction rows with
  | nil => intro table; simp
  | cons row rows ih =>
      intro table
      by_cases mem : key row ∈ table.map key
      · rw [fresh_cons_of_mem key rows mem]
        constructor
        · intro same
          have shorter := (fresh_sublist key rows table).length_le
          rw [same, List.length_cons] at shorter
          omega
        · rintro ⟨-, new⟩
          exact absurd mem (new row List.mem_cons_self)
      · rw [fresh_cons_of_notMem key rows mem, List.cons.injEq, and_iff_right rfl,
          ih (table ++ [row]), List.map_cons, List.nodup_cons, List.forall_mem_cons]
        simp only [List.map_append, List.map_cons, List.map_nil, List.mem_append,
          List.mem_singleton, not_or]
        constructor
        · rintro ⟨distinct, new⟩
          refine ⟨⟨?_, distinct⟩, mem, fun other hother => (new other hother).1⟩
          intro again
          obtain ⟨other, hother, same⟩ := List.mem_map.mp again
          exact (new other hother).2 same
        · rintro ⟨⟨notAgain, distinct⟩, -, new⟩
          refine ⟨distinct, fun other hother => ⟨new other hother, fun same => notAgain ?_⟩⟩
          exact same ▸ List.mem_map_of_mem hother

theorem length_fresh_eq_iff {table rows : List Row} :
    (fresh key table rows).length = rows.length
      ↔ (rows.map key).Nodup ∧ ∀ row ∈ rows, key row ∉ table.map key := by
  rw [← fresh_eq_self_iff]
  constructor
  · exact (fresh_sublist key rows table).eq_of_length
  · intro same
    rw [same]

/-- An insert does not see columns that are not constrained. -/
theorem insertNew_map {Row' : Type u} {key' : Row' → Key} {f : Row → Row'}
    (same : ∀ row, key' (f row) = key row) (rows : List Row) :
    ∀ table : List Row, insertNew key' (table.map f) (rows.map f) = (insertNew key table rows).map f
    := by
  have keys (table : List Row) : (table.map f).map key' = table.map key := by
    rw [List.map_map]
    exact List.map_congr_left fun row _ => same row
  induction rows with
  | nil => intro table; simp [insertNew]
  | cons row rows ih =>
      intro table
      by_cases mem : key row ∈ table.map key
      · rw [List.map_cons, insertNew, insertNew, fresh_cons_of_mem key rows mem,
          fresh_cons_of_mem key' _ (by rw [keys, same]; exact mem)]
        exact ih table
      · have added := ih (table ++ [row])
        rw [insertNew, insertNew, List.map_append, List.append_assoc, List.map_singleton,
          List.singleton_append] at added
        rw [List.map_cons, insertNew, insertNew, fresh_cons_of_notMem key rows mem,
          fresh_cons_of_notMem key' _ (by rw [keys, same]; exact mem), added, List.append_assoc,
          List.singleton_append]

/-- A key of the table afterwards was there before or was inserted. -/
theorem exists_row_of_mem_insertNew (table : List Row) {rows : List Row} {row : Row}
    (mem : row ∈ rows) :
    ∃ stored ∈ insertNew key table rows, key stored = key row := by
  have := key_mem_insertNew key rows table mem
  simpa [eq_comm] using List.mem_map.mp this

end InsertNew

/-! ## Replacing on conflict -/

section Upsert

variable [DecidableEq Key]

/-- `INSERT … ON CONFLICT (key) DO UPDATE`, one row: the conflicting row `old`
becomes `merge old row`; without a conflict the row is appended. -/
def upsert (merge : Row → Row → Row) (table : List Row) (row : Row) : List Row :=
  if key row ∈ table.map key then
    table.map fun old => if key old = key row then merge old row else old
  else table ++ [row]

/-- The row stored under a key. -/
def lookup (table : List Row) (k : Key) : Option Row :=
  table.find? fun row => key row = k

theorem key_eq_of_lookup {table : List Row} {k : Key} {row : Row}
    (found : lookup key table k = some row) : key row = k := by
  simpa using List.find?_some found

theorem mem_of_lookup {table : List Row} {k : Key} {row : Row}
    (found : lookup key table k = some row) : row ∈ table :=
  List.mem_of_find?_eq_some found

theorem lookup_eq_none_iff {table : List Row} {k : Key} :
    lookup key table k = none ↔ k ∉ table.map key := by
  simp [lookup, List.find?_eq_none]

/-- A change of the rows that keeps their keys. -/
theorem lookup_map {f : Row → Row} (same : ∀ row, key (f row) = key row) (table : List Row)
    (k : Key) : lookup key (table.map f) k = (lookup key table k).map f := by
  rw [lookup, lookup, List.find?_map]
  congr 2
  funext row
  rw [Function.comp_apply, same]

/-- What is looked up is found once for each key exactly if no key of the table is looked up
twice; `number` is another column that identifies a row. -/
theorem nodup_filterMap_lookup {α Number : Type*} {table : List Row} {number : Row → Number}
    (numbered : (table.map number).Nodup) (k : α → Key) (l : List α) :
    (l.filterMap fun a => (lookup key table (k a)).map number).Nodup
      ↔ ((l.filter fun a => k a ∈ table.map key).map k).Nodup := by
  induction l with
  | nil => simp
  | cons a l ih =>
      cases found : lookup key table (k a) with
      | none =>
          have absent := (lookup_eq_none_iff key).mp found
          rw [List.filterMap_cons_none (by rw [found]; rfl), ih,
            List.filter_cons_of_neg (by simpa using absent)]
      | some row =>
          have mem := mem_of_lookup key found
          have same := key_eq_of_lookup key found
          have stored : k a ∈ table.map key := same ▸ List.mem_map_of_mem mem
          rw [List.filterMap_cons_some (by rw [found]; rfl), List.nodup_cons, ih,
            List.filter_cons_of_pos (by simpa using stored), List.map_cons, List.nodup_cons]
          refine and_congr_left fun _ => not_congr ?_
          simp only [List.mem_filterMap, Option.map_eq_some_iff, List.mem_map, List.mem_filter,
            decide_eq_true_eq]
          constructor
          · rintro ⟨b, hb, row', found', equal⟩
            have mem' := mem_of_lookup key found'
            obtain rfl := List.inj_on_of_nodup_map numbered mem' mem equal
            have same' := key_eq_of_lookup key found'
            exact ⟨b, ⟨hb, row', mem', same'⟩, same'.symm.trans same⟩
          · rintro ⟨b, ⟨hb, -⟩, equal⟩
            exact ⟨b, hb, row, by rw [equal, found], rfl⟩

variable (merge : Row → Row → Row)

/-- What an upsert leaves under the key it wrote. -/
theorem lookup_upsert_self (table : List Row) (row : Row)
    (hmerge : ∀ old, key old = key row → key (merge old row) = key row) :
    lookup key (upsert key merge table row) (key row)
      = some (((lookup key table (key row)).map (merge · row)).getD row) := by
  by_cases mem : key row ∈ table.map key
  · rw [upsert, if_pos mem, lookup, List.find?_map]
    have same : ((fun old => decide (key old = key row)) ∘
        fun old => if key old = key row then merge old row else old)
        = fun old => decide (key old = key row) := by
      funext old
      by_cases equal : key old = key row <;> simp [equal, hmerge]
    rw [same]
    cases found : table.find? fun old => decide (key old = key row) with
    | none => exact absurd mem ((lookup_eq_none_iff key).mp found)
    | some old =>
        have equal : key old = key row := key_eq_of_lookup key found
        simp [lookup, found, equal]
  · have absent : lookup key table (key row) = none :=
      (lookup_eq_none_iff key).mpr mem
    rw [upsert, if_neg mem, absent]
    rw [lookup] at absent ⊢
    rw [List.find?_append, absent]
    simp

/-- An upsert leaves every other key alone. -/
theorem lookup_upsert_of_ne (table : List Row) {row : Row} {k : Key}
    (hmerge : ∀ old, key old = key row → key (merge old row) = key row)
    (ne : k ≠ key row) :
    lookup key (upsert key merge table row) k = lookup key table k := by
  by_cases mem : key row ∈ table.map key
  · rw [upsert, if_pos mem, lookup, List.find?_map, lookup]
    have same : ((fun old => decide (key old = k)) ∘
        fun old => if key old = key row then merge old row else old)
        = fun old => decide (key old = k) := by
      funext old
      by_cases equal : key old = key row <;> simp [equal, hmerge, ne.symm]
    rw [same]
    cases found : table.find? fun old => decide (key old = k) with
    | none => rfl
    | some old =>
        have equal : key old = k := key_eq_of_lookup key found
        simp [equal, ne]
  · rw [upsert, if_neg mem, lookup, List.find?_append, lookup]
    simp [ne.symm]

theorem map_key_upsert (table : List Row) (row : Row)
    (hmerge : ∀ old, key old = key row → key (merge old row) = key row) :
    (upsert key merge table row).map key
      = if key row ∈ table.map key then table.map key
        else table.map key ++ [key row] := by
  by_cases mem : key row ∈ table.map key
  · rw [upsert, if_pos mem, if_pos mem, List.map_map]
    refine List.map_congr_left fun old _ => ?_
    by_cases equal : key old = key row <;> simp [equal, hmerge]
  · rw [upsert, if_neg mem, if_neg mem]
    simp

/-- An upsert keeps the constraint. -/
theorem unique_upsert {table : List Row} (row : Row) (unique : Unique key table)
    (hmerge : ∀ old, key old = key row → key (merge old row) = key row) :
    Unique key (upsert key merge table row) := by
  rw [Unique, map_key_upsert key merge table row hmerge]
  split
  · exact unique
  · rename_i notMem
    rw [List.nodup_append]
    refine ⟨unique, by simp, ?_⟩
    rintro k hk k' hk' rfl
    rw [List.mem_singleton] at hk'
    exact notMem (hk' ▸ hk)

/-- An upsert that overwrites the whole row: afterwards the table holds the new
row and the old rows under other keys. -/
theorem mem_upsert_replace {table : List Row} {row other : Row} :
    other ∈ upsert key (fun _ new => new) table row
      ↔ other = row ∨ (other ∈ table ∧ key other ≠ key row) := by
  by_cases mem : key row ∈ table.map key
  · rw [upsert, if_pos mem, List.mem_map]
    constructor
    · rintro ⟨old, hold, rfl⟩
      by_cases equal : key old = key row
      · simp [equal]
      · simp [equal, hold]
    · rintro (rfl | ⟨hother, ne⟩)
      · obtain ⟨old, hold, equal⟩ := List.mem_map.mp mem
        exact ⟨old, hold, by simp [equal]⟩
      · exact ⟨other, hother, by simp [ne]⟩
  · rw [upsert, if_neg mem, List.mem_append, List.mem_singleton]
    constructor
    · rintro (hother | rfl)
      · refine Or.inr ⟨hother, fun equal => mem ?_⟩
        exact equal ▸ List.mem_map_of_mem hother
      · exact Or.inl rfl
    · rintro (rfl | ⟨hother, -⟩)
      · exact Or.inr rfl
      · exact Or.inl hother

/-- Where the replaced row was: an upsert with a conflict changes one place. -/
theorem exists_upsert_of_lookup {table : List Row} (unique : Unique key table) {row old : Row}
    (found : lookup key table (key row) = some old) :
    ∃ front back, table = front ++ old :: back ∧
      upsert key (fun _ new => new) table row = front ++ row :: back := by
  have mem : key row ∈ table.map key := by
    by_contra absent
    rw [(lookup_eq_none_iff key).mpr absent] at found
    cases found
  have same := key_eq_of_lookup key found
  obtain ⟨front, back, rfl⟩ := List.append_of_mem (mem_of_lookup key found)
  refine ⟨front, back, rfl, ?_⟩
  rw [Unique, List.map_append, List.map_cons, List.nodup_append, List.nodup_cons] at unique
  obtain ⟨-, ⟨notBack, -⟩, apart⟩ := unique
  have others (part : List Row) (ne : ∀ other ∈ part, key other ≠ key row) :
      part.map (fun other => if key other = key row then row else other) = part := by
    conv_rhs => rw [← List.map_id part]
    exact List.map_congr_left fun other hother => if_neg (ne other hother)
  have inFront : ∀ other ∈ front, key other ≠ key row := fun other hother =>
    same ▸ apart _ (List.mem_map_of_mem hother) _ List.mem_cons_self
  have inBack : ∀ other ∈ back, key other ≠ key row := fun other hother equal =>
    notBack (same ▸ equal ▸ List.mem_map_of_mem hother)
  rw [upsert, if_pos mem, List.map_append, List.map_cons, if_pos same, others front inFront,
    others back inBack]

theorem upsert_of_lookup_none {table : List Row} {row : Row}
    (absent : lookup key table (key row) = none) :
    upsert key merge table row = table ++ [row] := by
  rw [upsert, if_neg ((lookup_eq_none_iff key).mp absent)]

/-- Upserting a whole batch, row after row. -/
def upsertAll (table rows : List Row) : List Row :=
  rows.foldl (upsert key fun _ new => new) table

theorem unique_upsertAll (rows : List Row) :
    ∀ table : List Row, Unique key table → Unique key (upsertAll key table rows) := by
  induction rows with
  | nil => intro table unique; exact unique
  | cons row rows ih =>
      intro table unique
      exact ih _ (unique_upsert key _ row unique fun _ _ => rfl)

/-- After a batch of distinct keys the table holds exactly the batch and the
old rows whose key the batch does not mention. -/
theorem mem_upsertAll {other : Row} (rows : List Row) :
    ∀ table : List Row, Unique key rows →
      (other ∈ upsertAll key table rows
        ↔ other ∈ rows ∨ (other ∈ table ∧ key other ∉ rows.map key)) := by
  induction rows with
  | nil => intro table _; simp [upsertAll]
  | cons row rows ih =>
      intro table unique
      rw [Unique, List.map_cons, List.nodup_cons] at unique
      have step := ih (upsert key (fun _ new => new) table row) unique.2
      rw [upsertAll, List.foldl_cons, ← upsertAll, step, mem_upsert_replace]
      have separate : ∀ later ∈ rows, key later ≠ key row := fun later hlater equal =>
        unique.1 (equal ▸ List.mem_map_of_mem hlater)
      simp only [List.mem_cons, List.map_cons, not_or]
      constructor
      · rintro (later | ⟨rfl | ⟨old, ne⟩, notMem⟩)
        · exact Or.inl (Or.inr later)
        · exact Or.inl (Or.inl rfl)
        · exact Or.inr ⟨old, ne, notMem⟩
      · rintro ((rfl | later) | ⟨old, ne, notMem⟩)
        · exact Or.inr ⟨Or.inl rfl, unique.1⟩
        · exact Or.inl later
        · exact Or.inr ⟨Or.inr ⟨old, ne⟩, notMem⟩

/-- The keys after a batch of distinct keys. -/
theorem key_mem_upsertAll {table rows : List Row} (unique : Unique key rows) {k : Key} :
    k ∈ (upsertAll key table rows).map key ↔ k ∈ table.map key ∨ k ∈ rows.map key := by
  simp only [List.mem_map, mem_upsertAll key rows table unique]
  constructor
  · rintro ⟨row, mem | ⟨mem, -⟩, rfl⟩
    · exact Or.inr ⟨row, mem, rfl⟩
    · exact Or.inl ⟨row, mem, rfl⟩
  · rintro (⟨row, mem, rfl⟩ | ⟨row, mem, rfl⟩)
    · by_cases mentioned : key row ∈ rows.map key
      · obtain ⟨new, hnew, same⟩ := List.mem_map.mp mentioned
        exact ⟨new, Or.inl hnew, same⟩
      · exact ⟨row, Or.inr ⟨mem, fun found => mentioned (List.mem_map.mpr found)⟩, rfl⟩
    · exact ⟨row, Or.inl mem, rfl⟩

/-! ## Tables that grow -/

/-- What is found in the one table is found in the other. -/
def Extends (table table' : List Row) : Prop :=
  ∀ ⦃k : Key⦄ ⦃row : Row⦄, lookup key table k = some row → lookup key table' k = some row

theorem Extends.refl (table : List Row) : Extends key table table := fun _ _ found => found

variable {key} in
theorem Extends.trans {table table' table'' : List Row} (first : Extends key table table')
    (second : Extends key table' table'') : Extends key table table'' :=
  fun _ _ found => second (first found)

/-- What is found after an insert was found before it, or is the first of the new rows. -/
theorem lookup_insertNew (rows : List Row) (k : Key) : ∀ table : List Row,
    lookup key (insertNew key table rows) k
      = (lookup key table k).or (lookup key rows k) := by
  induction rows with
  | nil => intro table; simp [insertNew, lookup]
  | cons row rows ih =>
      intro table
      by_cases mem : key row ∈ table.map key
      · have skipped : insertNew key table (row :: rows) = insertNew key table rows := by
          rw [insertNew, insertNew, fresh_cons_of_mem key rows mem]
        rw [skipped, ih table]
        cases found : lookup key table k with
        | some stored => rfl
        | none =>
            -- the row that was skipped is not the one that is looked for
            have other : key row ≠ k := by
              rintro rfl
              exact (lookup_eq_none_iff key).mp found mem
            rw [Option.none_or, Option.none_or, lookup, lookup, List.find?_cons_of_neg]
            simpa using other
      · have added : insertNew key table (row :: rows) = insertNew key (table ++ [row]) rows := by
          rw [insertNew, insertNew, fresh_cons_of_notMem key rows mem, List.append_assoc,
            List.singleton_append]
        have split : lookup key (table ++ [row]) k = (lookup key table k).or (lookup key [row] k) :=
          List.find?_append
        have front : lookup key (row :: rows) k = (lookup key [row] k).or (lookup key rows k) := by
          rw [← List.singleton_append]
          exact List.find?_append
        rw [added, ih (table ++ [row]), split, front, Option.or_assoc]

theorem extends_insertNew (table rows : List Row) :
    Extends key table (insertNew key table rows) := by
  intro k row found
  rw [lookup_insertNew, found, Option.some_or]

/-- After a batch, the last row of the batch under a key is found, or else the old one. -/
theorem lookup_upsertAll (rows : List Row) (k : Key) : ∀ table : List Row,
    lookup key (upsertAll key table rows) k
      = (lookup key rows.reverse k).or (lookup key table k) := by
  induction rows with
  | nil => intro table; rfl
  | cons row rows ih =>
      intro table
      have first : lookup key (upsert key (fun _ new => new) table row) k
          = (lookup key [row] k).or (lookup key table k) := by
        by_cases same : key row = k
        · subst same
          have alone : lookup key [row] (key row) = some row :=
            List.find?_cons_of_pos (decide_eq_true rfl)
          rw [lookup_upsert_self key _ table row fun _ _ => rfl, alone]
          cases lookup key table (key row) <;> rfl
        · rw [lookup_upsert_of_ne key _ table (fun _ _ => rfl) (Ne.symm same),
            lookup.eq_1 key [row], List.find?_cons_of_neg (by simpa using same)]
          exact (Option.none_or).symm
      have last : lookup key (rows.reverse ++ [row]) k
          = (lookup key rows.reverse k).or (lookup key [row] k) := List.find?_append
      show lookup key (upsertAll key (upsert key (fun _ new => new) table row) rows) k = _
      rw [ih, first, List.reverse_cons, last, Option.or_assoc]

theorem upsertAll_append (table rows rows' : List Row) :
    upsertAll key table (rows ++ rows') = upsertAll key (upsertAll key table rows) rows' := by
  simp [upsertAll]

end Upsert

end KeyedTable
