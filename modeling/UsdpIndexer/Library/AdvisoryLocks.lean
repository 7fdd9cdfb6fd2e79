import Mathlib.Data.List.Nodup

/-!
# Advisory locks

The session-level locks of a database server.  `tryLock` grants a key to a session unless
another session holds it, and never waits; `unlock` gives a key back, and `endSession` gives
back all that a session holds, whether the client has asked for that or is just gone.

That no two sessions hold one key is part of the table (`LockTable.exclusive`).  Grants stack: a
session that has been granted a key twice holds it until it has unlocked it twice.  Where no
grant is stacked (`Single`), one `unlock` is enough.
-/

namespace AdvisoryLocks

universe u v

/-- Who holds which key, once for each time it was granted. -/
@[ext] structure LockTable (Key : Type u) (Session : Type v) where
  held : List (Key × Session)
  exclusive : ∀ a ∈ held, ∀ b ∈ held, a.1 = b.1 → a.2 = b.2

namespace LockTable

variable {Key : Type u} {Session : Type v}

/-- No lock is held. -/
def empty : LockTable Key Session := ⟨[], fun _ mem => absurd mem List.not_mem_nil⟩

/-- The session holds the key. -/
def Holds (table : LockTable Key Session) (session : Session) (key : Key) : Prop :=
  (key, session) ∈ table.held

/-- No session but this one holds the key. -/
def Free (table : LockTable Key Session) (session : Session) (key : Key) : Prop :=
  ∀ row ∈ table.held, row.1 = key → row.2 = session

/-- No session has been granted a key twice. -/
def Single (table : LockTable Key Session) : Prop := table.held.Nodup

@[simp] theorem not_holds_empty (session : Session) (key : Key) :
    ¬ (empty : LockTable Key Session).Holds session key :=
  List.not_mem_nil

@[simp] theorem single_empty : (empty : LockTable Key Session).Single := List.nodup_nil

/-- **Two sessions that hold one key are the same session.** -/
theorem Holds.session_eq {table : LockTable Key Session} {session session' : Session} {key : Key}
    (holds : table.Holds session key) (holds' : table.Holds session' key) : session = session' :=
  table.exclusive (key, session) holds (key, session') holds' rfl

/-- A key is denied exactly if somebody else holds it. -/
theorem not_free_iff {table : LockTable Key Session} {session : Session} {key : Key} :
    ¬ table.Free session key ↔ ∃ other, other ≠ session ∧ table.Holds other key := by
  constructor
  · intro taken
    by_contra nobody
    refine taken fun row mem same => ?_
    by_contra different
    refine nobody ⟨row.2, different, ?_⟩
    rw [Holds, ← same]
    exact mem
  · rintro ⟨other, different, holds⟩ free
    exact different (free (key, other) holds rfl)

/-- `pg_try_advisory_lock`, where it is granted. -/
def grant (table : LockTable Key Session) (session : Session) (key : Key)
    (free : table.Free session key) : LockTable Key Session where
  held := (key, session) :: table.held
  exclusive := by
    intro a ha b hb same
    rcases List.mem_cons.mp ha with rfl | olda
    · rcases List.mem_cons.mp hb with rfl | oldb
      · rfl
      · exact (free b oldb same.symm).symm
    · rcases List.mem_cons.mp hb with rfl | oldb
      · exact free a olda same
      · exact table.exclusive a olda b oldb same

/-- Some rows of a table. -/
def restrict (table : LockTable Key Session) (held : List (Key × Session))
    (sub : ∀ row ∈ held, row ∈ table.held) : LockTable Key Session where
  held := held
  exclusive := fun a ha b hb => table.exclusive a (sub a ha) b (sub b hb)

section Statements

variable [DecidableEq Session]

/-- What the server does when a session ends, for whatever reason. -/
def endSession (table : LockTable Key Session) (session : Session) : LockTable Key Session :=
  table.restrict (table.held.filter fun row => row.2 ≠ session)
    fun _ mem => (List.mem_filter.mp mem).1

@[simp] theorem holds_endSession {table : LockTable Key Session} {session other : Session}
    {key : Key} :
    (table.endSession session).Holds other key ↔ table.Holds other key ∧ other ≠ session := by
  simp only [Holds, endSession, restrict, List.mem_filter, ne_eq, decide_eq_true_eq]

theorem Single.endSession {table : LockTable Key Session} (single : table.Single)
    (session : Session) : (table.endSession session).Single :=
  List.Nodup.filter _ single

variable [DecidableEq Key]

instance (table : LockTable Key Session) (session : Session) (key : Key) :
    Decidable (table.Free session key) :=
  inferInstanceAs (Decidable (∀ row ∈ table.held, row.1 = key → row.2 = session))

/-- `pg_try_advisory_lock`. -/
def tryLock (table : LockTable Key Session) (session : Session) (key : Key) :
    Bool × LockTable Key Session :=
  if free : table.Free session key then (true, table.grant session key free) else (false, table)

/-- `pg_advisory_unlock`, which changes nothing where the key is not held. -/
def unlock (table : LockTable Key Session) (session : Session) (key : Key) :
    LockTable Key Session :=
  table.restrict (table.held.erase (key, session)) fun _ mem => List.mem_of_mem_erase mem

variable {table : LockTable Key Session} {session other : Session} {key key' : Key}

theorem tryLock_of_free (free : table.Free session key) :
    table.tryLock session key = (true, table.grant session key free) := by
  rw [tryLock, dif_pos free]

theorem tryLock_of_not_free (taken : ¬ table.Free session key) :
    table.tryLock session key = (false, table) := by
  rw [tryLock, dif_neg taken]

theorem Single.unlock (single : table.Single) (session : Session) (key : Key) :
    (table.unlock session key).Single :=
  List.Nodup.erase _ single

/-- Where no grant is stacked, what has been unlocked is not held any more. -/
theorem Single.holds_unlock (single : table.Single) :
    (table.unlock session key).Holds other key' ↔
      table.Holds other key' ∧ ¬ (other = session ∧ key' = key) := by
  simp only [Holds, LockTable.unlock, restrict, single.mem_erase_iff, ne_eq, Prod.mk.injEq]
  tauto

end Statements

variable {table : LockTable Key Session} {session other : Session} {key key' : Key}

/-- Who holds what once a key has been granted. -/
@[simp] theorem holds_grant (free : table.Free session key) :
    (table.grant session key free).Holds other key' ↔
      table.Holds other key' ∨ other = session ∧ key' = key := by
  simp only [Holds, grant, List.mem_cons, Prod.mk.injEq]
  tauto

theorem Single.grant (single : table.Single) (free : table.Free session key)
    (fresh : ¬ table.Holds session key) : (table.grant session key free).Single :=
  List.nodup_cons.mpr ⟨fresh, single⟩

end LockTable

end AdvisoryLocks
