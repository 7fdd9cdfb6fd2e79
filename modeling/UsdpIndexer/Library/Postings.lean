import Mathlib.Algebra.BigOperators.Group.List.Basic
import Mathlib.Tactic.Abel
import UsdpIndexer.Library.KeyedTable

/-!
# Postings

A ledger as accounting has it: a list of postings, each an amount on an account.
The balance of an account is the sum of its postings (`net`); nothing else is a
state.

A program keeps a table with one row for each account instead and updates the row
at every posting.  `Posted` says that such a table stands for a list of postings:
its keys are the accounts that have been posted to, and each row carries their sum.
One posting keeps the relation (`Posted.post`), the table answers for the balance
(`Posted.lookup`), and over any part of the accounts the rows add up to what has been
posted there (`Posted.sum_eq`), which is the conservation law.
-/

namespace Postings

open KeyedTable hiding Unique

universe u v w

variable {Account : Type u} {Amount : Type v} [DecidableEq Account] [AddCommMonoid Amount]

/-- The balance of an account. -/
def net (postings : List (Account × Amount)) (account : Account) : Amount :=
  ((postings.filter fun posting => posting.1 = account).map Prod.snd).sum

@[simp] theorem net_nil (account : Account) :
    net ([] : List (Account × Amount)) account = 0 := rfl

theorem net_append (postings postings' : List (Account × Amount)) (account : Account) :
    net (postings ++ postings') account = net postings account + net postings' account := by
  simp [net]

@[simp] theorem net_singleton_self (account : Account) (amount : Amount) :
    net [(account, amount)] account = amount := by
  simp [net]

theorem net_singleton_of_ne {account other : Account} (ne : account ≠ other) (amount : Amount) :
    net [(account, amount)] other = 0 := by
  simp [net, ne]

/-- The order of the postings does not matter. -/
theorem net_perm {postings postings' : List (Account × Amount)} (perm : postings.Perm postings')
    (account : Account) : net postings account = net postings' account :=
  ((perm.filter _).map _).sum_eq

/-- Nothing is on an account that has not been posted to. -/
theorem net_eq_zero_of_notMem {postings : List (Account × Amount)} {account : Account}
    (notMem : account ∉ postings.map Prod.fst) : net postings account = 0 := by
  have unposted : (postings.filter fun posting => posting.1 = account) = [] := by
    rw [List.filter_eq_nil_iff]
    intro posting mem same
    exact notMem (of_decide_eq_true same ▸ List.mem_map_of_mem mem)
  rw [net, unposted]
  rfl

/-! ## A table of balances -/

variable {Row : Type w} (key : Row → Account) (balance : Row → Amount)

/-- The table stands for the postings. -/
structure Posted (postings : List (Account × Amount)) (table : List Row) : Prop where
  unique : KeyedTable.Unique key table
  mem_iff : ∀ account, account ∈ table.map key ↔ account ∈ postings.map Prod.fst
  balance_eq : ∀ row ∈ table, balance row = net postings (key row)

theorem Posted.nil : Posted key balance [] [] :=
  ⟨unique_nil key, by simp, by simp⟩

variable {key balance} {postings : List (Account × Amount)} {table : List Row}

/-- The table answers for the balance, with zero where there is no row. -/
theorem Posted.lookup (posted : Posted key balance postings table) (account : Account) :
    ((lookup key table account).map balance).getD 0 = net postings account := by
  cases found : KeyedTable.lookup key table account with
  | some row =>
      have same := key_eq_of_lookup key found
      have stored := posted.balance_eq row (mem_of_lookup key found)
      rw [Option.map_some, Option.getD_some, stored, same]
  | none =>
      have absent := (lookup_eq_none_iff key).mp found
      rw [posted.mem_iff] at absent
      rw [net_eq_zero_of_notMem absent]
      rfl

/-- **One posting**: the row of the account is replaced by one with the new balance. -/
theorem Posted.post (posted : Posted key balance postings table) {row : Row} {amount : Amount}
    (update : balance row = net postings (key row) + amount) :
    Posted key balance (postings ++ [(key row, amount)])
      (upsert key (fun _ new => new) table row) where
  unique := unique_upsert key _ row posted.unique fun _ _ => rfl
  mem_iff := by
    intro account
    rw [map_key_upsert key _ table row fun _ _ => rfl, List.map_append, List.mem_append]
    split
    · -- the account has been posted to before
      rename_i present
      rw [posted.mem_iff account]
      refine ⟨Or.inl, fun known => known.elim id fun same => ?_⟩
      simp only [List.map_cons, List.map_nil, List.mem_singleton] at same
      rw [posted.mem_iff] at present
      exact same ▸ present
    · rw [List.mem_append, posted.mem_iff account]
      simp
  balance_eq := by
    intro other mem
    rw [net_append]
    rcases (mem_upsert_replace key).mp mem with rfl | ⟨stored, ne⟩
    · rw [update, net_singleton_self]
    · rw [posted.balance_eq other stored, net_singleton_of_ne ne.symm, add_zero]

/-- The balances of distinct accounts that hold everything add up to what was posted. -/
theorem sum_map_net {accounts : List Account} (nodup : accounts.Nodup) :
    ∀ {postings : List (Account × Amount)}, (∀ posting ∈ postings, posting.1 ∈ accounts) →
      (accounts.map (net postings)).sum = (postings.map Prod.snd).sum := by
  intro postings
  induction postings with
  | nil =>
      intro _
      have zero : net ([] : List (Account × Amount)) = fun _ => 0 := funext net_nil
      rw [zero]
      simp
  | cons posting postings ih =>
      intro inside
      obtain ⟨mem, inside⟩ := List.forall_mem_cons.mp inside
      obtain ⟨front, back, rfl⟩ := List.append_of_mem mem
      -- of all accounts only that of the posting has changed
      rw [List.nodup_append, List.nodup_cons] at nodup
      obtain ⟨-, ⟨notBack, -⟩, apart⟩ := nodup
      have unchanged (part : List Account) (ne : ∀ account ∈ part, posting.1 ≠ account) :
          part.map (net (posting :: postings)) = part.map (net postings) := by
        refine List.map_congr_left fun account haccount => ?_
        simp [net, ne account haccount]
      have inFront : ∀ account ∈ front, posting.1 ≠ account := fun account haccount same =>
        apart account haccount _ List.mem_cons_self same.symm
      have inBack : ∀ account ∈ back, posting.1 ≠ account := fun account haccount same =>
        notBack (same ▸ haccount)
      have own : net (posting :: postings) posting.1 = posting.2 + net postings posting.1 := by
        simp [net]
      rw [List.map_cons, List.sum_cons, ← ih inside, List.map_append, List.map_cons,
        List.map_append, List.map_cons, unchanged front inFront, unchanged back inBack, own]
      simp only [List.sum_append, List.sum_cons]
      abel

/-- **Conservation**: over any part of the accounts, the rows add up to what has been
posted there. -/
theorem Posted.sum_eq (posted : Posted key balance postings table) (part : Account → Bool) :
    ((table.filter fun row => part (key row)).map balance).sum
      = ((postings.filter fun posting => part posting.1).map Prod.snd).sum := by
  have nodup : ((table.filter fun row => part (key row)).map key).Nodup :=
    posted.unique.sublist (List.filter_sublist.map key)
  have inside : ∀ posting ∈ postings.filter fun posting => part posting.1,
      posting.1 ∈ (table.filter fun row => part (key row)).map key := by
    intro posting mem
    obtain ⟨mem, inPart⟩ := List.mem_filter.mp mem
    obtain ⟨row, stored, same⟩ :=
      List.mem_map.mp ((posted.mem_iff posting.1).mpr (List.mem_map_of_mem mem))
    exact List.mem_map.mpr ⟨row, List.mem_filter.mpr ⟨stored, by rw [same]; exact inPart⟩, same⟩
  rw [← sum_map_net nodup inside, List.map_map]
  refine congrArg List.sum (List.map_congr_left fun row mem => ?_)
  obtain ⟨stored, inPart⟩ := List.mem_filter.mp mem
  rw [posted.balance_eq row stored, Function.comp_apply, net, net, List.filter_filter]
  have same : (postings.filter fun posting => posting.1 = key row)
      = postings.filter fun posting => decide (posting.1 = key row) && part posting.1 := by
    refine List.filter_congr fun posting _ => ?_
    by_cases same : posting.1 = key row
    · simp [same, inPart]
    · simp [same]
  rw [same]

end Postings
