import Mathlib.Data.List.TakeWhile
import UsdpIndexer.Rpc.Errors

/-!
# Failing over to the next provider

`runWithProviderFailover` of `rpc/provider-failover.ts` tries one provider after
another.  It moves on where the message of the error passes
`isDailyRequestQuotaError`, and rethrows any other error.

The predicate asks for the name of the header that counts the remaining requests
and for a `0` anywhere in the message.  `ReportsExhaustedQuota` is what it stands
for: a phrase about the daily limit, or the header with a count of zero.  Errors
that pass without that are `Misread`, and a run moves on for exhausted quotas
only exactly when it does not meet one of them while a provider is left.
-/

namespace UsdpIndexer

/-! ## The loop -/

/-- An endpoint that may be used, with the limits it asks for. -/
structure RpcProviderCandidate where
  id : String
  rpcUrl : String
  chunkSize : ℤ
  requestIntervalMs : ℤ
deriving DecidableEq, Repr

/-- What `onFailover` is told; the reason is always `daily-quota-exhausted`. -/
structure RpcProviderFailoverEvent where
  failedProviderId : String
  nextProviderId : String
  message : String
deriving DecidableEq, Repr

/-- What a run answers, whom it has called, and what `onFailover` was told. -/
structure FailoverRun (α : Type) where
  result : Except JsError α
  calls : List RpcProviderCandidate
  events : List RpcProviderFailoverEvent

variable {α : Type}

/-- The loop from `index` on.  `operation index provider` is what the call of that
number answers. -/
def failoverFrom (operation : ℕ → RpcProviderCandidate → Except JsError α) :
    ℕ → List RpcProviderCandidate → FailoverRun α
  | _, [] => ⟨.error ⟨"RPC provider failover ended without a result"⟩, [], []⟩
  | index, provider :: rest =>
      match operation index provider with
      | .ok value => ⟨.ok value, [provider], []⟩
      | .error error =>
          match rest with
          | [] => ⟨.error error, [provider], []⟩
          | nextProvider :: others =>
              if isDailyRequestQuotaError error then
                let run := failoverFrom operation (index + 1) (nextProvider :: others)
                { run with
                  calls := provider :: run.calls
                  events := ⟨provider.id, nextProvider.id, providerErrorMessage error⟩ ::
                    run.events }
              else ⟨.error error, [provider], []⟩

/-- The operation is tried on one endpoint after the other. -/
def runWithProviderFailover (providers : List RpcProviderCandidate)
    (operation : ℕ → RpcProviderCandidate → Except JsError α) : FailoverRun α :=
  if providers.length = 0 then ⟨.error ⟨"At least one RPC provider is required"⟩, [], []⟩
  else failoverFrom operation 0 providers

/-- How a run from `index` on went: it called a prefix of the providers, moved on
for errors that pass the predicate, and stopped with the answer of the last call. -/
structure Went (operation : ℕ → RpcProviderCandidate → Except JsError α) (index : ℕ)
    (providers : List RpcProviderCandidate) (run : FailoverRun α) : Prop where
  calls : run.calls <+: providers
  called : run.calls ≠ []
  moves : ∀ i provider, run.calls[i]? = some provider → i + 1 < run.calls.length →
    ∃ error, operation (index + i) provider = .error error ∧ isDailyRequestQuotaError error
  answer : ∀ i last, run.calls[i]? = some last → i + 1 = run.calls.length →
    run.result = operation (index + i) last
  stopped : ∀ i last, run.calls[i]? = some last → i + 1 = run.calls.length →
    i + 1 < providers.length →
      ∀ error, operation (index + i) last = .error error → ¬ isDailyRequestQuotaError error

/-- A run that stops with its first call. -/
theorem Went.single {operation : ℕ → RpcProviderCandidate → Except JsError α} {index : ℕ}
    {provider : RpcProviderCandidate} {rest : List RpcProviderCandidate}
    {result : Except JsError α} (answers : operation index provider = result)
    (stops : rest ≠ [] → ∀ error, result = .error error → ¬ isDailyRequestQuotaError error) :
    Went operation index (provider :: rest) ⟨result, [provider], []⟩ where
  calls := ⟨rest, rfl⟩
  called := by simp
  moves := by
    intro i _ _ more
    simp only [List.length_singleton] at more
    omega
  answer := by
    intro i last found only
    obtain rfl : i = 0 := by simpa using only
    cases found
    exact answers.symm
  stopped := by
    intro i last found only more error fails
    obtain rfl : i = 0 := by simpa using only
    cases found
    refine stops ?_ error (answers.symm.trans fails)
    rintro rfl
    simp at more

/-- One move, and the run behind it. -/
theorem Went.move {operation : ℕ → RpcProviderCandidate → Except JsError α} {index : ℕ}
    {provider : RpcProviderCandidate} {rest : List RpcProviderCandidate} {error : JsError}
    {run : FailoverRun α} {events : List RpcProviderFailoverEvent}
    (fails : operation index provider = .error error)
    (quota : isDailyRequestQuotaError error) (went : Went operation (index + 1) rest run) :
    Went operation index (provider :: rest) ⟨run.result, provider :: run.calls, events⟩ where
  calls := List.cons_prefix_cons.mpr ⟨rfl, went.calls⟩
  called := by simp
  moves := by
    intro i caller found more
    cases i with
    | zero =>
        cases found
        exact ⟨error, fails, quota⟩
    | succ i =>
        have := went.moves i caller found (Nat.lt_of_succ_lt_succ more)
        rwa [Nat.add_right_comm] at this
  answer := by
    intro i last found only
    cases i with
    | zero => exact absurd (List.length_eq_zero_iff.mp (Nat.succ.inj only).symm) went.called
    | succ i =>
        have := went.answer i last found (Nat.succ.inj only)
        rwa [Nat.add_right_comm] at this
  stopped := by
    intro i last found only more
    cases i with
    | zero => exact absurd (List.length_eq_zero_iff.mp (Nat.succ.inj only).symm) went.called
    | succ i =>
        have := went.stopped i last found (Nat.succ.inj only) (Nat.lt_of_succ_lt_succ more)
        rwa [Nat.add_right_comm] at this

theorem went_failoverFrom (operation : ℕ → RpcProviderCandidate → Except JsError α)
    (rest : List RpcProviderCandidate) :
    ∀ index provider, Went operation index (provider :: rest)
      (failoverFrom operation index (provider :: rest)) := by
  induction rest with
  | nil =>
      intro index provider
      unfold failoverFrom
      cases answers : operation index provider with
      | ok value => exact Went.single answers fun more => absurd rfl more
      | error error => exact Went.single answers fun more => absurd rfl more
  | cons nextProvider others ih =>
      intro index provider
      unfold failoverFrom
      cases answers : operation index provider with
      | ok value => exact Went.single answers fun _ error fails => by cases fails
      | error error =>
          by_cases quota : isDailyRequestQuotaError error
          · simp only [quota, if_true]
            exact Went.move answers quota (ih (index + 1) nextProvider)
          · simp only [quota, Bool.false_eq_true, if_false]
            refine Went.single answers fun _ error' same => ?_
            cases same
            exact quota

/-! ## What the predicate stands for -/

/-- The message names the daily limit. -/
def namesDailyLimit (error : JsError) : Bool :=
  Text.includes error.searchText "daily request limit" ||
    Text.includes error.searchText "daily requests limit" ||
    Text.includes error.searchText "daily quota"

/-- The header that counts the requests that remain. -/
def remainingHeader : String := "x-ratelimit-remaining"

/-- A character behind which another field begins. -/
def endsField (c : Char) : Bool := c ∈ ['\n', '\r', ',', ';']

/-- The count that follows the name of the header in the same field, where the
text begins with that name. -/
def remainingRequests (text : List Char) : Option ℕ :=
  if remainingHeader.toList <+: text then
    let value := (text.drop remainingHeader.length).dropWhile fun c => !c.isDigit && !endsField c
    let digits := value.takeWhile Char.isDigit
    if digits = [] then none else some (Text.decimalValue digits)
  else none

/-- The error reports an exhausted daily quota: it names the daily limit, or it
has the header with a count of zero. -/
def ReportsExhaustedQuota (error : JsError) : Prop :=
  namesDailyLimit error ∨ ∃ text ∈ error.searchText.toList.tails, remainingRequests text = some 0

instance (error : JsError) : Decidable (ReportsExhaustedQuota error) :=
  inferInstanceAs (Decidable (_ ∨ _))

/-- The error names the header and has a `0` somewhere, but reports no exhausted
quota. -/
structure Misread (error : JsError) : Prop where
  header : Text.includes error.searchText remainingHeader
  zero : Text.includes error.searchText "0"
  remains : ¬ ReportsExhaustedQuota error

/-- A number with a digit other than zero is not zero. -/
theorem foldl_digits_pos (digits : List Char) :
    ∀ value : ℕ, 0 < value →
      0 < digits.foldl (fun value c => 10 * value + (c.toNat - '0'.toNat)) value := by
  induction digits with
  | nil =>
      intro value positive
      exact positive
  | cons c digits ih =>
      intro value positive
      exact ih (10 * value + (c.toNat - '0'.toNat)) (by omega)

theorem zero_of_decimalValue_eq_zero {c : Char} {digits : List Char} (digit : c.isDigit)
    (zero : Text.decimalValue (c :: digits) = 0) : c = '0' := by
  by_contra other
  have above : 0 < c.toNat - '0'.toNat := by
    have low : '0'.toNat ≤ c.toNat := by
      simp only [Char.isDigit, Bool.and_eq_true, decide_eq_true_eq] at digit
      exact digit.1
    have ne : c.toNat ≠ '0'.toNat := fun same => other (Char.toNat_inj.mp same)
    omega
  have := foldl_digits_pos digits (10 * 0 + (c.toNat - '0'.toNat)) (by omega)
  rw [Text.decimalValue, List.foldl_cons] at zero
  omega

/-- A count of zero is written with a zero, behind the name of the header. -/
theorem of_remainingRequests_eq_zero {text : List Char} (count : remainingRequests text = some 0) :
    remainingHeader.toList <+: text ∧ '0' ∈ text := by
  unfold remainingRequests at count
  split at count
  · rename_i named
    simp only at count
    split at count
    · cases count
    · rename_i written
      obtain ⟨c, digits, value⟩ := List.exists_cons_of_ne_nil written
      have first := value ▸ List.mem_cons_self
      rw [value, Option.some.injEq] at count
      have digit : c.isDigit := List.mem_takeWhile_imp first
      rw [zero_of_decimalValue_eq_zero digit count] at first
      exact ⟨named, (List.drop_sublist _ _).subset
        ((List.dropWhile_sublist _).subset (List.takeWhile_subset _ first))⟩
  · cases count

theorem isDailyRequestQuotaError_eq (error : JsError) :
    isDailyRequestQuotaError error
      = (namesDailyLimit error || (Text.includes error.searchText remainingHeader &&
        Text.includes error.searchText "0")) := rfl

/-- **What passes the predicate** is an exhausted quota or a misread error. -/
theorem isDailyRequestQuotaError_iff {error : JsError} :
    isDailyRequestQuotaError error ↔ ReportsExhaustedQuota error ∨ Misread error := by
  rw [isDailyRequestQuotaError_eq, Bool.or_eq_true, Bool.and_eq_true]
  constructor
  · rintro (phrase | ⟨header, zero⟩)
    · exact .inl (.inl phrase)
    · by_cases reports : ReportsExhaustedQuota error
      · exact .inl reports
      · exact .inr ⟨header, zero, reports⟩
  · rintro ((phrase | ⟨text, tail, count⟩) | misread)
    · exact .inl phrase
    · obtain ⟨named, zero⟩ := of_remainingRequests_eq_zero count
      have inside : text <:+: error.searchText.toList := ((List.mem_tails _ _).mp tail).isInfix
      refine .inr ⟨decide_eq_true (named.isInfix.trans inside), decide_eq_true ?_⟩
      exact (List.singleton_infix_iff '0' _).mpr (inside.subset zero)
    · exact .inr ⟨misread.header, misread.zero⟩

/-! ## Moving on for exhausted quotas only -/

/-- The run calls a prefix of the providers, at least one where there is one, and
every call but the last failed with an exhausted quota; the last call is the
answer, so it is the first success or the last error. -/
structure FailsOverOnQuotaOnly (providers : List RpcProviderCandidate)
    (operation : ℕ → RpcProviderCandidate → Except JsError α) (run : FailoverRun α) : Prop where
  calls : run.calls <+: providers
  called : providers ≠ [] → run.calls ≠ []
  answer : ∀ i last, run.calls[i]? = some last → i + 1 = run.calls.length →
    run.result = operation i last
  moves : ∀ i provider, run.calls[i]? = some provider → i + 1 < run.calls.length →
    ∃ error, operation i provider = .error error ∧ ReportsExhaustedQuota error

/-- The run comes to the provider of that number: every one in front of it fails
with an error that passes the predicate. -/
def Reached (providers : List RpcProviderCandidate)
    (operation : ℕ → RpcProviderCandidate → Except JsError α) (index : ℕ) : Prop :=
  ∀ i provider, providers[i]? = some provider → i < index →
    ∃ error, operation i provider = .error error ∧ isDailyRequestQuotaError error

/-- No provider that is reached, with another one behind it, fails with a misread
error. -/
def NothingMisread (providers : List RpcProviderCandidate)
    (operation : ℕ → RpcProviderCandidate → Except JsError α) : Prop :=
  ∀ i provider error, providers[i]? = some provider → i + 1 < providers.length →
    Reached providers operation i → operation i provider = .error error → ¬ Misread error

section Run

variable {providers : List RpcProviderCandidate}
  {operation : ℕ → RpcProviderCandidate → Except JsError α}

theorem went_runWithProviderFailover (any : providers ≠ []) :
    Went operation 0 providers (runWithProviderFailover providers operation) := by
  unfold runWithProviderFailover
  rw [if_neg (mt List.length_eq_zero_iff.mp any)]
  obtain ⟨provider, rest, rfl⟩ := List.exists_cons_of_ne_nil any
  exact went_failoverFrom operation rest 0 provider

/-- The provider that is called is the one of that number. -/
theorem Went.provider {run : FailoverRun α} (went : Went operation 0 providers run) {i : ℕ}
    {provider : RpcProviderCandidate} (found : run.calls[i]? = some provider) :
    providers[i]? = some provider := by
  obtain ⟨rest, split⟩ := went.calls
  have inside := (List.getElem?_eq_some_iff.mp found).1
  rw [← split, List.getElem?_append_left inside, found]

/-- What is called is reached. -/
theorem Went.reached {run : FailoverRun α} (went : Went operation 0 providers run) {i : ℕ}
    (called : i < run.calls.length) : Reached providers operation i := by
  intro j provider found before
  have at' : run.calls[j]? = some run.calls[j] := List.getElem?_eq_getElem (by omega)
  rw [went.provider at', Option.some.injEq] at found
  rw [found] at at'
  have moved := went.moves j provider at' (by omega)
  rwa [Nat.zero_add] at moved

/-- What is reached is called. -/
theorem Went.called_of_reached {run : FailoverRun α} (went : Went operation 0 providers run)
    {i : ℕ} (inside : i < providers.length) (reached : Reached providers operation i) :
    i < run.calls.length := by
  by_contra short
  have some' : 0 < run.calls.length := List.length_pos_iff.mpr went.called
  -- the last provider that was called is one in front of it
  obtain ⟨last, found⟩ : ∃ last, run.calls[run.calls.length - 1]? = some last :=
    ⟨_, List.getElem?_eq_getElem (by omega)⟩
  obtain ⟨error, fails, quota⟩ := reached _ last (went.provider found) (by omega)
  have stopped := went.stopped _ last found (by omega) (by omega) error
  rw [Nat.zero_add] at stopped
  exact stopped fails quota

/-- **The run moves on for exhausted quotas only, exactly when it meets no misread
error while a provider is left.** -/
theorem runWithProviderFailover_quotaOnly_iff (providers : List RpcProviderCandidate)
    (operation : ℕ → RpcProviderCandidate → Except JsError α) :
    FailsOverOnQuotaOnly providers operation (runWithProviderFailover providers operation)
      ↔ NothingMisread providers operation := by
  by_cases any : providers = []
  · subst any
    constructor
    · intro _ i provider error found
      simp at found
    · intro _
      exact ⟨List.prefix_rfl, fun more => absurd rfl more, by simp [runWithProviderFailover],
        by simp [runWithProviderFailover]⟩
  · have went := @went_runWithProviderFailover _ providers operation any
    constructor
    · intro only i provider error found more reached fails misread
      have next : Reached providers operation (i + 1) := by
        intro j earlier at' before
        obtain before | rfl := Nat.lt_succ_iff_lt_or_eq.mp before
        · exact reached j earlier at' before
        · rw [found, Option.some.injEq] at at'
          exact ⟨error, at' ▸ fails, isDailyRequestQuotaError_iff.mpr (.inr misread)⟩
      have called := went.called_of_reached more next
      have at' : (runWithProviderFailover providers operation).calls[i]? = some _ :=
        List.getElem?_eq_getElem (by omega)
      have same := went.provider at'
      rw [found, Option.some.injEq] at same
      rw [← same] at at'
      obtain ⟨error', fails', reports⟩ := only.moves i provider at' called
      rw [fails] at fails'
      cases fails'
      exact misread.remains reports
    · intro nothing
      refine ⟨went.calls, fun _ => went.called, ?_, ?_⟩
      · intro i last found only
        have answer := went.answer i last found only
        rwa [Nat.zero_add] at answer
      · intro i provider found more
        obtain ⟨error, fails, quota⟩ := went.moves i provider found more
        rw [Nat.zero_add] at fails
        refine ⟨error, fails, (isDailyRequestQuotaError_iff.mp quota).resolve_right ?_⟩
        have inside := went.calls.length_le
        exact nothing i provider error (went.provider found) (by omega)
          (went.reached (by omega)) fails

end Run

/-- Ten requests remain, and the run moves on to the next provider. -/
theorem runWithProviderFailover_ten_remain :
    let primary : RpcProviderCandidate := ⟨"primary", "https://primary.example", 5, 250⟩
    let fallback : RpcProviderCandidate := ⟨"fallback", "https://fallback.example", 50, 1500⟩
    let error : JsError := ⟨"429 Too Many Requests; x-ratelimit-remaining: 10"⟩
    let operation : ℕ → RpcProviderCandidate → Except JsError ℕ := fun index _ =>
      if index = 0 then .error error else .ok 7
    (runWithProviderFailover [primary, fallback] operation).calls = [primary, fallback] ∧
      ¬ ReportsExhaustedQuota error ∧
      ¬ FailsOverOnQuotaOnly [primary, fallback] operation
        (runWithProviderFailover [primary, fallback] operation) := by
  intro primary fallback error operation
  have remains : isDailyRequestQuotaError error ∧ ¬ ReportsExhaustedQuota error := by
    decide +kernel
  have calls : (runWithProviderFailover [primary, fallback] operation).calls
      = [primary, fallback] := by
    simp [runWithProviderFailover, failoverFrom, operation, remains.1]
  refine ⟨calls, remains.2, fun only => ?_⟩
  obtain ⟨error', fails, reports⟩ :=
    only.moves 0 primary (by rw [calls]; rfl) (by rw [calls]; decide)
  cases fails
  exact remains.2 reports

end UsdpIndexer
