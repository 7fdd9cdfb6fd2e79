import UsdpIndexer.Analytics.HolderReplay
import UsdpIndexer.Library.FailingFold
import UsdpIndexer.Library.Postings

/-!
# The replay conserves the tokens

To the two updates of a transfer belong two **postings**, and the map of balances
stands for the postings so far (`Holds`, on `UsdpIndexer.Library.Postings`).  An update
fails exactly where its account would be overdrawn, which a credit never is; so the
replay fails exactly where a sender has less than it sends.  Otherwise the balances
are what was credited less what was debited, and they add up to what was minted less
what was burned.

`Replayed` is the invariant of the loop, one event at a time, and
`replayHolderTransfers_spec` the result for a whole history.
-/

namespace UsdpIndexer

open KeyedTable hiding Unique
open Postings StableOrder FailingFold Text

/-! ## The postings of an event -/

/-- A posting to a holder of an asset, unless that is the zero address. -/
def posting (assetId : ParallelAssetId) (holder : String) (amount : ℤ) :
    List ((ParallelAssetId × String) × ℤ) :=
  if holder = ZERO_ADDRESS then [] else [((assetId, holder), amount)]

/-- The debit and the credit of an event. -/
def TransferReplayEvent.postings (event : TransferReplayEvent) :
    List ((ParallelAssetId × String) × ℤ) :=
  posting event.assetId event.sender (-event.value)
    ++ posting event.assetId event.receiver event.value

/-- What all transfers post. -/
def postings (events : List TransferReplayEvent) : List ((ParallelAssetId × String) × ℤ) :=
  events.flatMap TransferReplayEvent.postings

theorem postings_concat (front : List TransferReplayEvent) (event : TransferReplayEvent) :
    postings (front ++ [event]) = postings front ++ event.postings := by
  simp [postings]

theorem net_posting {assetId asset : ParallelAssetId} {holder account : String} {amount : ℤ}
    (ne : account ≠ ZERO_ADDRESS) :
    net (posting assetId holder amount) (asset, account)
      = if assetId = asset ∧ holder = account then amount else 0 := by
  by_cases same : assetId = asset ∧ holder = account
  · obtain ⟨rfl, rfl⟩ := same
    simp [posting, ne]
  · rw [if_neg same, posting]
    split
    · rfl
    · exact net_singleton_of_ne (by simpa using same) amount

/-- On the account of a holder are its credits less its debits. -/
theorem net_postings (events : List TransferReplayEvent) (assetId : ParallelAssetId)
    {holder : String} (ne : holder ≠ ZERO_ADDRESS) :
    net (postings events) (assetId, holder)
      = credits events assetId holder - debits events assetId holder := by
  induction events using List.reverseRecOn with
  | nil => rfl
  | append_singleton front event ih =>
      rw [postings_concat, net_append, TransferReplayEvent.postings, net_append, net_posting ne,
        net_posting ne, credits_concat, debits_concat, ih]
      split <;> split <;> omega

/-- Over all the holders of an asset they are what was minted less what was burned. -/
theorem sum_postings (events : List TransferReplayEvent) (assetId : ParallelAssetId) :
    (((postings events).filter fun entry => entry.1.1 = assetId).map Prod.snd).sum
      = debits events assetId ZERO_ADDRESS - credits events assetId ZERO_ADDRESS := by
  induction events using List.reverseRecOn with
  | nil => rfl
  | append_singleton front event ih =>
      have own (holder : String) (amount : ℤ) :
          (((posting event.assetId holder amount).filter fun entry => entry.1.1 = assetId).map
            Prod.snd).sum = if event.assetId = assetId ∧ holder ≠ ZERO_ADDRESS then amount
              else 0 := by
        by_cases zero : holder = ZERO_ADDRESS <;> by_cases same : event.assetId = assetId <;>
          simp [posting, zero, same]
      rw [postings_concat, List.filter_append, List.map_append, List.sum_append, ih,
        TransferReplayEvent.postings, List.filter_append, List.map_append, List.sum_append, own,
        own, credits_concat, debits_concat]
      by_cases same : event.assetId = assetId <;>
        by_cases minted : event.sender = ZERO_ADDRESS <;>
        by_cases burned : event.receiver = ZERO_ADDRESS <;>
        simp [same, minted, burned] <;> omega

/-! ## One update -/

/-- The rows stand for the postings; no balance is below zero, and where a block is
not known at which it was positive it is zero. -/
structure Holds (entries : List ((ParallelAssetId × String) × ℤ))
    (states : List ReplayedHolderBalance) : Prop where
  posted : Posted ReplayedHolderBalance.key (·.balance) entries states
  nonneg : ∀ row ∈ states, 0 ≤ row.balance
  unopened : ∀ row ∈ states, row.firstPositiveBlock = none → row.balance = 0

theorem Holds.nil : Holds [] [] :=
  ⟨Posted.nil _ _, by simp, by simp⟩

theorem Holds.net_nonneg {entries : List ((ParallelAssetId × String) × ℤ)}
    {states : List ReplayedHolderBalance} (holds : Holds entries states)
    (account : ParallelAssetId × String) : 0 ≤ net entries account := by
  rw [← holds.posted.lookup account]
  cases found : lookup ReplayedHolderBalance.key states account with
  | none => rfl
  | some row => exact holds.nonneg row (mem_of_lookup _ found)

/-- The holders of an asset that have had a positive balance. -/
def openedHolders (states : List ReplayedHolderBalance) (assetId : ParallelAssetId) : ℕ :=
  states.countP fun row => row.assetId = assetId ∧ row.firstPositiveBlock.isSome

section Update

variable {entries : List ((ParallelAssetId × String) × ℤ)} {states : List ReplayedHolderBalance}
  {event : TransferReplayEvent} {holder : String} {delta : ℤ}

/-- The row that an update starts from. -/
theorem Holds.holderState (holds : Holds entries states) (event : TransferReplayEvent)
    (holder : String) :
    (holderState states event holder).key = (event.assetId, holder) ∧
      (holderState states event holder).balance = net entries (event.assetId, holder) := by
  rw [← holds.posted.lookup, UsdpIndexer.holderState]
  cases found : lookup ReplayedHolderBalance.key states (event.assetId, holder) with
  | none => exact ⟨rfl, rfl⟩
  | some row => exact ⟨key_eq_of_lookup _ found, rfl⟩

/-- **An update fails** where the account would be overdrawn. -/
theorem updateHolder_error (event : TransferReplayEvent) (holder : String) (delta : ℤ)
    (holds : Holds entries states) (metric : AssetMetric)
    (ne : holder ≠ ZERO_ADDRESS) (overdrawn : net entries (event.assetId, holder) + delta < 0) :
    ∃ error, updateHolder event holder delta (states, metric) = .error error := by
  obtain ⟨-, before⟩ := holds.holderState event holder
  rw [updateHolder, if_neg ne]
  simp only [before]
  rw [if_pos overdrawn]
  exact ⟨_, rfl⟩

/-- An update adds a posting to what the rows stand for. -/
theorem Holds.changed (holds : Holds entries states) (ne : holder ≠ ZERO_ADDRESS)
    (covered : 0 ≤ net entries (event.assetId, holder) + delta) :
    Holds (entries ++ posting event.assetId holder delta)
      (upsert ReplayedHolderBalance.key (fun _ new => new) states
        ((UsdpIndexer.holderState states event holder).changed event.blockNumber delta)) := by
  obtain ⟨key, before⟩ := holds.holderState event holder
  set state := UsdpIndexer.holderState states event holder
  have changedKey : (state.changed event.blockNumber delta).key = (event.assetId, holder) := key
  have changedBalance : (state.changed event.blockNumber delta).balance
      = net entries (event.assetId, holder) + delta := congrArg (· + delta) before
  refine ⟨?_, fun row mem => ?_, fun row mem unopened => ?_⟩
  · rw [posting, if_neg ne, ← changedKey]
    exact holds.posted.post (by rw [changedKey, changedBalance])
  · rcases (mem_upsert_replace _).mp mem with rfl | ⟨known, -⟩
    · rw [changedBalance]
      exact covered
    · exact holds.nonneg row known
  · rcases (mem_upsert_replace _).mp mem with rfl | ⟨known, -⟩
    · -- a row without its block that has become positive would have got it
      by_contra positive
      rw [changedBalance] at positive
      by_cases opens : state.Opens delta
      · simp [ReplayedHolderBalance.changed, opens] at unopened
      · rw [ReplayedHolderBalance.changed, if_neg opens] at unopened
        refine opens ⟨unopened, ?_⟩
        rw [before]
        omega
    · exact holds.unopened row known unopened

/-- What an update does to the numbers of opened holders. -/
theorem openedHolders_changed (holds : Holds entries states) (event : TransferReplayEvent)
    (holder : String) (delta : ℤ) (assetId : ParallelAssetId) :
    openedHolders (upsert ReplayedHolderBalance.key (fun _ new => new) states
        ((holderState states event holder).changed event.blockNumber delta)) assetId
      = openedHolders states assetId
        + if event.assetId = assetId ∧ (holderState states event holder).Opens delta then 1
          else 0 := by
  obtain ⟨key, -⟩ := holds.holderState event holder
  have changedKey : ((holderState states event holder).changed event.blockNumber delta).key
      = (event.assetId, holder) := key
  cases found : lookup ReplayedHolderBalance.key states (event.assetId, holder) with
  | none =>
      have fresh : holderState states event holder
          = ⟨event.assetId, holder, 0, none, event.blockNumber⟩ := by
        rw [holderState, found, Option.getD_none]
      rw [fresh] at changedKey ⊢
      rw [upsert_of_lookup_none _ _ (changedKey ▸ found)]
      by_cases own : event.assetId = assetId <;> by_cases opens : delta > 0 <;>
        simp [openedHolders, ReplayedHolderBalance.changed, ReplayedHolderBalance.Opens, own, opens]
  | some old =>
      have same : holderState states event holder = old := by
        rw [holderState, found, Option.getD_some]
      rw [same] at key changedKey ⊢
      obtain ⟨front, back, rfl, replaced⟩ :=
        exists_upsert_of_lookup _ holds.posted.unique (changedKey ▸ found)
      have oldAsset : old.assetId = event.assetId := congrArg Prod.fst key
      rw [replaced]
      simp only [openedHolders, List.countP_append, List.countP_cons,
        ReplayedHolderBalance.changed, oldAsset]
      by_cases opens : old.Opens delta
      · have closed := opens.1
        by_cases own : event.assetId = assetId <;> simp [own, opens, closed]
        omega
      · by_cases own : event.assetId = assetId <;> simp [own, opens]

/-- **An update goes through** where the account is not overdrawn, and a holder is
counted as new when its row gets its block. -/
theorem updateHolder_ok (event : TransferReplayEvent) (holder : String) (delta : ℤ)
    (holds : Holds entries states) (metric : AssetMetric)
    (covered : holder ≠ ZERO_ADDRESS → 0 ≤ net entries (event.assetId, holder) + delta) :
    ∃ states' opened, updateHolder event holder delta (states, metric)
        = .ok (states', metric.countNew opened) ∧
      Holds (entries ++ posting event.assetId holder delta) states' ∧
      ∀ assetId, openedHolders states' assetId
        = openedHolders states assetId + if event.assetId = assetId then opened else 0 := by
  by_cases zero : holder = ZERO_ADDRESS
  · refine ⟨states, 0, ?_, ?_, fun assetId => by simp⟩
    · rw [updateHolder, if_pos zero]
      rfl
    · rw [posting, if_pos zero, List.append_nil]
      exact holds
  · obtain ⟨-, before⟩ := holds.holderState event holder
    refine ⟨_, if (holderState states event holder).Opens delta then 1 else 0, ?_,
      holds.changed zero (covered zero), fun assetId => ?_⟩
    · have enough : ¬ (holderState states event holder).balance + delta < 0 := by
        rw [before]
        exact not_lt.mpr (covered zero)
      rw [updateHolder, if_neg zero]
      simp only
      rw [if_neg enough]
      split <;> rfl
    · rw [openedHolders_changed holds]
      by_cases own : event.assetId = assetId <;> simp [own]

end Update

/-! ## One event -/

/-- The metric counts these events of the asset, and so many opened holders. -/
structure Summarises (events : List TransferReplayEvent) (assetId : ParallelAssetId)
    (opened : ℕ) (metric : AssetMetric) : Prop where
  transferVolume : metric.transferVolume = ((peerTransfers events assetId).map (·.value)).sum
  mintedVolume : metric.mintedVolume = debits events assetId ZERO_ADDRESS
  burnedVolume : metric.burnedVolume = credits events assetId ZERO_ADDRESS
  transferCount : metric.transferCount = (peerTransfers events assetId).length
  senders : metric.senders = sendersOf events assetId
  receivers : metric.receivers = receiversOf events assetId
  participants : metric.participants = sendersOf events assetId ∪ receiversOf events assetId
  newHolders : metric.newHolders = opened

theorem summarises_blank (assetId : ParallelAssetId) (time : ℤ) :
    Summarises [] assetId 0 (blankMetric time) :=
  ⟨rfl, rfl, rfl, rfl, rfl, rfl, rfl, rfl⟩

section Metric

variable {front : List TransferReplayEvent} {assetId : ParallelAssetId} {opened : ℕ}
  {metric : AssetMetric} {event : TransferReplayEvent}

theorem Summarises.widen (summary : Summarises front assetId opened metric) (time : ℤ) :
    Summarises front assetId opened (metric.widen time) := by
  obtain ⟨transferVolume, mintedVolume, burnedVolume, transferCount, senders, receivers,
    participants, newHolders⟩ := summary
  unfold AssetMetric.widen
  split <;> simp only <;> split <;>
    exact ⟨transferVolume, mintedVolume, burnedVolume, transferCount, senders, receivers,
      participants, newHolders⟩

theorem Summarises.countNew (summary : Summarises front assetId opened metric) (more : ℕ) :
    Summarises front assetId (opened + more) (metric.countNew more) :=
  { summary with newHolders := congrArg (· + more) summary.newHolders }

/-- Events of the other asset do not count. -/
theorem Summarises.concat_of_ne (summary : Summarises front assetId opened metric)
    (ne : event.assetId ≠ assetId) : Summarises (front ++ [event]) assetId opened metric := by
  obtain ⟨transferVolume, mintedVolume, burnedVolume, transferCount, senders, receivers,
    participants, newHolders⟩ := summary
  constructor <;>
    simpa [peerTransfers_concat, debits_concat, credits_concat, sendersOf_concat,
      receiversOf_concat, ne]

/-- What is recorded of an event. -/
theorem Summarises.record (summary : Summarises front event.assetId opened metric) :
    Summarises (front ++ [event]) event.assetId opened
      (metric.record event.sender event.receiver event.value) := by
  obtain ⟨transferVolume, mintedVolume, burnedVolume, transferCount, senders, receivers,
    participants, newHolders⟩ := summary
  unfold AssetMetric.record
  by_cases mints : event.sender = ZERO_ADDRESS <;>
    by_cases burns : event.receiver = ZERO_ADDRESS <;>
    constructor <;>
    simp [peerTransfers_concat, debits_concat, credits_concat, sendersOf_concat,
      receiversOf_concat, mints, burns, transferVolume, mintedVolume, burnedVolume,
      transferCount, senders, receivers, participants, newHolders, Finset.union_insert]

end Metric

/-- The rows and the metrics of the loop belong to these events. -/
structure Replayed (front : List TransferReplayEvent) (state : ReplayState) : Prop where
  holds : Holds (postings front) state.states
  summary : ∀ assetId time, Summarises front assetId (openedHolders state.states assetId)
    ((state.metrics assetId).getD (blankMetric time))

theorem replayed_empty : Replayed [] ReplayState.empty :=
  ⟨Holds.nil, fun assetId time => summarises_blank assetId time⟩

/-- The checks that are made of an event by itself. -/
structure TransferReplayEvent.Accepted (event : TransferReplayEvent) : Prop where
  nonneg : 0 ≤ event.value
  sender : isHex 40 event.sender = true
  receiver : isHex 40 event.receiver = true

theorem normalizedAddress_eq_ok {value address : String} :
    normalizedAddress value = .ok address ↔
      isHex 40 (toLowerCase value) = true ∧ toLowerCase value = address := by
  unfold normalizedAddress
  by_cases hex : isHex 40 (toLowerCase value) <;> simp [hex]

section Step

variable {front : List TransferReplayEvent} {state state' : ReplayState}
  {event : TransferReplayEvent}

/-- An event that goes through is accepted by itself. -/
theorem accepted_of_replayStep (step : replayStep state event = .ok state') :
    event.Accepted := by
  unfold replayStep at step
  split at step
  · cases step
  · rename_i nonneg
    obtain ⟨sender, sent, step⟩ := bind_eq_ok.mp step
    obtain ⟨receiver, received, -⟩ := bind_eq_ok.mp step
    exact ⟨not_lt.mp nonneg, (normalizedAddress_eq_ok.mp sent).1,
      (normalizedAddress_eq_ok.mp received).1⟩

/-- The two updates of an accepted event. -/
theorem replayStep_of_accepted (accepted : event.Accepted) (state : ReplayState) :
    replayStep state event = (updateHolder event event.sender (-event.value)
        (state.states, ((state.metrics event.assetId).getD
          (blankMetric event.blockTimestamp)).widen event.blockTimestamp) >>= fun debited =>
      updateHolder event event.receiver event.value debited >>= fun credited =>
      .ok {
        states := credited.1
        metrics := Function.update state.metrics event.assetId
          (some (credited.2.record event.sender event.receiver event.value)) }) := by
  have sent : normalizedAddress event.fromAddress = .ok event.sender :=
    normalizedAddress_eq_ok.mpr ⟨accepted.sender, rfl⟩
  have received : normalizedAddress event.toAddress = .ok event.receiver :=
    normalizedAddress_eq_ok.mpr ⟨accepted.receiver, rfl⟩
  rw [replayStep, if_neg (not_lt.mpr accepted.nonneg), sent, received]
  rfl

/-- **A sender with less than it sends** makes the step fail. -/
theorem replayStep_error (replayed : Replayed front state) (accepted : event.Accepted)
    (ne : event.sender ≠ ZERO_ADDRESS)
    (overdrawn : net (postings front) (event.assetId, event.sender) < event.value) :
    ∃ error, replayStep state event = .error error := by
  obtain ⟨error, failed⟩ := updateHolder_error event event.sender (-event.value)
    replayed.holds (((state.metrics event.assetId).getD
      (blankMetric event.blockTimestamp)).widen event.blockTimestamp) ne (by omega)
  rw [replayStep_of_accepted accepted, failed]
  exact ⟨error, rfl⟩

/-- **Otherwise an accepted event goes through**, and what there is afterwards belongs
to one more event. -/
theorem replayStep_ok (replayed : Replayed front state) (accepted : event.Accepted)
    (covered : event.sender ≠ ZERO_ADDRESS →
      event.value ≤ net (postings front) (event.assetId, event.sender)) :
    ∃ state', replayStep state event = .ok state' ∧ Replayed (front ++ [event]) state' := by
  set metric := ((state.metrics event.assetId).getD
    (blankMetric event.blockTimestamp)).widen event.blockTimestamp
  obtain ⟨debited, first, debit, holds, openedFirst⟩ :=
    updateHolder_ok event event.sender (-event.value) replayed.holds metric
      fun ne => by have := covered ne; omega
  obtain ⟨credited, second, credit, holds, openedSecond⟩ :=
    updateHolder_ok event event.receiver event.value holds
      (metric.countNew first) fun _ => by
        -- a credit goes to an account that is not below zero
        have := holds.net_nonneg (event.assetId, event.receiver)
        have := accepted.nonneg
        omega
  rw [replayStep_of_accepted accepted, debit]
  show ∃ state', (updateHolder event event.receiver event.value _ >>= _) = _ ∧ _
  rw [credit]
  refine ⟨_, rfl, ?_, fun assetId time => ?_⟩
  · rw [postings_concat, TransferReplayEvent.postings, ← List.append_assoc]
    exact holds
  · have summary := replayed.summary event.assetId event.blockTimestamp
    have opened := (openedSecond assetId).trans (congrArg (· + _) (openedFirst assetId))
    simp only
    by_cases own : event.assetId = assetId
    · subst own
      simp only [if_true] at opened
      rw [Function.update_self, Option.getD_some, opened]
      exact (((summary.widen event.blockTimestamp).countNew first).countNew second).record
    · simp only [if_neg own, Nat.add_zero] at opened
      rw [Function.update_of_ne (Ne.symm own), opened]
      exact (replayed.summary assetId time).concat_of_ne own

/-- **One event**: what there is afterwards belongs to one more event. -/
theorem Replayed.step (replayed : Replayed front state)
    (step : replayStep state event = .ok state') :
    Replayed (front ++ [event]) state' ∧ (event.sender ≠ ZERO_ADDRESS →
      event.value ≤ net (postings front) (event.assetId, event.sender)) := by
  have accepted := accepted_of_replayStep step
  have covered : event.sender ≠ ZERO_ADDRESS →
      event.value ≤ net (postings front) (event.assetId, event.sender) := by
    intro ne
    by_contra overdrawn
    obtain ⟨error, failed⟩ := replayStep_error replayed accepted ne (not_le.mp overdrawn)
    rw [failed] at step
    cases step
  obtain ⟨_, step', replayed'⟩ := replayStep_ok replayed accepted covered
  rw [step, Except.ok.injEq] at step'
  exact ⟨step' ▸ replayed', covered⟩

end Step

/-! ## The whole history -/

/-- The loop, from the start. -/
theorem replayed_of_run {events : List TransferReplayEvent} {state : ReplayState}
    (run : events.foldlM replayStep ReplayState.empty = .ok state) : Replayed events state :=
  ok_of_prefix Replayed (fun _ _ _ _ before step => (before.step step).1) events []
    replayed_empty run

/-- The prefix at which the loop over accepted events fails. -/
theorem run_error_iff {events : List TransferReplayEvent}
    (accepted : ∀ event ∈ events, event.Accepted) :
    (∃ error, events.foldlM replayStep ReplayState.empty = .error error) ↔
      ∃ front event back, events = front ++ event :: back ∧ event.sender ≠ ZERO_ADDRESS ∧
        net (postings front) (event.assetId, event.sender) < event.value := by
  constructor
  · rintro ⟨error, failed⟩
    obtain ⟨front, event, back, state, rfl, through, rejected⟩ := eq_error_iff.mp failed
    refine ⟨front, event, back, rfl, ?_⟩
    by_contra covered
    push Not at covered
    obtain ⟨state', step, -⟩ :=
      replayStep_ok (replayed_of_run through) (accepted event (by simp)) covered
    rw [step] at rejected
    cases rejected
  · rintro ⟨front, event, back, rfl, ne, overdrawn⟩
    cases run : (front ++ event :: back).foldlM replayStep ReplayState.empty with
    | error error => exact ⟨error, rfl⟩
    | ok state =>
        obtain ⟨middle, through, rest⟩ := foldlM_append_eq_ok.mp run
        obtain ⟨_, step, -⟩ := foldlM_cons_eq_ok.mp rest
        exact absurd (((replayed_of_run through).step step).2 ne) (not_le.mpr overdrawn)

/-- The promises on which a history is replayed: distinct positions, well-formed
addresses and no negative value. -/
structure WellFormedHistory (events : List TransferReplayEvent) : Prop where
  distinct : KeyedTable.Unique TransferReplayEvent.position events
  accepted : ∀ event ∈ events, event.Accepted

/-- In the sorted history every event precedes the later ones. -/
theorem WellFormedHistory.pairwise_precedes {events : List TransferReplayEvent}
    (wellFormed : WellFormedHistory events) :
    (sortBy compareTransfers events).Pairwise TransferReplayEvent.Precedes := by
  have perm := perm_sortBy compareTransfers events
  have apart := List.pairwise_map.mp ((perm.map TransferReplayEvent.position).nodup_iff.mpr
    wellFormed.distinct)
  apply ((pairwise_sortBy ordersBy_compareTransfers events).and apart).imp
  rintro a b ⟨le, distinct⟩
  rw [Prod.Lex.toLex_le_toLex] at le
  simp only [TransferReplayEvent.position, ne_eq, Prod.mk.injEq] at le distinct
  simp only [TransferReplayEvent.Precedes]
  omega

/-- What precedes an event is what the loop has consumed before it. -/
theorem filter_precedes {front back : List TransferReplayEvent} {event : TransferReplayEvent}
    (sorted : (front ++ event :: back).Pairwise TransferReplayEvent.Precedes) :
    (front ++ event :: back).filter (fun other => other.Precedes event) = front := by
  obtain ⟨-, behind, before⟩ := List.pairwise_append.mp sorted
  have later := (List.pairwise_cons.mp behind).1
  have all : front.filter (fun other => other.Precedes event) = front :=
    List.filter_eq_self.mpr fun other mem =>
      decide_eq_true (before other mem event List.mem_cons_self)
  have nothing : (event :: back).filter (fun other => other.Precedes event) = [] := by
    refine List.filter_eq_nil_iff.mpr fun other mem precedes => ?_
    have precedes := of_decide_eq_true precedes
    rcases List.mem_cons.mp mem with rfl | mem
    · simp only [TransferReplayEvent.Precedes] at precedes
      omega
    · have := later other mem
      simp only [TransferReplayEvent.Precedes] at precedes this
      omega
  rw [List.filter_append, all, nothing, List.append_nil]

/-- A sender is overdrawn in a history exactly if the loop meets it overdrawn. -/
theorem overdraws_iff {events : List TransferReplayEvent}
    (wellFormed : WellFormedHistory events) :
    Overdraws events ↔
      ∃ front event back, sortBy compareTransfers events = front ++ event :: back ∧
        event.sender ≠ ZERO_ADDRESS ∧
        net (postings front) (event.assetId, event.sender) < event.value := by
  have sorted := wellFormed.pairwise_precedes
  have perm := perm_sortBy compareTransfers events
  have before {front back : List TransferReplayEvent} {event : TransferReplayEvent}
      (split : sortBy compareTransfers events = front ++ event :: back) :
      (events.filter fun other => other.Precedes event).Perm front := by
    rw [split] at sorted perm
    have earlier := perm.symm.filter fun other => decide (other.Precedes event)
    rwa [filter_precedes sorted] at earlier
  constructor
  · rintro ⟨event, mem, ne, overdrawn⟩
    obtain ⟨front, back, split⟩ := List.append_of_mem (mem_sortBy.mpr mem)
    refine ⟨front, event, back, split, ne, ?_⟩
    rw [net_postings front event.assetId ne, ← credits_perm (before split),
      ← debits_perm (before split)]
    exact overdrawn
  · rintro ⟨front, event, back, split, ne, overdrawn⟩
    refine ⟨event, mem_sortBy.mp (by rw [split]; simp), ne, ?_⟩
    rw [net_postings front event.assetId ne, ← credits_perm (before split),
      ← debits_perm (before split)] at overdrawn
    exact overdrawn

/-- What the activity of an asset says about these events and these balances. -/
structure ReplayedAssetActivity.Of (activity : ReplayedAssetActivity)
    (events : List TransferReplayEvent) (balances : List ReplayedHolderBalance) : Prop where
  transferVolume : activity.transferVolume
    = ((peerTransfers events activity.assetId).map (·.value)).sum
  transferCount : activity.transferCount = (peerTransfers events activity.assetId).length
  mintedVolume : activity.mintedVolume = debits events activity.assetId ZERO_ADDRESS
  burnedVolume : activity.burnedVolume = credits events activity.assetId ZERO_ADDRESS
  uniqueSenders : activity.uniqueSenders = (sendersOf events activity.assetId).card
  uniqueReceivers : activity.uniqueReceivers = (receiversOf events activity.assetId).card
  uniqueParticipants : activity.uniqueParticipants
    = (sendersOf events activity.assetId ∪ receiversOf events activity.assetId).card
  newHolders : activity.newHolders = openedHolders balances activity.assetId
  activeHolders : activity.activeHolders
    = balances.countP fun row => row.assetId = activity.assetId ∧ row.balance > 0
  active_le_new : activity.activeHolders ≤ activity.newHolders
  conserved : ((balances.filter fun row => row.assetId = activity.assetId).map (·.balance)).sum
    = activity.mintedVolume - activity.burnedVolume

/-- **Conservation.** -/
structure HolderReplay.Conserves (replay : HolderReplay) (events : List TransferReplayEvent) :
    Prop where
  unique : KeyedTable.Unique ReplayedHolderBalance.key replay.balances
  zero : ∀ row ∈ replay.balances, row.holderAddress ≠ ZERO_ADDRESS
  holders : ∀ assetId holder, (∃ row ∈ replay.balances, row.key = (assetId, holder)) ↔
    holder ≠ ZERO_ADDRESS ∧ ∃ event ∈ events, event.assetId = assetId ∧
      (event.sender = holder ∨ event.receiver = holder)
  balance : ∀ row ∈ replay.balances, row.balance
    = credits events row.assetId row.holderAddress - debits events row.assetId row.holderAddress
  nonneg : ∀ row ∈ replay.balances, 0 ≤ row.balance
  assets : replay.activity.map (·.assetId) = [.usdp, .susdp]
  activity : ∀ activity ∈ replay.activity, activity.Of events replay.balances

/-- The accounts that have been posted to. -/
theorem mem_map_fst_postings {events : List TransferReplayEvent} {assetId : ParallelAssetId}
    {holder : String} :
    (assetId, holder) ∈ (postings events).map Prod.fst ↔
      holder ≠ ZERO_ADDRESS ∧ ∃ event ∈ events, event.assetId = assetId ∧
        (event.sender = holder ∨ event.receiver = holder) := by
  have own (asset : ParallelAssetId) (account : String) (amount : ℤ) :
      (assetId, holder) ∈ (posting asset account amount).map Prod.fst ↔
        holder ≠ ZERO_ADDRESS ∧ asset = assetId ∧ account = holder := by
    unfold posting
    split <;> simp <;> grind
  simp only [postings, List.map_flatMap, List.mem_flatMap, TransferReplayEvent.postings,
    List.map_append, List.mem_append, own]
  grind

section Result

variable {events : List TransferReplayEvent} {state : ReplayState}

/-- The activity of an asset reads the metric of the loop, or a blank one. -/
theorem assetActivity_metric (fallbackStart fallbackEnd time : ℤ)
    (balances : List ReplayedHolderBalance) (state : ReplayState) (assetId : ParallelAssetId) :
    let activity := assetActivity fallbackStart fallbackEnd balances state assetId
    let metric := (state.metrics assetId).getD (blankMetric time)
    activity.transferVolume = metric.transferVolume ∧
      activity.transferCount = metric.transferCount ∧
      activity.mintedVolume = metric.mintedVolume ∧
      activity.burnedVolume = metric.burnedVolume ∧
      activity.uniqueSenders = metric.senders.card ∧
      activity.uniqueReceivers = metric.receivers.card ∧
      activity.uniqueParticipants = metric.participants.card ∧
      activity.newHolders = metric.newHolders := by
  unfold assetActivity
  cases state.metrics assetId with
  | none => exact ⟨rfl, rfl, rfl, rfl, rfl, rfl, rfl, rfl⟩
  | some metric => exact ⟨rfl, rfl, rfl, rfl, rfl, rfl, rfl, rfl⟩

/-- What the activity says, and of which events. -/
theorem Replayed.activity (replayed : Replayed events state) {balances : List ReplayedHolderBalance}
    (perm : balances.Perm state.states) (fallbackStart fallbackEnd : ℤ)
    (assetId : ParallelAssetId) :
    (assetActivity fallbackStart fallbackEnd balances state assetId).Of events balances := by
  have summary := replayed.summary assetId 0
  obtain ⟨volume, count, minted, burned, senders, receivers, participants, new⟩ :=
    assetActivity_metric fallbackStart fallbackEnd 0 balances state assetId
  rw [summary.mintedVolume] at minted
  rw [summary.burnedVolume] at burned
  have opened : openedHolders balances assetId = openedHolders state.states assetId :=
    perm.countP_eq _
  rw [summary.newHolders, ← opened] at new
  have active : (assetActivity fallbackStart fallbackEnd balances state assetId).activeHolders
      = balances.countP fun row => row.assetId = assetId ∧ row.balance > 0 := by
    simp only [assetActivity, List.filter_filter, ← List.countP_eq_length_filter]
    refine List.countP_congr fun row _ => ?_
    simp [and_comm]
  refine ⟨volume.trans summary.transferVolume, count.trans summary.transferCount, minted, burned,
    senders.trans (congrArg _ summary.senders), receivers.trans (congrArg _ summary.receivers),
    participants.trans (congrArg _ summary.participants), new, active, ?_, ?_⟩
  · -- an active holder has a positive balance, so it has been opened
    rw [active, new, openedHolders]
    refine List.countP_mono_left fun row mem isActive => ?_
    simp only [decide_eq_true_eq] at isActive ⊢
    refine ⟨isActive.1, ?_⟩
    by_contra closed
    have := replayed.holds.unopened row (perm.mem_iff.mp mem)
      (Option.not_isSome_iff_eq_none.mp closed)
    omega
  · rw [minted, burned, ← sum_postings, ← replayed.holds.posted.sum_eq fun account =>
      account.1 = assetId]
    exact ((perm.filter _).map _).sum_eq

theorem Replayed.conserves (replayed : Replayed events state) (fallbackStart fallbackEnd : ℤ) :
    (state.result fallbackStart fallbackEnd).Conserves events := by
  have perm := perm_sortBy compareBalances state.states
  have holders (assetId : ParallelAssetId) (holder : String) :
      (∃ row ∈ (state.result fallbackStart fallbackEnd).balances, row.key = (assetId, holder)) ↔
        holder ≠ ZERO_ADDRESS ∧ ∃ event ∈ events, event.assetId = assetId ∧
          (event.sender = holder ∨ event.receiver = holder) := by
    rw [← mem_map_fst_postings, ← replayed.holds.posted.mem_iff, List.mem_map]
    simp only [ReplayState.result, mem_sortBy]
  have zero : ∀ row ∈ (state.result fallbackStart fallbackEnd).balances,
      row.holderAddress ≠ ZERO_ADDRESS := fun row mem =>
    ((holders row.assetId row.holderAddress).mp ⟨row, mem, rfl⟩).1
  refine ⟨?_, zero, holders, fun row mem => ?_, fun row mem => ?_, rfl, ?_⟩
  · exact (perm.map _).nodup_iff.mpr replayed.holds.posted.unique
  · rw [← net_postings events row.assetId (zero row mem)]
    exact replayed.holds.posted.balance_eq row (mem_sortBy.mp mem)
  · exact replayed.holds.nonneg row (mem_sortBy.mp mem)
  · intro activity mem
    obtain ⟨assetId, -, rfl⟩ := List.mem_map.mp mem
    exact replayed.activity perm fallbackStart fallbackEnd assetId

end Result

/-- Nothing of this depends on the order of the events. -/
theorem HolderReplay.Conserves.perm {replay : HolderReplay}
    {events events' : List TransferReplayEvent} (conserves : replay.Conserves events)
    (perm : events.Perm events') : replay.Conserves events' where
  unique := conserves.unique
  zero := conserves.zero
  holders assetId holder := by
    rw [conserves.holders]
    simp only [perm.mem_iff]
  balance row mem := by
    rw [conserves.balance row mem, credits_perm perm, debits_perm perm]
  nonneg := conserves.nonneg
  assets := conserves.assets
  activity activity mem := by
    have said := conserves.activity activity mem
    exact
      { said with
        transferVolume := said.transferVolume.trans
          ((peerTransfers_perm perm _).map _).sum_eq
        transferCount := said.transferCount.trans (peerTransfers_perm perm _).length_eq
        mintedVolume := said.mintedVolume.trans (debits_perm perm _ _)
        burnedVolume := said.burnedVolume.trans (credits_perm perm _ _)
        uniqueSenders := by rw [said.uniqueSenders, sendersOf_perm perm]
        uniqueReceivers := by rw [said.uniqueReceivers, receiversOf_perm perm]
        uniqueParticipants := by
          rw [said.uniqueParticipants, sendersOf_perm perm, receiversOf_perm perm] }

/-- Whatever is replayed conserves the tokens. -/
theorem conserves_of_replay {events : List TransferReplayEvent} {replay : HolderReplay}
    {fallbackStart fallbackEnd : ℤ}
    (run : replayHolderTransfers events fallbackStart fallbackEnd = .ok replay) :
    replay.Conserves events := by
  obtain ⟨state, through, rfl⟩ := map_eq_ok.mp run
  exact ((replayed_of_run through).conserves fallbackStart fallbackEnd).perm
    (perm_sortBy compareTransfers events)

/-- **The replay of a well-formed history.**  It fails exactly if a sender is overdrawn;
otherwise it conserves the tokens; and it does not depend on the order of the input. -/
theorem replayHolderTransfers_spec {events : List TransferReplayEvent}
    (wellFormed : WellFormedHistory events) (fallbackStart fallbackEnd : ℤ) :
    ((∃ error, replayHolderTransfers events fallbackStart fallbackEnd = .error error)
      ↔ Overdraws events) ∧
    (∀ replay, replayHolderTransfers events fallbackStart fallbackEnd = .ok replay →
      replay.Conserves events) ∧
    (∀ events', events.Perm events' →
      replayHolderTransfers events' fallbackStart fallbackEnd
        = replayHolderTransfers events fallbackStart fallbackEnd) := by
  refine ⟨?_, fun replay run => conserves_of_replay run, fun events' same => ?_⟩
  · rw [overdraws_iff wellFormed, ← run_error_iff fun event mem =>
      wellFormed.accepted event (mem_sortBy.mp mem)]
    rw [replayHolderTransfers]
    cases (sortBy compareTransfers events).foldlM replayStep ReplayState.empty with
    | error error => simp [Except.map]
    | ok state => simp [Except.map]
  · have separates : ∀ a ∈ events, ∀ b ∈ events,
        toLex a.position = toLex b.position → a = b := fun a ha b hb equal =>
      wellFormed.distinct.eq_of_key_eq _ ha hb (toLex.injective equal)
    rw [replayHolderTransfers, replayHolderTransfers,
      sortBy_eq_of_perm ordersBy_compareTransfers same separates]

/-- A hundred are minted, and forty of them passed on. -/
def mintAndSend : List TransferReplayEvent :=
  [⟨.usdp, 2, 2000, 0, "0x1111111111111111111111111111111111111111",
      "0x2222222222222222222222222222222222222222", 40⟩,
    ⟨.usdp, 1, 1000, 0, ZERO_ADDRESS, "0x1111111111111111111111111111111111111111", 100⟩]

theorem replayHolderTransfers_spec_mintAndSend :
    ∃ replay, replayHolderTransfers mintAndSend 0 3000 = .ok replay ∧
      replay.Conserves mintAndSend := by
  have wellFormed : WellFormedHistory mintAndSend := by
    refine ⟨by unfold KeyedTable.Unique; decide, ?_⟩
    simp only [mintAndSend, List.forall_mem_cons]
    exact ⟨⟨by decide, by decide +kernel, by decide +kernel⟩,
      ⟨by decide, by decide +kernel, by decide +kernel⟩, by simp⟩
  obtain ⟨fails, conserves, -⟩ := replayHolderTransfers_spec wellFormed 0 3000
  cases run : replayHolderTransfers mintAndSend 0 3000 with
  | error error => exact absurd (fails.mp ⟨error, run⟩) (by decide +kernel)
  | ok replay => exact ⟨replay, rfl, conserves replay run⟩

end UsdpIndexer
