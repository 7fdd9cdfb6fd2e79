import Mathlib.Algebra.BigOperators.Group.List.Basic
import Mathlib.Algebra.Order.Ring.Int
import Mathlib.Data.Finset.Card
import Mathlib.Data.String.Basic
import UsdpIndexer.Library.KeyedTable
import UsdpIndexer.Library.StableOrder
import UsdpIndexer.Protocol.Registry
import UsdpIndexer.Rpc.Errors

/-!
# Replaying transfers into balances

`replayHolderTransfers` of `analytics/holders.ts`: the transfers of both assets are
sorted by block and log index, and every one debits its sender and credits its
receiver in a map of balances, unless that is the zero address.

The second half of the file says what a history of transfers amounts to, in terms of
the list of its events alone: what each holder has been credited and debited, who has
taken part, and whether a sender ever has less than it sends.  That the replay
computes this is `replayHolderTransfers_spec`, in
`UsdpIndexer.Analytics.HolderConservation`.
-/

namespace UsdpIndexer

open KeyedTable hiding Unique
open StableOrder Text

/-- A decoded transfer; times in milliseconds. -/
structure TransferReplayEvent where
  assetId : ParallelAssetId
  blockNumber : ℤ
  blockTimestamp : ℤ
  logIndex : ℤ
  fromAddress : String
  toAddress : String
  value : ℤ
deriving DecidableEq, Repr

/-- What an account holds of an asset after the replay, and since when. -/
structure ReplayedHolderBalance where
  assetId : ParallelAssetId
  holderAddress : String
  balance : ℤ
  firstPositiveBlock : Option ℤ
  lastChangedBlock : ℤ
deriving DecidableEq, Repr

/-- The key of the map of balances. -/
def ReplayedHolderBalance.key (row : ReplayedHolderBalance) : ParallelAssetId × String :=
  (row.assetId, row.holderAddress)

/-- What the transfers of an asset come to. -/
structure ReplayedAssetActivity where
  assetId : ParallelAssetId
  windowStart : ℤ
  windowEnd : ℤ
  transferVolume : ℤ
  mintedVolume : ℤ
  burnedVolume : ℤ
  transferCount : ℕ
  uniqueSenders : ℕ
  uniqueReceivers : ℕ
  uniqueParticipants : ℕ
  newHolders : ℕ
  activeHolders : ℕ
deriving DecidableEq, Repr

/-- What a replay returns. -/
structure HolderReplay where
  balances : List ReplayedHolderBalance
  activity : List ReplayedAssetActivity
deriving DecidableEq, Repr

/-! ## The loop -/

/-- An address in lower case, if it is one. -/
def normalizedAddress (value : String) : Except JsError String :=
  let address := toLowerCase value
  if isHex 40 address then .ok address else .error ⟨s!"Invalid transfer address: {value}"⟩

/-- What is counted for an asset. -/
structure AssetMetric where
  transferVolume : ℤ
  mintedVolume : ℤ
  burnedVolume : ℤ
  transferCount : ℕ
  senders : Finset String
  receivers : Finset String
  participants : Finset String
  newHolders : ℕ
  windowStart : ℤ
  windowEnd : ℤ

/-- Nothing is counted yet, and the window is one moment. -/
def blankMetric (time : ℤ) : AssetMetric := ⟨0, 0, 0, 0, ∅, ∅, ∅, 0, time, time⟩

/-- So many accounts have begun to hold the asset. -/
def AssetMetric.countNew (metric : AssetMetric) (count : ℕ) : AssetMetric :=
  { metric with newHolders := metric.newHolders + count }

/-- The two maps of the loop. -/
structure ReplayState where
  states : List ReplayedHolderBalance
  metrics : ParallelAssetId → Option AssetMetric

/-- No account and no asset has been met. -/
def ReplayState.empty : ReplayState := ⟨[], fun _ => none⟩

/-- The name of an asset in the tables. -/
def ParallelAssetId.text : ParallelAssetId → String
  | .usdp => "usdp"
  | .susdp => "susdp"

/-- The row of a holder, or a new one. -/
def holderState (states : List ReplayedHolderBalance) (event : TransferReplayEvent)
    (holderAddress : String) : ReplayedHolderBalance :=
  (lookup ReplayedHolderBalance.key states (event.assetId, holderAddress)).getD
    ⟨event.assetId, holderAddress, 0, none, event.blockNumber⟩

/-- The balance becomes positive for the first time. -/
def ReplayedHolderBalance.Opens (state : ReplayedHolderBalance) (delta : ℤ) : Prop :=
  state.firstPositiveBlock = none ∧ state.balance + delta > 0

instance (state : ReplayedHolderBalance) (delta : ℤ) : Decidable (state.Opens delta) :=
  inferInstanceAs (Decidable (_ ∧ _))

/-- The row after an amount has been added. -/
def ReplayedHolderBalance.changed (state : ReplayedHolderBalance) (block delta : ℤ) :
    ReplayedHolderBalance :=
  { state with
    firstPositiveBlock := if state.Opens delta then some block else state.firstPositiveBlock
    balance := state.balance + delta
    lastChangedBlock := block }

/-- `update`: an amount is added to the balance of a holder. -/
def updateHolder (event : TransferReplayEvent) (holderAddress : String) (delta : ℤ)
    (ledger : List ReplayedHolderBalance × AssetMetric) :
    Except JsError (List ReplayedHolderBalance × AssetMetric) :=
  if holderAddress = ZERO_ADDRESS then .ok ledger
  else
    let state := holderState ledger.1 event holderAddress
    let asset := event.assetId.text
    let block := event.blockNumber
    if state.balance + delta < 0 then
      .error ⟨s!"{asset} holder {holderAddress} became negative at block {block}"⟩
    else
      .ok (upsert ReplayedHolderBalance.key (fun _ new => new) ledger.1
          (state.changed block delta),
        if state.Opens delta then ledger.2.countNew 1 else ledger.2)

/-- The window of the metric takes the event in. -/
def AssetMetric.widen (metric : AssetMetric) (time : ℤ) : AssetMetric :=
  let metric := if time < metric.windowStart then { metric with windowStart := time } else metric
  if time > metric.windowEnd then { metric with windowEnd := time } else metric

/-- What is counted after the two updates. -/
def AssetMetric.record (metric : AssetMetric) (sender receiver : String) (value : ℤ) :
    AssetMetric :=
  let metric :=
    if sender = ZERO_ADDRESS then { metric with mintedVolume := metric.mintedVolume + value }
    else { metric with
      senders := insert sender metric.senders
      participants := insert sender metric.participants }
  let metric :=
    if receiver = ZERO_ADDRESS then { metric with burnedVolume := metric.burnedVolume + value }
    else { metric with
      receivers := insert receiver metric.receivers
      participants := insert receiver metric.participants }
  if sender ≠ ZERO_ADDRESS ∧ receiver ≠ ZERO_ADDRESS then
    { metric with
      transferVolume := metric.transferVolume + value
      transferCount := metric.transferCount + 1 }
  else metric

/-- One turn of the loop. -/
def replayStep (state : ReplayState) (event : TransferReplayEvent) : Except JsError ReplayState :=
  if event.value < 0 then .error ⟨"Transfer value cannot be negative"⟩
  else do
    let sender ← normalizedAddress event.fromAddress
    let receiver ← normalizedAddress event.toAddress
    let metric := ((state.metrics event.assetId).getD (blankMetric event.blockTimestamp)).widen
      event.blockTimestamp
    -- the debit comes first, so a transfer to oneself has to be covered as well
    let debited ← updateHolder event sender (-event.value) (state.states, metric)
    let credited ← updateHolder event receiver event.value debited
    return {
      states := credited.1
      metrics := Function.update state.metrics event.assetId
        (some (credited.2.record sender receiver event.value)) }

/-- The comparator of the events. -/
def compareTransfers : TransferReplayEvent → TransferReplayEvent → ℤ :=
  lexCompare (·.blockNumber) (·.logIndex)

/-- `localeCompare` on the names of the assets and on lower-case hexadecimal strings,
where it is the order of the characters. -/
def localeCompare (left right : String) : ℤ :=
  if left < right then -1 else if left = right then 0 else 1

/-- The comparator of the balances. -/
def compareBalances (left right : ReplayedHolderBalance) : ℤ :=
  let byAsset := localeCompare left.assetId.text right.assetId.text
  if byAsset ≠ 0 then byAsset else localeCompare left.holderAddress right.holderAddress

/-- The activity of an asset, with the fallback window where nothing has happened. -/
def assetActivity (fallbackStart fallbackEnd : ℤ) (balances : List ReplayedHolderBalance)
    (state : ReplayState) (assetId : ParallelAssetId) : ReplayedAssetActivity :=
  let metric := state.metrics assetId
  let assetBalances := balances.filter fun row => row.assetId = assetId
  { assetId := assetId
    windowStart := (metric.map (·.windowStart)).getD fallbackStart
    windowEnd := (metric.map (·.windowEnd)).getD fallbackEnd
    transferVolume := (metric.map (·.transferVolume)).getD 0
    mintedVolume := (metric.map (·.mintedVolume)).getD 0
    burnedVolume := (metric.map (·.burnedVolume)).getD 0
    transferCount := (metric.map (·.transferCount)).getD 0
    uniqueSenders := (metric.map (·.senders.card)).getD 0
    uniqueReceivers := (metric.map (·.receivers.card)).getD 0
    uniqueParticipants := (metric.map (·.participants.card)).getD 0
    newHolders := (metric.map (·.newHolders)).getD 0
    activeHolders := (assetBalances.filter fun row => row.balance > 0).length }

/-- What is returned after the loop. -/
def ReplayState.result (fallbackStart fallbackEnd : ℤ) (state : ReplayState) : HolderReplay :=
  let balances := sortBy compareBalances state.states
  { balances := balances
    activity := [.usdp, .susdp].map (assetActivity fallbackStart fallbackEnd balances state) }

/-- The transfers in the order of the chain, one after the other; the replay stops at the first that
cannot be. -/
def replayHolderTransfers (events : List TransferReplayEvent) (fallbackStart fallbackEnd : ℤ) :
    Except JsError HolderReplay :=
  ((sortBy compareTransfers events).foldlM replayStep ReplayState.empty).map
    (ReplayState.result fallbackStart fallbackEnd)

/-! ## What a history amounts to -/

namespace TransferReplayEvent

/-- The account that a transfer is from, in lower case. -/
def sender (event : TransferReplayEvent) : String := toLowerCase event.fromAddress

/-- The account that a transfer goes to, in lower case. -/
def receiver (event : TransferReplayEvent) : String := toLowerCase event.toAddress

/-- Where the event is on the chain. -/
def position (event : TransferReplayEvent) : ℤ × ℤ := (event.blockNumber, event.logIndex)

/-- The order of the chain. -/
def Precedes (a b : TransferReplayEvent) : Prop :=
  a.blockNumber < b.blockNumber ∨ (a.blockNumber = b.blockNumber ∧ a.logIndex < b.logIndex)

instance (a b : TransferReplayEvent) : Decidable (a.Precedes b) :=
  inferInstanceAs (Decidable (_ ∨ _))

end TransferReplayEvent

theorem ordersBy_compareTransfers :
    OrdersBy compareTransfers fun event => toLex event.position :=
  ordersBy_lexCompare _ _

section History

variable (events : List TransferReplayEvent) (assetId : ParallelAssetId)

/-- What has been sent to a holder. -/
def credits (holder : String) : ℤ :=
  ((events.filter fun event => event.assetId = assetId ∧ event.receiver = holder).map
    (·.value)).sum

/-- What a holder has sent. -/
def debits (holder : String) : ℤ :=
  ((events.filter fun event => event.assetId = assetId ∧ event.sender = holder).map
    (·.value)).sum

/-- The addresses that have sent, other than the zero address. -/
def sendersOf : Finset String :=
  ((events.filter fun event => event.assetId = assetId).map (·.sender)).toFinset.erase
    ZERO_ADDRESS

/-- The addresses that have received, other than the zero address. -/
def receiversOf : Finset String :=
  ((events.filter fun event => event.assetId = assetId).map (·.receiver)).toFinset.erase
    ZERO_ADDRESS

/-- The transfers between two holders. -/
def peerTransfers : List TransferReplayEvent :=
  events.filter fun event => event.assetId = assetId ∧ event.sender ≠ ZERO_ADDRESS ∧
    event.receiver ≠ ZERO_ADDRESS

/-- A sender other than the zero address has less than it sends: what the events
before have left it is below the value. -/
def Overdraws : Prop :=
  ∃ event ∈ events, event.sender ≠ ZERO_ADDRESS ∧
    let earlier := events.filter fun other => other.Precedes event
    credits earlier event.assetId event.sender - debits earlier event.assetId event.sender
      < event.value

instance : Decidable (Overdraws events) :=
  inferInstanceAs (Decidable (∃ event ∈ events, _ ∧ _))

end History

theorem peerTransfers_perm {events events' : List TransferReplayEvent}
    (perm : events.Perm events') (assetId : ParallelAssetId) :
    (peerTransfers events assetId).Perm (peerTransfers events' assetId) :=
  perm.filter _

theorem credits_perm {events events' : List TransferReplayEvent} (perm : events.Perm events')
    (assetId : ParallelAssetId) (holder : String) :
    credits events assetId holder = credits events' assetId holder :=
  ((perm.filter _).map _).sum_eq

theorem debits_perm {events events' : List TransferReplayEvent} (perm : events.Perm events')
    (assetId : ParallelAssetId) (holder : String) :
    debits events assetId holder = debits events' assetId holder :=
  ((perm.filter _).map _).sum_eq

theorem sendersOf_perm {events events' : List TransferReplayEvent} (perm : events.Perm events')
    (assetId : ParallelAssetId) : sendersOf events assetId = sendersOf events' assetId :=
  congrArg (·.erase ZERO_ADDRESS) (List.toFinset_eq_of_perm _ _ ((perm.filter _).map _))

theorem receiversOf_perm {events events' : List TransferReplayEvent}
    (perm : events.Perm events') (assetId : ParallelAssetId) :
    receiversOf events assetId = receiversOf events' assetId :=
  congrArg (·.erase ZERO_ADDRESS) (List.toFinset_eq_of_perm _ _ ((perm.filter _).map _))

section Snoc

variable (front : List TransferReplayEvent) (event : TransferReplayEvent)
  (assetId : ParallelAssetId)

theorem credits_concat (holder : String) :
    credits (front ++ [event]) assetId holder = credits front assetId holder
      + if event.assetId = assetId ∧ event.receiver = holder then event.value else 0 := by
  by_cases own : event.assetId = assetId ∧ event.receiver = holder <;>
    simp [credits, own]

theorem debits_concat (holder : String) :
    debits (front ++ [event]) assetId holder = debits front assetId holder
      + if event.assetId = assetId ∧ event.sender = holder then event.value else 0 := by
  by_cases own : event.assetId = assetId ∧ event.sender = holder <;>
    simp [debits, own]

theorem sendersOf_concat :
    sendersOf (front ++ [event]) assetId
      = if event.assetId = assetId ∧ event.sender ≠ ZERO_ADDRESS
        then insert event.sender (sendersOf front assetId) else sendersOf front assetId := by
  ext address
  by_cases own : event.assetId = assetId <;> by_cases zero : event.sender = ZERO_ADDRESS <;>
    simp [sendersOf, own, zero]
  grind

theorem receiversOf_concat :
    receiversOf (front ++ [event]) assetId
      = if event.assetId = assetId ∧ event.receiver ≠ ZERO_ADDRESS
        then insert event.receiver (receiversOf front assetId)
        else receiversOf front assetId := by
  ext address
  by_cases own : event.assetId = assetId <;> by_cases zero : event.receiver = ZERO_ADDRESS <;>
    simp [receiversOf, own, zero]
  grind

theorem peerTransfers_concat :
    peerTransfers (front ++ [event]) assetId = peerTransfers front assetId
      ++ if event.assetId = assetId ∧ event.sender ≠ ZERO_ADDRESS ∧
          event.receiver ≠ ZERO_ADDRESS then [event] else [] := by
  rw [peerTransfers, List.filter_append, peerTransfers, List.filter_singleton]
  simp only [Bool.cond_decide]

end Snoc

end UsdpIndexer
