import Mathlib.Data.Finset.Card
import UsdpIndexer.Indexer.Store
import UsdpIndexer.Library.FailingFold
import UsdpIndexer.Library.Grouping
import UsdpIndexer.Library.IntegerText
import UsdpIndexer.Library.Postings

/-!
# Economic events

`analytics/economic-events.ts`.  The decoded events are grouped into transactions and
classified one by one; what does not move anything of interest is dropped, and a payload
that is not as the decoder writes it makes the whole classification throw.  Of the
classified events five kinds are native flows, which are added up in buckets of an hour or
a day.

Times are milliseconds since the epoch, and an amount, which is a string of digits in the
source, is a natural number.
-/

namespace UsdpIndexer

open Text KeyedTable StableOrder FailingFold

namespace EconomicEvents

/-- The version under which flows are stored. -/
def FLOW_CALCULATION_VERSION : String := "parallel-usdp-flows-v1-candidate"

/-! ## Classifications -/

/-- What the flows of the protocol are counted under. -/
inductive NativeFlowMetric
  | usdp_issued
  | usdp_burned_for_collateral
  | usdp_redeemed
  | susdp_deposited
  | susdp_withdrawn
deriving DecidableEq, Repr

/-- A metric among its likes, as `localeCompare` orders them. -/
def NativeFlowMetric.rank : NativeFlowMetric → ℤ
  | .susdp_deposited => 0
  | .susdp_withdrawn => 1
  | .usdp_burned_for_collateral => 2
  | .usdp_issued => 3
  | .usdp_redeemed => 4

/-- The name of a metric in the table. -/
def NativeFlowMetric.text : NativeFlowMetric → String
  | .usdp_issued => "usdp_issued"
  | .usdp_burned_for_collateral => "usdp_burned_for_collateral"
  | .usdp_redeemed => "usdp_redeemed"
  | .susdp_deposited => "susdp_deposited"
  | .susdp_withdrawn => "susdp_withdrawn"

/-- A classification is a native flow or one of the others. -/
inductive EconomicClassification
  | native (metric : NativeFlowMetric)
  | susdp_accrued
  | susdp_rate_updated
  | susdp_max_rate_updated
  | susdp_pause_toggled
  | susdp_transfer
  | usdp_transfer
  | parallelizer_swap_other
deriving DecidableEq, Repr

/-- An event as the classification takes it. -/
structure ProtocolEventInput where
  id : ℕ
  chainId : ℕ
  blockNumber : ℤ
  blockTimestamp : ℤ
  transactionHash : String
  logIndex : ℕ
  contractRole : String
  eventName : String
  payload : Json

/-- What is found out about an event on its own. -/
structure BaseClassification extends ProtocolEventInput where
  classification : EconomicClassification
  amountBaseUnits : Option ℕ
  assetAddress : Option String
  primaryParticipant : Option String
  secondaryParticipant : Option String

/-- … and in its transaction. -/
structure ClassifiedEconomicEvent extends BaseClassification where
  transactionEventCount : ℕ
  transactionEventNames : List String

/-! ## Payloads -/

/-- `payloadString`: the text under a key, which may not be empty. -/
def payloadString (payload : Json) (key : String) : Except JsError String :=
  match payload with
  | .object fields =>
      match fields.lookup key with
      | some (.decimal value) => .ok (toString value)
      | some (.text value) =>
          if value = "" then .error ⟨s!"Decoded protocol event payload is missing {key}"⟩
          else .ok value
      | _ => .error ⟨s!"Decoded protocol event payload is missing {key}"⟩
  | _ => .error ⟨"Decoded protocol event payload must be an object"⟩

/-- The number that a string of digits stands for, under the check `^[0-9]+$`. -/
def unsignedAmount (payload : Json) (key : String) : Except JsError ℕ := do
  let value ← payloadString payload key
  if value.toList.all Char.isDigit then return decimalValue value.toList
  else .error ⟨s!"Decoded protocol event {key} must be an unsigned integer"⟩

section Classify

/-! ## One event

`isAddress` is that of the `viem` package; `getAddress` changes nothing but the case of an
address that passes it. -/

variable (isAddress : String → Bool)

/-- An address of the payload, in lower case. -/
def normalizedAddress (payload : Json) (key : String) : Except JsError String := do
  let value ← payloadString payload key
  if isAddress value then return toLowerCase value
  else .error ⟨s!"Decoded protocol event {key} must be an EVM address"⟩

/-- Where an asset is deployed on a chain. -/
def findParallelDeployment (assetId : ParallelAssetId) (chainId : ℕ) :
    Option ParallelChainDeployment :=
  (match assetId with
    | .usdp => usdpDeployments
    | .susdp => susdpDeployments).find? (·.chainId = chainId)

/-- The classification of an event that states a figure. -/
def figure (event : ProtocolEventInput) (classification : EconomicClassification)
    (assetAddress : Option String) (amountKey : String) :
    Except JsError (Option BaseClassification) := do
  let amount ← unsignedAmount event.payload amountKey
  return some ⟨event, classification, some amount, assetAddress, none, none⟩

/-- The classification of an event that moves an amount for one participant to another. -/
def movement (event : ProtocolEventInput) (classification : EconomicClassification)
    (assetAddress amountKey primaryKey secondaryKey : String) :
    Except JsError (Option BaseClassification) := do
  let amount ← unsignedAmount event.payload amountKey
  let primaryParticipant ← normalizedAddress isAddress event.payload primaryKey
  let secondaryParticipant ← normalizedAddress isAddress event.payload secondaryKey
  return some ⟨event, classification, some amount, some assetAddress, some primaryParticipant,
    some secondaryParticipant⟩

/-- An event of the vault. -/
def classifySavings (event : ProtocolEventInput) (usdp susdp : String) :
    Except JsError (Option BaseClassification) :=
  if event.eventName = "Deposit" then
    movement isAddress event (.native .susdp_deposited) usdp "assets" "owner" "sender"
  else if event.eventName = "Withdraw" then
    movement isAddress event (.native .susdp_withdrawn) usdp "assets" "owner" "receiver"
  else if event.eventName = "Accrued" then figure event .susdp_accrued (some usdp) "interest"
  else if event.eventName = "RateUpdated" then figure event .susdp_rate_updated none "newRate"
  else if event.eventName = "MaxRateUpdated" then
    figure event .susdp_max_rate_updated none "newMaxRate"
  else if event.eventName = "ToggledPause" then
    figure event .susdp_pause_toggled none "pauseStatus"
  else if event.eventName = "Transfer" then
    movement isAddress event .susdp_transfer susdp "value" "from" "to"
  else .ok none

/-- A swap counts if USDp is one of its two tokens. -/
def classifySwap (event : ProtocolEventInput) (usdp : String) :
    Except JsError (Option BaseClassification) := do
  let tokenIn ← normalizedAddress isAddress event.payload "tokenIn"
  let tokenOut ← normalizedAddress isAddress event.payload "tokenOut"
  if tokenOut = usdp ∧ tokenIn = usdp then
    .error ⟨"Parallelizer Swap cannot use USDp as both input and output"⟩
  else if tokenOut = usdp then
    movement isAddress event (.native .usdp_issued) usdp "amountOut" "from" "to"
  else if tokenIn = usdp then
    movement isAddress event (.native .usdp_burned_for_collateral) usdp "amountIn" "from" "to"
  else do
    let primaryParticipant ← normalizedAddress isAddress event.payload "from"
    let secondaryParticipant ← normalizedAddress isAddress event.payload "to"
    return some ⟨event, .parallelizer_swap_other, none, none, some primaryParticipant,
      some secondaryParticipant⟩

/-- What an event is by itself, by the contract it is from and its name. -/
def classifyEvent (event : ProtocolEventInput) : Except JsError (Option BaseClassification) :=
  match findParallelDeployment .usdp event.chainId, findParallelDeployment .susdp event.chainId with
  | some usdpDeployment, some susdpDeployment =>
      let usdp := usdpDeployment.address
      let susdp := susdpDeployment.address
      if event.contractRole = "susdp-savings" then classifySavings isAddress event usdp susdp
      else if event.contractRole = "usdp-token" ∧ event.eventName = "Transfer" then
        movement isAddress event .usdp_transfer usdp "value" "from" "to"
      else if event.contractRole = "usdp-parallelizer" ∧ event.eventName = "Swap" then
        classifySwap isAddress event usdp
      else if event.contractRole = "usdp-parallelizer" ∧ event.eventName = "Redeemed" then
        movement isAddress event (.native .usdp_redeemed) usdp "amount" "from" "to"
      else .ok none
  | _, _ => .error ⟨s!"Missing savings deployment for chain {event.chainId}"⟩

/-! ## Transactions -/

/-- The events of one transaction. -/
def classifyTransaction (transaction : List ProtocolEventInput) :
    Except JsError (List ClassifiedEconomicEvent) := do
  let ordered := sortBy (fun left right => (left.logIndex : ℤ) - right.logIndex) transaction
  let transactionEventNames := ordered.map fun event =>
    s!"{event.contractRole}:{event.eventName}"
  let classified ← ordered.mapM (classifyEvent isAddress)
  return (classified.filterMap id).map fun base =>
    ⟨base, ordered.length, transactionEventNames⟩

/-- An event with its transaction hash in lower case. -/
def lowerCased (event : ProtocolEventInput) : ProtocolEventInput :=
  { event with transactionHash := toLowerCase event.transactionHash }

/-- The events are grouped by their transactions, and each transaction is classified as a whole. -/
def classifyProtocolTransactions (events : List ProtocolEventInput) :
    Except JsError (List ClassifiedEconomicEvent) := do
  let transactions := Grouping.groupBy (·.transactionHash) (events.map lowerCased)
  let classified ← transactions.mapM fun transaction =>
    classifyTransaction isAddress transaction.2
  return classified.flatten

end Classify

/-! ## Buckets -/

/-- How long a bucket is. -/
inductive FlowGranularity
  | hour
  | day
deriving DecidableEq, Repr

/-- Its length. -/
def FlowGranularity.milliseconds : FlowGranularity → ℤ
  | .hour => 3600000
  | .day => 86400000

/-- The hour or the day that a time is in. -/
def bucketStart (timestamp : ℤ) (granularity : FlowGranularity) : ℤ :=
  timestamp - timestamp % granularity.milliseconds

/-- A bucket of a metric while it is filled. -/
structure FlowBucket where
  bucketStart : ℤ
  metric : NativeFlowMetric
  amount : ℕ
  eventCount : ℕ
  participants : Finset String

/-- The start and the metric, which no two buckets share. -/
def FlowBucket.key (bucket : FlowBucket) : ℤ × NativeFlowMetric :=
  (bucket.bucketStart, bucket.metric)

/-- A bucket of a metric as it is stored. -/
structure FlowAggregate where
  granularity : FlowGranularity
  bucketStart : ℤ
  metric : NativeFlowMetric
  amountBaseUnits : ℕ
  eventCount : ℕ
  uniqueParticipants : ℕ
deriving DecidableEq, Repr

/-- The set with a participant, if there is one. -/
def withParticipant (participants : Finset String) : Option String → Finset String
  | some participant => if participant = "" then participants else insert participant participants
  | none => participants

/-- `buckets.get(key)`, or a blank bucket. -/
def bucketAt (buckets : List FlowBucket) (start : ℤ) (metric : NativeFlowMetric) : FlowBucket :=
  (lookup FlowBucket.key buckets (start, metric)).getD ⟨start, metric, 0, 0, ∅⟩

/-- Put one event into its bucket. -/
def addToBucket (granularity : FlowGranularity) (buckets : List FlowBucket)
    (event : ClassifiedEconomicEvent) : Except JsError (List FlowBucket) :=
  match event.classification with
  | .native metric =>
      match event.amountBaseUnits with
      | none => .error ⟨s!"{metric.text} is missing its amount"⟩
      | some amount =>
          let bucket := bucketAt buckets (bucketStart event.blockTimestamp granularity) metric
          .ok (upsert FlowBucket.key (fun _ new => new) buckets
            { bucket with
              amount := bucket.amount + amount
              eventCount := bucket.eventCount + 1
              participants := withParticipant bucket.participants event.primaryParticipant })
  | _ => .ok buckets

/-- The participants are counted. -/
def FlowBucket.aggregate (granularity : FlowGranularity) (bucket : FlowBucket) : FlowAggregate where
  granularity := granularity
  bucketStart := bucket.bucketStart
  metric := bucket.metric
  amountBaseUnits := bucket.amount
  eventCount := bucket.eventCount
  uniqueParticipants := bucket.participants.card

/-- The buckets of all events, in the order of their starts and metrics. -/
def aggregateNativeFlows (events : List ClassifiedEconomicEvent) (granularity : FlowGranularity) :
    Except JsError (List FlowAggregate) := do
  let buckets ← events.foldlM (addToBucket granularity) []
  return (sortBy (lexCompare (·.bucketStart) fun bucket => bucket.metric.rank) buckets).map
    (FlowBucket.aggregate granularity)

/-- How many accounts have deposited and withdrawn. -/
structure FlowParticipantSummary where
  uniqueDepositors : ℕ
  uniqueWithdrawers : ℕ
deriving DecidableEq, Repr

/-- The participants of one kind of event. -/
def participantsOf (events : List ClassifiedEconomicEvent)
    (classification : EconomicClassification) : Finset String :=
  (events.filter (·.classification = classification)).foldl
    (fun participants event => withParticipant participants event.primaryParticipant) ∅

/-- Each account is counted once. -/
def summarizeFlowParticipants (events : List ClassifiedEconomicEvent) : FlowParticipantSummary where
  uniqueDepositors := (participantsOf events (.native .susdp_deposited)).card
  uniqueWithdrawers := (participantsOf events (.native .susdp_withdrawn)).card

/-! ## What a classification says of the vault's flows -/

/-- `BigInt(payload.assets)`. -/
def assetsOf (payload : Json) : ℕ :=
  match payload.field "assets" with
  | some (.decimal value) => value.toNat
  | some (.text value) => decimalValue value.toList
  | _ => 0

theorem unsignedAmount_assets {payload : Json} {amount : ℕ}
    (valid : unsignedAmount payload "assets" = .ok amount) : amount = assetsOf payload := by
  obtain ⟨text, read, checked⟩ := bind_eq_ok.mp valid
  split at checked
  · rename_i digits
    cases checked
    unfold payloadString at read
    split at read
    · rename_i fields
      split at read
      · rename_i value found
        cases read
        have field : (Json.object fields).field "assets" = some (.decimal value) := found
        rw [assetsOf, field]
        exact IntegerText.decimalValue_toString digits
      · rename_i value found
        split at read
        · cases read
        · cases read
          have field : (Json.object fields).field "assets" = some (.text text) := found
          rw [assetsOf, field]
      · cases read
    · cases read
  · cases checked

/-- The flow of a metric that a classified event is. -/
def BaseClassification.flow (base : BaseClassification) (metric : NativeFlowMetric) : Option ℕ :=
  if base.classification = .native metric then base.amountBaseUnits else none

theorem BaseClassification.flow_of_ne {base : BaseClassification} {metric : NativeFlowMetric}
    (other : base.classification ≠ .native metric) : base.flow metric = none := if_neg other

section Flows

variable {isAddress : String → Bool} {event : ProtocolEventInput}

theorem movement_eq_ok {classification : EconomicClassification}
    {assetAddress amountKey primaryKey secondaryKey : String} {result : Option BaseClassification}
    (moved : movement isAddress event classification assetAddress amountKey primaryKey
      secondaryKey = .ok result) :
    ∃ base amount, result = some base ∧ base.toProtocolEventInput = event ∧
      base.classification = classification ∧ base.amountBaseUnits = some amount ∧
      unsignedAmount event.payload amountKey = .ok amount := by
  obtain ⟨amount, read, moved⟩ := bind_eq_ok.mp moved
  obtain ⟨primaryParticipant, -, moved⟩ := bind_eq_ok.mp moved
  obtain ⟨secondaryParticipant, -, moved⟩ := bind_eq_ok.mp moved
  cases moved
  exact ⟨_, amount, rfl, rfl, rfl, rfl, read⟩

theorem figure_eq_ok {classification : EconomicClassification} {assetAddress : Option String}
    {amountKey : String} {result : Option BaseClassification}
    (stated : figure event classification assetAddress amountKey = .ok result) :
    ∃ base amount, result = some base ∧ base.toProtocolEventInput = event ∧
      base.classification = classification ∧ base.amountBaseUnits = some amount ∧
      unsignedAmount event.payload amountKey = .ok amount := by
  obtain ⟨amount, read, stated⟩ := bind_eq_ok.mp stated
  cases stated
  exact ⟨_, amount, rfl, rfl, rfl, rfl, read⟩

/-- A classification that is not of the metric. -/
theorem flow_of_figure {classification : EconomicClassification} {assetAddress : Option String}
    {amountKey : String} {result : Option BaseClassification} {metric : NativeFlowMetric}
    (stated : figure event classification assetAddress amountKey = .ok result)
    (other : classification ≠ .native metric) : result.bind (·.flow metric) = none := by
  obtain ⟨base, amount, rfl, -, rfl, -, -⟩ := figure_eq_ok stated
  exact BaseClassification.flow_of_ne other

theorem flow_of_movement {classification : EconomicClassification}
    {assetAddress amountKey primaryKey secondaryKey : String} {result : Option BaseClassification}
    {metric : NativeFlowMetric}
    (moved : movement isAddress event classification assetAddress amountKey primaryKey
      secondaryKey = .ok result)
    (other : classification ≠ .native metric) : result.bind (·.flow metric) = none := by
  obtain ⟨base, amount, rfl, -, rfl, -, -⟩ := movement_eq_ok moved
  exact BaseClassification.flow_of_ne other

/-- The two metrics of the vault and the events that they count. -/
inductive VaultFlow : NativeFlowMetric → String → Prop
  | deposited : VaultFlow .susdp_deposited "Deposit"
  | withdrawn : VaultFlow .susdp_withdrawn "Withdraw"

/-- The flow of the vault that an event is, by its own columns. -/
def vaultFlow (eventName : String) (event : ProtocolEventInput) : Option ℕ :=
  if event.contractRole = "susdp-savings" ∧ event.eventName = eventName then
    some (assetsOf event.payload)
  else none

/-- The event of a metric is classified with its assets. -/
theorem flow_of_vaultMovement {metric : NativeFlowMetric} {assetAddress secondaryKey : String}
    {result : Option BaseClassification} {eventName : String}
    (moved : movement isAddress event (.native metric) assetAddress "assets" "owner" secondaryKey
      = .ok result)
    (role : event.contractRole = "susdp-savings") (name : event.eventName = eventName) :
    result.bind (·.flow metric) = vaultFlow eventName event := by
  obtain ⟨base, amount, rfl, -, same, stated, valid⟩ := movement_eq_ok moved
  rw [vaultFlow, if_pos ⟨role, name⟩, ← unsignedAmount_assets valid, ← stated]
  exact if_pos same

theorem flow_of_classifySavings {metric : NativeFlowMetric} {eventName usdp susdp : String}
    (vault : VaultFlow metric eventName) {result : Option BaseClassification}
    (role : event.contractRole = "susdp-savings")
    (classified : classifySavings isAddress event usdp susdp = .ok result) :
    result.bind (·.flow metric) = vaultFlow eventName event := by
  have elsewhere (other : event.eventName ≠ eventName) : vaultFlow eventName event = none :=
    if_neg fun both => other both.2
  unfold classifySavings at classified
  split at classified
  · rename_i name
    cases vault with
    | deposited => exact flow_of_vaultMovement classified role name
    | withdrawn =>
        rw [elsewhere (by rw [name]; decide)]
        exact flow_of_movement classified (by decide)
  · rename_i notDeposit
    split at classified
    · rename_i name
      cases vault with
      | withdrawn => exact flow_of_vaultMovement classified role name
      | deposited =>
          rw [elsewhere notDeposit]
          exact flow_of_movement classified (by decide)
    · rename_i notWithdraw
      rw [elsewhere (by cases vault <;> assumption)]
      -- the other events of the vault are not native flows
      iterate 4
        split at classified
        · exact flow_of_figure classified (by simp)
      split at classified
      · exact flow_of_movement classified (by simp)
      · cases classified
        rfl

theorem flow_of_classifySwap {metric : NativeFlowMetric} {eventName usdp : String}
    (vault : VaultFlow metric eventName) {result : Option BaseClassification}
    (classified : classifySwap isAddress event usdp = .ok result) :
    result.bind (·.flow metric) = none := by
  obtain ⟨tokenIn, -, classified⟩ := bind_eq_ok.mp classified
  obtain ⟨tokenOut, -, classified⟩ := bind_eq_ok.mp classified
  split at classified
  · cases classified
  · split at classified
    · exact flow_of_movement classified (by cases vault <;> simp)
    · split at classified
      · exact flow_of_movement classified (by cases vault <;> simp)
      · obtain ⟨primaryParticipant, -, classified⟩ := bind_eq_ok.mp classified
        obtain ⟨secondaryParticipant, -, classified⟩ := bind_eq_ok.mp classified
        cases classified
        rw [Option.bind_some, BaseClassification.flow_of_ne (by simp)]

/-- **The flows of the vault are its deposits and withdrawals**, each with its assets. -/
theorem flow_of_classifyEvent {metric : NativeFlowMetric} {eventName : String}
    (vault : VaultFlow metric eventName) {result : Option BaseClassification}
    (classified : classifyEvent isAddress event = .ok result) :
    result.bind (·.flow metric) = vaultFlow eventName event := by
  -- an event that is not one of the vault's
  have elsewhere (role : event.contractRole ≠ "susdp-savings") :
      vaultFlow eventName event = none := if_neg fun both => role both.1
  unfold classifyEvent at classified
  split at classified
  · simp only at classified
    split at classified
    · rename_i role
      exact flow_of_classifySavings vault role classified
    · rename_i role
      rw [elsewhere role]
      split at classified
      · exact flow_of_movement classified (by simp)
      · split at classified
        · exact flow_of_classifySwap vault classified
        · split at classified
          · exact flow_of_movement classified (by cases vault <;> simp)
          · cases classified
            rfl
  · cases classified

/-- Lower case hashes leave the flows as they are. -/
@[simp] theorem vaultFlow_lowerCased (eventName : String) (event : ProtocolEventInput) :
    vaultFlow eventName (lowerCased event) = vaultFlow eventName event := rfl

section Reading

/-! What is read off a classified event alone does not depend on its transaction. -/

variable {β : Type*} {read : BaseClassification → Option β} {said : ProtocolEventInput → Option β}

/-- What is read off the events of a transaction. -/
theorem read_of_classifyTransaction
    (reads : ∀ event result, classifyEvent isAddress event = .ok result →
      result.bind read = said event)
    {transaction : List ProtocolEventInput} {classified : List ClassifiedEconomicEvent}
    (result : classifyTransaction isAddress transaction = .ok classified) :
    (classified.filterMap fun event => read event.toBaseClassification).Perm
      (transaction.filterMap said) := by
  obtain ⟨bases, run, result⟩ := bind_eq_ok.mp result
  cases result
  have same := map_of_mapM_eq_ok run reads
  rw [List.filterMap_map]
  show ((bases.filterMap id).filterMap read).Perm _
  have split : (bases.filterMap id).filterMap read
      = (bases.map fun result => result.bind read).filterMap id := by
    rw [List.filterMap_filterMap, List.filterMap_map]
    rfl
  rw [split, same, List.filterMap_map]
  exact (perm_sortBy _ transaction).filterMap _

/-- What is read off the events of a list of transactions. -/
theorem read_of_transactions
    (reads : ∀ event result, classifyEvent isAddress event = .ok result →
      result.bind read = said event)
    {transactions : List (String × List ProtocolEventInput)}
    {parts : List (List ClassifiedEconomicEvent)}
    (result : (transactions.mapM fun transaction => classifyTransaction isAddress transaction.2)
      = .ok parts) :
    (parts.flatten.filterMap fun event => read event.toBaseClassification).Perm
      ((transactions.flatMap Prod.snd).filterMap said) := by
  rw [mapM_eq_ok] at result
  induction result with
  | nil => exact .nil
  | cons head tail ih =>
      rw [List.flatten_cons, List.filterMap_append, List.flatMap_cons, List.filterMap_append]
      exact (read_of_classifyTransaction reads head).append ih

/-- **The grouping does not matter**: what is read off all classified events is what each
event says by itself. -/
theorem read_of_classifyProtocolTransactions
    (reads : ∀ event result, classifyEvent isAddress event = .ok result →
      result.bind read = said event)
    {events : List ProtocolEventInput} {classified : List ClassifiedEconomicEvent}
    (result : classifyProtocolTransactions isAddress events = .ok classified) :
    (classified.filterMap fun event => read event.toBaseClassification).Perm
      (events.filterMap fun event => said (lowerCased event)) := by
  obtain ⟨parts, run, result⟩ := bind_eq_ok.mp result
  cases result
  have grouped := (@Grouping.flatMap_groupBy_perm _ _ _ (·.transactionHash)
    (events.map lowerCased)).filterMap said
  rw [List.filterMap_map] at grouped
  exact (read_of_transactions reads run).trans grouped

end Reading

/-- **The flows of all events.**  Whatever their transactions are, the classified deposits
are the deposits that were put in, with their assets, and so are the withdrawals. -/
theorem flows_of_classifyProtocolTransactions {metric : NativeFlowMetric} {eventName : String}
    (vault : VaultFlow metric eventName) {events : List ProtocolEventInput}
    {classified : List ClassifiedEconomicEvent}
    (result : classifyProtocolTransactions isAddress events = .ok classified) :
    (classified.filterMap (·.flow metric)).Perm (events.filterMap (vaultFlow eventName)) :=
  read_of_classifyProtocolTransactions (fun _ _ => flow_of_classifyEvent vault) result

end Flows

/-! ## What the buckets add up to -/

/-- What an event adds to which bucket. -/
def flowPosting (granularity : FlowGranularity) (event : ClassifiedEconomicEvent) :
    Option ((ℤ × NativeFlowMetric) × ℕ) :=
  match event.classification with
  | .native metric => event.amountBaseUnits.map fun amount =>
      ((bucketStart event.blockTimestamp granularity, metric), amount)
  | _ => none

/-- The buckets hold what has been added to them: the amounts, and how many there were. -/
structure Bucketed (granularity : FlowGranularity) (events : List ClassifiedEconomicEvent)
    (buckets : List FlowBucket) : Prop where
  amounts : Postings.Posted FlowBucket.key FlowBucket.amount
    (events.filterMap (flowPosting granularity)) buckets
  counts : Postings.Posted FlowBucket.key FlowBucket.eventCount
    ((events.filterMap (flowPosting granularity)).map fun posting => (posting.1, 1)) buckets

/-- What is found in a bucket. -/
theorem Bucketed.bucketAt_spec {granularity : FlowGranularity}
    {events : List ClassifiedEconomicEvent} {buckets : List FlowBucket}
    (bucketed : Bucketed granularity events buckets) (start : ℤ) (metric : NativeFlowMetric) :
    (bucketAt buckets start metric).key = (start, metric) ∧
      (bucketAt buckets start metric).amount
        = Postings.net (events.filterMap (flowPosting granularity)) (start, metric) ∧
      (bucketAt buckets start metric).eventCount
        = Postings.net ((events.filterMap (flowPosting granularity)).map fun posting =>
            (posting.1, 1)) (start, metric) := by
  rw [← bucketed.amounts.lookup, ← bucketed.counts.lookup, bucketAt]
  cases stored : lookup FlowBucket.key buckets (start, metric) with
  | none => exact ⟨rfl, rfl, rfl⟩
  | some bucket => exact ⟨key_eq_of_lookup FlowBucket.key stored, rfl, rfl⟩

/-- One event more. -/
theorem Bucketed.add {granularity : FlowGranularity} {events : List ClassifiedEconomicEvent}
    {buckets buckets' : List FlowBucket} (bucketed : Bucketed granularity events buckets)
    {event : ClassifiedEconomicEvent}
    (added : addToBucket granularity buckets event = .ok buckets') :
    Bucketed granularity (events ++ [event]) buckets' := by
  unfold addToBucket at added
  split at added
  · rename_i metric native
    split at added
    · cases added
    · rename_i amount stated
      cases added
      have posting : flowPosting granularity event
          = some ((bucketStart event.blockTimestamp granularity, metric), amount) := by
        rw [flowPosting, native]
        simp only [stated, Option.map_some]
      have appended : (events ++ [event]).filterMap (flowPosting granularity)
          = events.filterMap (flowPosting granularity)
            ++ [((bucketStart event.blockTimestamp granularity, metric), amount)] := by
        rw [List.filterMap_append, List.filterMap_cons_some posting, List.filterMap_nil]
      obtain ⟨same, amounts, counts⟩ :=
        bucketed.bucketAt_spec (bucketStart event.blockTimestamp granularity) metric
      generalize bucketAt buckets (bucketStart event.blockTimestamp granularity) metric = bucket
        at same amounts counts ⊢
      generalize hwritten : (⟨bucket.bucketStart, bucket.metric, bucket.amount + amount,
        bucket.eventCount + 1, withParticipant bucket.participants event.primaryParticipant⟩ :
          FlowBucket) = written
      have written_key : written.key = (bucketStart event.blockTimestamp granularity, metric) := by
        rw [← hwritten]
        exact same
      constructor
      · rw [appended, ← written_key]
        refine bucketed.amounts.post ?_
        rw [written_key, ← amounts, ← hwritten]
      · rw [appended, List.map_append, List.map_singleton, ← written_key]
        refine bucketed.counts.post ?_
        rw [written_key, ← counts, ← hwritten]
  · rename_i other
    cases added
    have nothing : flowPosting granularity event = none := by
      unfold flowPosting
      split
      · rename_i metric native
        exact absurd native (other metric)
      · rfl
    have same : (events ++ [event]).filterMap (flowPosting granularity)
        = events.filterMap (flowPosting granularity) := by
      rw [List.filterMap_append, List.filterMap_cons_none nothing, List.filterMap_nil,
        List.append_nil]
    exact ⟨by rw [same]; exact bucketed.amounts, by rw [same]; exact bucketed.counts⟩

/-- The buckets after all events. -/
theorem bucketed_of_foldlM {granularity : FlowGranularity} {events : List ClassifiedEconomicEvent}
    {buckets : List FlowBucket} (run : events.foldlM (addToBucket granularity) [] = .ok buckets) :
    Bucketed granularity events buckets :=
  ok_of_prefix (Bucketed granularity) (fun _ _ _ _ bucketed added => bucketed.add added) events []
    ⟨.nil _ _, .nil _ _⟩ run

/-- The flows of a metric are what has been added to its buckets. -/
theorem filterMap_flow (granularity : FlowGranularity) (events : List ClassifiedEconomicEvent)
    (metric : NativeFlowMetric) :
    ((events.filterMap (flowPosting granularity)).filter (·.1.2 = metric)).map Prod.snd
      = events.filterMap (·.flow metric) := by
  rw [List.filter_filterMap, List.map_filterMap]
  apply List.filterMap_congr
  intro event _
  unfold flowPosting BaseClassification.flow
  cases event.classification with
  | native other =>
      cases event.amountBaseUnits <;> by_cases same : other = metric <;> simp [same]
  | _ => simp

/-- **What the aggregates add up to**: the flows of every metric, and their number; and no
two of them are of one bucket. -/
theorem aggregateNativeFlows_eq_ok {events : List ClassifiedEconomicEvent}
    {granularity : FlowGranularity} {aggregates : List FlowAggregate}
    (result : aggregateNativeFlows events granularity = .ok aggregates) :
    (∀ aggregate ∈ aggregates, aggregate.granularity = granularity) ∧
      (aggregates.map fun aggregate => (aggregate.bucketStart, aggregate.metric)).Nodup ∧
      ∀ metric, ((aggregates.filter (·.metric = metric)).map (·.amountBaseUnits)).sum
          = (events.filterMap (·.flow metric)).sum ∧
        ((aggregates.filter (·.metric = metric)).map (·.eventCount)).sum
          = (events.filterMap (·.flow metric)).length := by
  obtain ⟨buckets, run, result⟩ := bind_eq_ok.mp result
  cases result
  have bucketed := bucketed_of_foldlM run
  have ordered := perm_sortBy (lexCompare (·.bucketStart) fun bucket => bucket.metric.rank) buckets
  refine ⟨?_, ?_, fun metric => ⟨?_, ?_⟩⟩
  · intro aggregate mem
    obtain ⟨bucket, -, rfl⟩ := List.mem_map.mp mem
    rfl
  · rw [List.map_map]
    exact ((ordered.map FlowBucket.key).nodup_iff).mpr bucketed.amounts.unique
  · rw [← filterMap_flow granularity, List.filter_map, List.map_map,
      ← bucketed.amounts.sum_eq fun account => account.2 = metric]
    exact ((ordered.filter _).map _).sum_eq
  · have counted := bucketed.counts.sum_eq fun account => account.2 = metric
    rw [List.filter_map, List.map_map] at counted
    rw [← filterMap_flow granularity, List.length_map, List.filter_map, List.map_map]
    have ones (postings : List ((ℤ × NativeFlowMetric) × ℕ)) :
        (postings.map fun _ => 1).sum = postings.length := by simp
    rw [← ones]
    exact ((ordered.filter _).map _).sum_eq.trans counted

end EconomicEvents

end UsdpIndexer
