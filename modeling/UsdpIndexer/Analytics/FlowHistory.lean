import UsdpIndexer.Analytics.FlowTotals
import UsdpIndexer.Library.Machine
import UsdpIndexer.Library.Transaction

/-!
# The history of the flow buckets

`rebuildFlowAnalytics` statement by statement: any of its queries may fail, at any call, and
inside of the transaction the client rolls back then.  The insert into `flow_aggregates` has
no conflict clause, so that what may not happen is a violation of the unique index.

Over a history of calls, whatever their ranges and versions, the buckets of a provenance are
those of the last call that has rebuilt it.
-/

namespace UsdpIndexer

open KeyedTable StableOrder FailingFold EconomicEvents Batches

/-! ## The statements -/

/-- Why a call has thrown. -/
inductive RebuildError
  | thrown (error : JsError)
  | failed (error : JsError)
  | violation (error : JsError)
deriving DecidableEq, Repr

/-- The statements of a call that fail for a reason of their own, by their numbers. -/
abbrev Faults := ℕ → Option JsError

/-- A statement of the transaction; the memory counts the statements. -/
def query (faults : Faults) (run : FlowTables → Except JsError FlowTables) :
    Transaction FlowTables ℕ RebuildError Unit := fun tables number =>
  match faults number with
  | some error => .error (.failed error, number + 1)
  | none =>
      match run tables with
      | .ok tables => .ok (⟨⟩, tables, number + 1)
      | .error error => .error (.violation error, number + 1)

/-- The buckets of a provenance are deleted. -/
def deleteFlowAggregates (provenance : FlowProvenance) (tables : FlowTables) : FlowTables :=
  { tables with
    flowAggregates := tables.flowAggregates.filter fun row => row.provenance ≠ provenance }

/-- A batch of events is inserted over those that are there. -/
def upsertEconomicEvents (provenance : FlowProvenance) (batch : List ClassifiedEconomicEvent)
    (tables : FlowTables) : FlowTables :=
  { tables with
    economicEvents := (batch.map (economicEventRow provenance)).foldl
      (upsert EconomicEventRow.protocolEventId mergeEconomicEvent) tables.economicEvents }

/-- A batch of buckets is inserted. -/
def insertFlowBatch (provenance : FlowProvenance) (batch : List FlowAggregate)
    (tables : FlowTables) : Except JsError FlowTables := do
  let flowAggregates ← insertFlowAggregates tables.flowAggregates
    (batch.map fun aggregate => ⟨provenance, aggregate⟩)
  return { tables with flowAggregates }

/-- From `begin` to `commit`. -/
def replaceFlowsTransaction (faults : Faults) (provenance : FlowProvenance)
    (derived : DerivedFlows) : Transaction FlowTables ℕ RebuildError Unit := do
  query faults .ok
  query faults fun tables => .ok (deleteFlowAggregates provenance tables)
  (batchesOf 500 derived.economicEvents).forM fun batch =>
    query faults fun tables => .ok (upsertEconomicEvents provenance batch tables)
  (batchesOf 500 derived.aggregates).forM fun batch =>
    query faults (insertFlowBatch provenance batch)
  query faults .ok

/-- One call, on the index that it reads. -/
structure FlowCall where
  index : Database
  options : RebuildFlowAnalyticsOptions
  faults : Faults

namespace FlowCall

variable (isAddress : String → Bool) (call : FlowCall)

/-- The events that the call reads. -/
def events : List ProtocolEventInput :=
  sourceEvents call.index call.options.chainId call.options.fromBlock call.options.toBlock

/-- The call with its statements: the coverage, the events, the connection and then those of
the transaction. -/
def rebuild (tables : FlowTables) : Except RebuildError FlowRebuildResult × FlowTables :=
  let options := call.options
  match call.faults 0 with
  | some error => (.error (.failed error), tables)
  | none =>
  match verifyCoverage call.index options.scope options.fromBlock options.toBlock
    options.chainId with
  | .error error => (.error (.thrown error), tables)
  | .ok coverage =>
  if ¬ coverage.complete then (.ok (.unavailable coverage), tables)
  else
  match call.faults 1 with
  | some error => (.error (.failed error), tables)
  | none =>
  match deriveRange isAddress call.index options.chainId options.fromBlock options.toBlock with
  | .error error => (.error (.thrown error), tables)
  | .ok derived =>
  match call.faults 2 with
  | some error => (.error (.failed error), tables)
  | none =>
  let outcome := (replaceFlowsTransaction call.faults options.provenance derived).exec tables 3
  match outcome.result with
  | .error error => (.error error, outcome.database)
  | .ok _ => (.ok (.candidate coverage derived.sourceEvents derived.economicEvents.length
      derived.aggregates.length (summarizeFlowParticipants derived.economicEvents)
      options.manifestVersion options.calculationVersion), outcome.database)

end FlowCall

/-! ## One transaction -/

/-- The buckets that are derived from a range are told apart by the unique index. -/
theorem unique_flowRows {isAddress : String → Bool} {index : Database} {chainId : ℕ}
    {fromBlock toBlock : ℤ} {derived : DerivedFlows}
    (derives : deriveRange isAddress index chainId fromBlock toBlock = .ok derived)
    (provenance : FlowProvenance) :
    KeyedTable.Unique FlowAggregateRow.key (flowRows provenance derived.aggregates) := by
  obtain ⟨economicEvents, -, derives⟩ := bind_eq_ok.mp derives
  obtain ⟨hours, byHour, derives⟩ := bind_eq_ok.mp derives
  obtain ⟨days, byDay, derives⟩ := bind_eq_ok.mp derives
  cases derives
  obtain ⟨hourly, distinctHours, -⟩ := aggregateNativeFlows_eq_ok byHour
  obtain ⟨daily, distinctDays, -⟩ := aggregateNativeFlows_eq_ok byDay
  rw [KeyedTable.Unique, flowRows, List.map_map, List.map_append, List.nodup_append]
  have distinct {aggregates : List FlowAggregate}
      (buckets :
        (aggregates.map fun aggregate => (aggregate.bucketStart, aggregate.metric)).Nodup) :
      (aggregates.map (FlowAggregateRow.key ∘ (FlowAggregateRow.mk provenance ·))).Nodup :=
    List.Nodup.of_map (fun key => (key.2.2.1, key.2.2.2)) (by rw [List.map_map]; exact buckets)
  refine ⟨distinct distinctHours, distinct distinctDays, ?_⟩
  -- an hour is no day
  intro a ha b hb same
  obtain ⟨hour, memHour, rfl⟩ := List.mem_map.mp ha
  obtain ⟨day, memDay, rfl⟩ := List.mem_map.mp hb
  have granularities : hour.granularity = day.granularity := congrArg (·.2.1) same
  rw [hourly hour memHour, daily day memDay] at granularities
  cases granularities

/-- Rows of other provenances are out of the way of the index. -/
theorem unique_kept_append {rows : List FlowAggregateRow}
    (unique : KeyedTable.Unique FlowAggregateRow.key rows) {provenance : FlowProvenance}
    {aggregates : List FlowAggregate}
    (distinct : KeyedTable.Unique FlowAggregateRow.key (flowRows provenance aggregates)) :
    KeyedTable.Unique FlowAggregateRow.key
      (rows.filter (fun row => row.provenance ≠ provenance) ++ flowRows provenance aggregates) := by
  rw [KeyedTable.Unique, List.map_append, List.nodup_append]
  refine ⟨unique.sublist (List.filter_sublist.map _), distinct, ?_⟩
  intro a ha b hb same
  obtain ⟨kept, mem, rfl⟩ := List.mem_map.mp ha
  obtain ⟨new, mem', rfl⟩ := List.mem_map.mp hb
  obtain ⟨aggregate, -, rfl⟩ := List.mem_map.mp mem'
  exact of_decide_eq_true (List.mem_filter.mp mem).2 (congrArg Prod.fst same)

section OneTransaction

variable {faults : Faults} {P Q : FlowTables → Prop}

/-- A statement that does not violate anything by itself. -/
theorem ends_query {run : FlowTables → Except JsError FlowTables}
    (runs : ∀ tables, P tables → ∃ tables', run tables = .ok tables' ∧ Q tables') :
    Transaction.Ends P (query faults run) (fun _ => Q) fun error => ∀ e, error ≠ .violation e := by
  intro tables number start
  obtain ⟨tables', ran, holds⟩ := runs tables start
  unfold query
  cases faults number with
  | some error => exact fun _ => nofun
  | none =>
      simp only [ran]
      exact holds

/-- The classified events after some batches. -/
def upsertedEvents (provenance : FlowProvenance) (batches : List (List ClassifiedEconomicEvent))
    (table : List EconomicEventRow) : List EconomicEventRow :=
  batches.foldl (fun table batch => (batch.map (economicEventRow provenance)).foldl
    (upsert EconomicEventRow.protocolEventId mergeEconomicEvent) table) table

theorem ends_upserts (provenance : FlowProvenance) (batches : List (List ClassifiedEconomicEvent))
    (tables : FlowTables) :
    Transaction.Ends (· = tables) (batches.forM fun batch =>
        query faults fun tables => .ok (upsertEconomicEvents provenance batch tables))
      (fun _ after => after = ⟨upsertedEvents provenance batches tables.economicEvents,
        tables.flowAggregates⟩) fun error => ∀ e, error ≠ .violation e := by
  refine .forM (fun front after =>
      after = ⟨upsertedEvents provenance front tables.economicEvents, tables.flowAggregates⟩)
    fun front batch back _ => ends_query fun before same => ⟨_, rfl, ?_⟩
  rw [same, upsertEconomicEvents, upsertedEvents, upsertedEvents, List.foldl_append]
  rfl

/-- One batch of buckets that the index lets in. -/
theorem insertFlowBatch_of_unique {provenance : FlowProvenance} {batch : List FlowAggregate}
    {tables : FlowTables} (unique : KeyedTable.Unique FlowAggregateRow.key
      (tables.flowAggregates ++ flowRows provenance batch)) :
    insertFlowBatch provenance batch tables
      = .ok ⟨tables.economicEvents, tables.flowAggregates ++ flowRows provenance batch⟩ := by
  have inserted : insertFlowAggregates tables.flowAggregates (flowRows provenance batch)
      = .ok (tables.flowAggregates ++ flowRows provenance batch) := if_pos unique
  exact bind_eq_ok.mpr ⟨_, inserted, rfl⟩

theorem ends_inserts (provenance : FlowProvenance) (batches : List (List FlowAggregate))
    (tables : FlowTables) (unique : KeyedTable.Unique FlowAggregateRow.key
      (tables.flowAggregates ++ flowRows provenance batches.flatten)) :
    Transaction.Ends (· = tables) (batches.forM fun batch =>
        query faults (insertFlowBatch provenance batch))
      (fun _ after => after = ⟨tables.economicEvents,
        tables.flowAggregates ++ flowRows provenance batches.flatten⟩)
      fun error => ∀ e, error ≠ .violation e := by
  have loop : Transaction.Ends (fun before : FlowTables => before = ⟨tables.economicEvents,
        tables.flowAggregates ++ flowRows provenance ([] : List (List FlowAggregate)).flatten⟩)
      (batches.forM fun batch => query faults (insertFlowBatch provenance batch))
      (fun _ after => after = ⟨tables.economicEvents,
        tables.flowAggregates ++ flowRows provenance batches.flatten⟩)
      fun error => ∀ e, error ≠ .violation e := by
    refine .forM (fun front after => after = ⟨tables.economicEvents,
        tables.flowAggregates ++ flowRows provenance front.flatten⟩)
      fun front batch back split => ends_query fun before same => ⟨_, ?_, rfl⟩
    -- the batch and those before it are a part of all of them
    have part : (tables.flowAggregates ++ flowRows provenance front.flatten
        ++ flowRows provenance batch).Sublist
          (tables.flowAggregates ++ flowRows provenance batches.flatten) := by
      rw [split, List.flatten_append, List.flatten_cons, flowRows, flowRows, flowRows,
        List.append_assoc, List.map_append, List.map_append]
      exact (((List.sublist_append_left _ _).append_left _).append_left _)
    have inserted := @insertFlowBatch_of_unique provenance batch before
      (by rw [same]; exact unique.sublist (part.map _))
    rw [inserted, same]
    simp [flowRows]
  exact loop.of_imp fun before same => by rw [same]; simp [flowRows]

/-- **The transaction does not violate the index**, and if it commits the provenance has been
replaced. -/
theorem ends_replaceFlowsTransaction (tables : FlowTables) (provenance : FlowProvenance)
    (derived : DerivedFlows)
    (unique : KeyedTable.Unique FlowAggregateRow.key (tables.flowAggregates.filter
      (fun row => row.provenance ≠ provenance) ++ flowRows provenance derived.aggregates)) :
    Transaction.Ends (· = tables) (replaceFlowsTransaction faults provenance derived)
      (fun _ after => after = ⟨upsertedEvents provenance (batchesOf 500 derived.economicEvents)
          tables.economicEvents,
        tables.flowAggregates.filter (fun row => row.provenance ≠ provenance)
          ++ flowRows provenance derived.aggregates⟩)
      fun error => ∀ e, error ≠ .violation e := by
  have whole := flatten_batchesOf (by decide : 0 < 500) derived.aggregates
  unfold replaceFlowsTransaction
  refine .bind (ends_query fun _ start => ⟨_, rfl, start⟩) fun _ => ?_
  refine .bind (ends_query (Q := (· = deleteFlowAggregates provenance tables))
    fun _ start => ⟨_, rfl, by rw [start]⟩) fun _ => ?_
  refine .bind (ends_upserts provenance _ _) fun _ => ?_
  refine .bind (ends_inserts provenance _ _ (by rw [whole]; exact unique)) fun _ => ?_
  refine ends_query fun after same => ⟨after, rfl, ?_⟩
  rw [same, whole]
  rfl

end OneTransaction

/-! ## One call -/

/-- The rows of a provenance. -/
def FlowTables.rowsOf (tables : FlowTables) (provenance : FlowProvenance) :
    List FlowAggregateRow :=
  tables.flowAggregates.filter fun row => row.provenance = provenance

namespace FlowCall

variable {isAddress : String → Bool} {call : FlowCall} {tables tables' : FlowTables}

/-- The tables with the provenance of the call derived anew. -/
def replaced (call : FlowCall) (derived : DerivedFlows) (tables : FlowTables) : FlowTables where
  economicEvents := upsertedEvents call.options.provenance
    (batchesOf 500 derived.economicEvents) tables.economicEvents
  flowAggregates := tables.flowAggregates.filter
      (fun row => row.provenance ≠ call.options.provenance)
    ++ flowRows call.options.provenance derived.aggregates

/-- What a call derives from the events that it reads. -/
def Derives (isAddress : String → Bool) (call : FlowCall) (derived : DerivedFlows) : Prop :=
  deriveRange isAddress call.index call.options.chainId call.options.fromBlock
    call.options.toBlock = .ok derived

/-- What a call can do: it stops, or it replaces its provenance. -/
inductive Ran (isAddress : String → Bool) (call : FlowCall) (tables : FlowTables) :
    Except RebuildError FlowRebuildResult × FlowTables → Prop
  | stopped (result : Except RebuildError FlowRebuildResult)
      (notRebuilt : ∀ report, result = .ok report → ¬ report.isCandidate)
      (lawful : ∀ error, result ≠ .error (.violation error)) : Ran isAddress call tables
        (result, tables)
  | rebuilt (report : FlowRebuildResult) (derived : DerivedFlows) (candidate : report.isCandidate)
      (derives : Derives isAddress call derived) : Ran isAddress call tables
        (.ok report, call.replaced derived tables)

/-- **One call** of a table that obeys its index: it stops and leaves everything as it was, or
it replaces its provenance. -/
theorem ran_rebuild (unique : KeyedTable.Unique FlowAggregateRow.key tables.flowAggregates) :
    Ran isAddress call tables (call.rebuild isAddress tables) := by
  have stops (error : RebuildError) (lawful : ∀ e, error ≠ .violation e) :
      Ran isAddress call tables (.error error, tables) :=
    .stopped _ (fun _ => nofun) fun e same => lawful e (Except.error.inj same)
  unfold rebuild
  simp only
  split
  · exact stops _ fun _ => nofun
  split
  · exact stops _ fun _ => nofun
  split
  · exact .stopped _ (fun report same => by cases same; exact Bool.false_ne_true) fun _ => nofun
  split
  · exact stops _ fun _ => nofun
  split
  · exact stops _ fun _ => nofun
  rename_i derived derives
  split
  · exact stops _ fun _ => nofun
  have ends := (@ends_replaceFlowsTransaction call.faults tables call.options.provenance derived
    (unique_kept_append unique (unique_flowRows derives _))).exec rfl 3
  rcases ends with ⟨a, committed, after⟩ | ⟨error, failed, lawful, same⟩
  · rw [committed, after]
    exact .rebuilt _ derived rfl derives
  · rw [failed, same]
    exact stops error lawful

/-- Batches that the index lets in, as one loop. -/
theorem insertBatches_of_unique {provenance : FlowProvenance}
    {batches : List (List FlowAggregate)} :
    ∀ {table : List FlowAggregateRow}, KeyedTable.Unique FlowAggregateRow.key
        (table ++ flowRows provenance batches.flatten) →
      batches.foldlM (fun table batch =>
          insertFlowAggregates table (batch.map fun aggregate => ⟨provenance, aggregate⟩)) table
        = .ok (table ++ flowRows provenance batches.flatten) := by
  induction batches with
  | nil =>
      intro table _
      rw [List.flatten_nil, flowRows, List.map_nil, List.append_nil]
      rfl
  | cons batch batches ih =>
      intro table unique
      rw [List.flatten_cons, flowRows, List.map_append, ← List.append_assoc] at unique ⊢
      have first : insertFlowAggregates table (batch.map (FlowAggregateRow.mk provenance))
          = .ok (table ++ batch.map (FlowAggregateRow.mk provenance)) :=
        if_pos (unique.sublist ((List.sublist_append_left _ _).map _))
      exact foldlM_cons_eq_ok.mpr ⟨_, first, ih unique⟩

/-- **The statements are the rebuild.**  A call that gets through its statements does what the
rebuild does as one step. -/
theorem rebuildFlowAnalytics_of_rebuild
    (unique : KeyedTable.Unique FlowAggregateRow.key tables.flowAggregates)
    {report : FlowRebuildResult} (ran : call.rebuild isAddress tables = (.ok report, tables')) :
    rebuildFlowAnalytics isAddress call.index call.options none tables
      = (.ok report, tables') := by
  unfold rebuild at ran
  unfold rebuildFlowAnalytics
  cases first : call.faults 0 with
  | some error =>
      rw [first] at ran
      cases ran
  | none =>
  cases covered : verifyCoverage call.index call.options.scope call.options.fromBlock
      call.options.toBlock call.options.chainId with
  | error error =>
      simp only [first, covered] at ran
      cases ran
  | ok coverage =>
  simp only [first, covered] at ran ⊢
  by_cases complete : coverage.complete = true
  · rw [if_neg (not_not_intro complete)] at ran ⊢
    cases second : call.faults 1 with
    | some error =>
        rw [second] at ran
        cases ran
    | none =>
    cases derives : deriveRange isAddress call.index call.options.chainId call.options.fromBlock
        call.options.toBlock with
    | error error =>
        simp only [second, derives] at ran
        cases ran
    | ok derived =>
    cases third : call.faults 2 with
    | some error =>
        simp only [second, derives, third] at ran
        cases ran
    | none =>
    simp only [second, derives, third] at ran ⊢
    have distinct := unique_kept_append unique (unique_flowRows derives call.options.provenance)
    have replaces : tables.replaceFlows call.options.provenance derived
        = .ok (call.replaced derived tables) := by
      have whole := flatten_batchesOf (by decide : 0 < 500) derived.aggregates
      have inserted := @insertBatches_of_unique call.options.provenance
        (batchesOf 500 derived.aggregates) _ (by rw [whole]; exact distinct)
      rw [whole] at inserted
      exact bind_eq_ok.mpr ⟨_, inserted, rfl⟩
    rw [replaces]
    rcases (@ends_replaceFlowsTransaction call.faults tables call.options.provenance derived
      distinct).exec rfl 3 with ⟨a, committed, after⟩ | ⟨error, failed, -⟩
    · rw [committed, after] at ran
      cases ran
      rfl
    · rw [failed] at ran
      cases ran
  · rw [if_pos complete] at ran ⊢
    cases ran
    rfl

/-- The rows of a provenance after a call that has replaced it. -/
theorem rowsOf_replaced_self (derived : DerivedFlows) :
    (call.replaced derived tables).rowsOf call.options.provenance
      = flowRows call.options.provenance derived.aggregates :=
  @DerivedTable.filter_replaceGroup_self _ _ _ FlowAggregateRow.provenance
    (fun provenance => flowRows provenance derived.aggregates) _ (fun row mem => by
      obtain ⟨aggregate, -, rfl⟩ := List.mem_map.mp mem
      rfl) tables.flowAggregates

/-- The other rows are as before. -/
theorem rowsOf_replaced_of_ne (derived : DerivedFlows) {provenance : FlowProvenance}
    (ne : provenance ≠ call.options.provenance) :
    (call.replaced derived tables).rowsOf provenance = tables.rowsOf provenance :=
  @DerivedTable.filter_replaceGroup_of_ne _ _ _ FlowAggregateRow.provenance
    (fun provenance => flowRows provenance derived.aggregates) _ _ (fun row mem => by
      obtain ⟨aggregate, -, rfl⟩ := List.mem_map.mp mem
      rfl) ne tables.flowAggregates

/-- The unique index is obeyed afterwards. -/
theorem unique_rebuild (unique : KeyedTable.Unique FlowAggregateRow.key tables.flowAggregates) :
    KeyedTable.Unique FlowAggregateRow.key (call.rebuild isAddress tables).2.flowAggregates := by
  generalize ran : call.rebuild isAddress tables = outcome
  cases ran ▸ @ran_rebuild isAddress call tables unique with
  | stopped => exact unique
  | rebuilt report derived candidate derives =>
      exact unique_kept_append unique (unique_flowRows derives _)

end FlowCall

/-! ## A history of calls -/

/-- A call and what came of it. -/
structure FlowOutcome where
  call : FlowCall
  result : Except RebuildError FlowRebuildResult

/-- The call has rebuilt the provenance. -/
def FlowOutcome.rebuilt (outcome : FlowOutcome) (provenance : FlowProvenance) : Bool :=
  match outcome.result with
  | .ok report => report.isCandidate && decide (outcome.call.options.provenance = provenance)
  | .error _ => false

theorem FlowOutcome.rebuilt_of_candidate {call : FlowCall} {report : FlowRebuildResult}
    (candidate : report.isCandidate) (provenance : FlowProvenance) :
    FlowOutcome.rebuilt ⟨call, .ok report⟩ provenance
      = decide (call.options.provenance = provenance) := by
  show (report.isCandidate && _) = _
  rw [candidate, Bool.true_and]

/-- A call of the rebuild, with what comes of it. -/
def flowStep (isAddress : String → Bool) (call : FlowCall) (tables : FlowTables) :
    FlowTables × List FlowOutcome :=
  let (result, tables) := call.rebuild isAddress tables
  (tables, [⟨call, result⟩])

/-- The last call that has rebuilt a provenance. -/
def lastRebuild (provenance : FlowProvenance) (outcomes : List FlowOutcome) : Option FlowCall :=
  (outcomes.reverse.find? (·.rebuilt provenance)).map (·.call)

theorem lastRebuild_concat (provenance : FlowProvenance) (outcomes : List FlowOutcome)
    (outcome : FlowOutcome) : lastRebuild provenance (outcomes ++ [outcome])
      = if outcome.rebuilt provenance then some outcome.call
        else lastRebuild provenance outcomes := by
  rw [lastRebuild, List.reverse_append, List.reverse_singleton, List.singleton_append,
    List.find?_cons]
  cases outcome.rebuilt provenance <;> rfl

/-- The rows of a provenance after some calls: the buckets of the events that the last
successful rebuild has read, or what was there before if there is none. -/
def RowsAfter (isAddress : String → Bool) (initial : FlowTables) (outcomes : List FlowOutcome)
    (provenance : FlowProvenance) (rows : List FlowAggregateRow) : Prop :=
  match lastRebuild provenance outcomes with
  | none => rows = initial.rowsOf provenance
  | some call => ∃ classified hours days,
      classifyProtocolTransactions isAddress call.events = .ok classified ∧
        aggregateNativeFlows classified .hour = .ok hours ∧
        aggregateNativeFlows classified .day = .ok days ∧
        rows = flowRows provenance (hours ++ days)

/-- What a call does to the rest of the table. -/
structure FlowCall.Isolated (call : FlowCall) (before after : FlowTables)
    (result : Except RebuildError FlowRebuildResult) : Prop where
  others : ∀ provenance, provenance ≠ call.options.provenance →
    after.rowsOf provenance = before.rowsOf provenance
  failed : ∀ error, result = .error error → after = before

/-- What holds after every call. -/
structure FlowHistory (isAddress : String → Bool) (initial tables : FlowTables)
    (outcomes : List FlowOutcome) : Prop where
  unique : KeyedTable.Unique FlowAggregateRow.key tables.flowAggregates
  rows : ∀ provenance,
    RowsAfter isAddress initial outcomes provenance (tables.rowsOf provenance)
  lawful : ∀ outcome ∈ outcomes, ∀ error, outcome.result ≠ .error (.violation error)

section History

variable {isAddress : String → Bool} {initial tables : FlowTables} {outcomes : List FlowOutcome}

/-- **One more call.** -/
theorem FlowHistory.step (history : FlowHistory isAddress initial tables outcomes)
    (call : FlowCall) : FlowHistory isAddress initial (flowStep isAddress call tables).1
      (outcomes ++ (flowStep isAddress call tables).2) := by
  have unique := @FlowCall.unique_rebuild isAddress call _ history.unique
  show FlowHistory isAddress initial (call.rebuild isAddress tables).2
    (outcomes ++ [⟨call, (call.rebuild isAddress tables).1⟩])
  generalize ran : call.rebuild isAddress tables = outcome at unique ⊢
  cases ran ▸ @FlowCall.ran_rebuild isAddress call tables history.unique with
  | stopped result notRebuilt lawful =>
      refine ⟨unique, fun provenance => ?_, ?_⟩
      · have idle : FlowOutcome.rebuilt ⟨call, result⟩ provenance = false := by
          unfold FlowOutcome.rebuilt
          cases result with
          | error error => rfl
          | ok report => simp [notRebuilt report rfl]
        rw [RowsAfter, lastRebuild_concat, idle]
        exact history.rows provenance
      · intro outcome mem
        rcases List.mem_append.mp mem with earlier | this
        · exact history.lawful outcome earlier
        · rw [List.mem_singleton.mp this]
          exact lawful
  | rebuilt report derived candidate derives =>
      refine ⟨unique, fun provenance => ?_, ?_⟩
      · rw [RowsAfter, lastRebuild_concat, FlowOutcome.rebuilt_of_candidate candidate]
        by_cases own : call.options.provenance = provenance
        · rw [if_pos (decide_eq_true own), ← own]
          obtain ⟨classified, classifies, derives⟩ := bind_eq_ok.mp derives
          obtain ⟨hours, byHour, derives⟩ := bind_eq_ok.mp derives
          obtain ⟨days, byDay, derives⟩ := bind_eq_ok.mp derives
          cases derives
          exact ⟨classified, hours, days, classifies, byHour, byDay,
            FlowCall.rowsOf_replaced_self _⟩
        · rw [if_neg (by simpa using own), FlowCall.rowsOf_replaced_of_ne _ (Ne.symm own)]
          exact history.rows provenance
      · intro outcome mem
        rcases List.mem_append.mp mem with earlier | this
        · exact history.lawful outcome earlier
        · rw [List.mem_singleton.mp this]
          exact fun _ => nofun

/-- After any calls. -/
theorem flowHistory_run (unique : KeyedTable.Unique FlowAggregateRow.key initial.flowAggregates)
    (calls : List FlowCall) : FlowHistory isAddress initial
      (Machine.run (flowStep isAddress) calls initial).1
      (Machine.run (flowStep isAddress) calls initial).2 :=
  Machine.run_invariant (FlowHistory isAddress initial) (fun call _ _ history => history.step call)
    calls ⟨unique, fun _ => rfl, by simp⟩

theorem FlowCall.isolated_rebuild (call : FlowCall)
    (unique : KeyedTable.Unique FlowAggregateRow.key tables.flowAggregates) :
    call.Isolated tables (call.rebuild isAddress tables).2 (call.rebuild isAddress tables).1 := by
  generalize ran : call.rebuild isAddress tables = outcome
  cases ran ▸ @FlowCall.ran_rebuild isAddress call tables unique with
  | stopped => exact ⟨fun _ _ => rfl, fun _ _ => rfl⟩
  | rebuilt report derived candidate derives =>
      exact ⟨fun _ ne => FlowCall.rowsOf_replaced_of_ne derived ne, fun _ => nofun⟩

/-- **Rebuilding is idempotent and isolated.**  After any calls, of whatever ranges and
versions and failing at whatever statements, the rows of a provenance are those that its last
successful rebuild has derived; no call touches the rows of another provenance, one that fails
touches nothing, and the unique index is never violated. -/
theorem rebuildFlowAnalytics_history (isAddress : String → Bool) (calls : List FlowCall)
    (initial : FlowTables)
    (unique : KeyedTable.Unique FlowAggregateRow.key initial.flowAggregates) :
    FlowHistory isAddress initial (Machine.run (flowStep isAddress) calls initial).1
        (Machine.run (flowStep isAddress) calls initial).2 ∧
      ∀ front call back, calls = front ++ call :: back →
        let before := (Machine.run (flowStep isAddress) front initial).1
        call.Isolated before (call.rebuild isAddress before).2
          (call.rebuild isAddress before).1 :=
  ⟨flowHistory_run unique calls, fun front call _ _ =>
    call.isolated_rebuild (flowHistory_run unique front).unique⟩

end History

/-- A rebuild of the window in which there is a deposit. -/
def windowCall (faults : Faults) : FlowCall where
  index := depositIndex
  options := windowRebuild "hyperevm-usdp-susdp-state-v1-candidate"
  faults := faults

/-- A rebuild, and one that fails when it inserts the buckets. -/
theorem rebuildFlowAnalytics_history_deposit :
    let calls := [windowCall fun _ => none,
      windowCall fun number => if number = 6 then some ⟨"Connection terminated"⟩ else none]
    let history := Machine.run (flowStep (Text.isHex 40)) calls .empty
    history.2.map (·.rebuilt (windowCall fun _ => none).options.provenance) = [true, false] ∧
      FlowHistory (Text.isHex 40) .empty history.1 history.2 :=
  ⟨by decide +kernel, (rebuildFlowAnalytics_history (Text.isHex 40) _ .empty List.nodup_nil).1⟩

end UsdpIndexer
