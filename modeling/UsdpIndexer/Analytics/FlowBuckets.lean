import UsdpIndexer.Analytics.EconomicEvents

/-!
# Nothing is lost in the buckets

The classification regroups the events by transaction and the aggregation regroups them by
hour or by day; but what a bucket is told is said by each event on its own, as a
`FlowEntry`.  So the aggregates depend on the entries alone, not on their order
(`aggregateNativeFlows_congr`), and an hour's entries are entries of its day.
-/

namespace UsdpIndexer

open KeyedTable StableOrder FailingFold

namespace EconomicEvents

/-! ## Entries -/

/-- What a native flow tells a bucket: when, what, how much and who. -/
structure FlowEntry where
  blockTimestamp : ℤ
  metric : NativeFlowMetric
  amount : ℕ
  participant : Option String

/-- The bucket that an entry goes into. -/
def FlowEntry.key (granularity : FlowGranularity) (entry : FlowEntry) : ℤ × NativeFlowMetric :=
  (bucketStart entry.blockTimestamp granularity, entry.metric)

/-- What a classified event adds to the buckets, if it is a flow with an amount. -/
def BaseClassification.entry (base : BaseClassification) : Option FlowEntry :=
  match base.classification with
  | .native metric => base.amountBaseUnits.map fun amount =>
      ⟨base.blockTimestamp, metric, amount, base.primaryParticipant.filter (· ≠ "")⟩
  | _ => none

/-- What the events add to the buckets. -/
def entries (events : List ClassifiedEconomicEvent) : List FlowEntry :=
  events.filterMap fun event => event.toBaseClassification.entry

theorem entries_concat (events : List ClassifiedEconomicEvent) (event : ClassifiedEconomicEvent) :
    entries (events ++ [event]) = entries events ++ event.entry.toList := by
  rw [entries, List.filterMap_append]
  cases stated : event.entry <;> simp [entries, stated]

/-- The postings of an event are those of its entry. -/
theorem filterMap_flowPosting (granularity : FlowGranularity)
    (events : List ClassifiedEconomicEvent) :
    events.filterMap (flowPosting granularity)
      = (entries events).map fun entry => (entry.key granularity, entry.amount) := by
  rw [entries, List.map_filterMap]
  apply List.filterMap_congr
  intro event _
  unfold flowPosting BaseClassification.entry
  cases event.classification with
  | native metric => cases event.amountBaseUnits <;> rfl
  | _ => rfl

/-- The participants of the entries of a bucket. -/
def participantsAt (granularity : FlowGranularity) (entries : List FlowEntry)
    (key : ℤ × NativeFlowMetric) : Finset String :=
  ((entries.filter (·.key granularity = key)).filterMap (·.participant)).toFinset

theorem mem_participantsAt {granularity : FlowGranularity} {entries : List FlowEntry}
    {key : ℤ × NativeFlowMetric} {participant : String} :
    participant ∈ participantsAt granularity entries key ↔
      ∃ entry ∈ entries, entry.key granularity = key ∧ entry.participant = some participant := by
  simp [participantsAt, and_assoc]

theorem mem_participantsAt_concat {granularity : FlowGranularity} {entries : List FlowEntry}
    {entry : FlowEntry} {key : ℤ × NativeFlowMetric} {participant : String} :
    participant ∈ participantsAt granularity (entries ++ [entry]) key ↔
      participant ∈ participantsAt granularity entries key ∨
        (entry.key granularity = key ∧ entry.participant = some participant) := by
  simp [mem_participantsAt, or_and_right, exists_or]

theorem mem_withParticipant {participants : Finset String} {stated : Option String}
    {participant : String} :
    participant ∈ withParticipant participants stated ↔
      participant ∈ participants ∨ stated.filter (· ≠ "") = some participant := by
  cases stated with
  | none => simp [withParticipant]
  | some other =>
      by_cases blank : other = ""
      · simp [withParticipant, blank]
      · rw [withParticipant, if_neg blank, Finset.mem_insert,
          Option.filter_some_pos (by simpa using blank), Option.some_inj, or_comm, @eq_comm _ other]

/-! ## What is in the buckets -/

/-- The buckets hold the entries, with their participants. -/
structure Filled (granularity : FlowGranularity) (events : List ClassifiedEconomicEvent)
    (buckets : List FlowBucket) : Prop extends Bucketed granularity events buckets where
  participants : ∀ bucket ∈ buckets,
    bucket.participants = participantsAt granularity (entries events) bucket.key

section Buckets

variable {granularity : FlowGranularity} {events : List ClassifiedEconomicEvent}
  {buckets buckets' : List FlowBucket}

/-- The participants that are found in a bucket. -/
theorem Filled.participants_bucketAt (filled : Filled granularity events buckets) (start : ℤ)
    (metric : NativeFlowMetric) : (bucketAt buckets start metric).participants
      = participantsAt granularity (entries events) (start, metric) := by
  rw [bucketAt]
  cases stored : lookup FlowBucket.key buckets (start, metric) with
  | some bucket =>
      have same := filled.participants bucket (mem_of_lookup FlowBucket.key stored)
      rwa [key_eq_of_lookup FlowBucket.key stored] at same
  | none =>
      -- without a bucket there is no entry
      have absent := (lookup_eq_none_iff FlowBucket.key).mp stored
      rw [filled.amounts.mem_iff, filterMap_flowPosting, List.map_map] at absent
      ext participant
      rw [mem_participantsAt]
      constructor
      · intro mem
        exact absurd mem (Finset.notMem_empty _)
      · rintro ⟨entry, mem, same, -⟩
        exact absurd (List.mem_map.mpr ⟨entry, mem, same⟩) absent

/-- One event more: its bucket has its participant too. -/
theorem Filled.add (filled : Filled granularity events buckets) {event : ClassifiedEconomicEvent}
    (added : addToBucket granularity buckets event = .ok buckets') :
    Filled granularity (events ++ [event]) buckets' := by
  refine ⟨filled.toBucketed.add added, ?_⟩
  unfold addToBucket at added
  split at added
  · rename_i metric native
    split at added
    · cases added
    · rename_i amount stated
      cases added
      have entry : event.entry = some ⟨event.blockTimestamp, metric, amount,
          event.primaryParticipant.filter (· ≠ "")⟩ := by
        rw [BaseClassification.entry, native]
        simp only [stated, Option.map_some]
      have same := (filled.bucketAt_spec (bucketStart event.blockTimestamp granularity) metric).1
      have present := filled.participants_bucketAt (bucketStart event.blockTimestamp granularity)
        metric
      generalize bucketAt buckets (bucketStart event.blockTimestamp granularity) metric = old
        at same present ⊢
      intro bucket mem
      ext participant
      rw [entries_concat, entry, Option.toList_some, mem_participantsAt_concat]
      rcases (mem_upsert_replace FlowBucket.key).mp mem with rfl | ⟨stored, ne⟩
      · rw [mem_withParticipant, present]
        show _ ↔ participant ∈ participantsAt granularity (entries events) old.key ∨
          ((bucketStart event.blockTimestamp granularity, metric) = old.key ∧ _)
        rw [same]
        exact or_congr_right (and_iff_right rfl).symm
      · -- the event is of another bucket
        have other : ¬ FlowEntry.key granularity ⟨event.blockTimestamp, metric, amount,
            event.primaryParticipant.filter (· ≠ "")⟩ = bucket.key :=
          fun equal => ne (equal.symm.trans same.symm)
        rw [filled.participants bucket stored]
        simp only [other, false_and, or_false]
  · rename_i other
    cases added
    have nothing : event.entry = none := by
      unfold BaseClassification.entry
      split
      · rename_i metric native
        exact absurd native (other metric)
      · rfl
    rw [entries_concat, nothing, Option.toList_none, List.append_nil]
    exact filled.participants

/-- The buckets after all events. -/
theorem filled_of_foldlM (run : events.foldlM (addToBucket granularity) [] = .ok buckets) :
    Filled granularity events buckets :=
  ok_of_prefix (Filled granularity) (fun _ _ _ _ filled added => filled.add added) events []
    ⟨⟨.nil _ _, .nil _ _⟩, by simp⟩ run

/-! ## What the aggregates depend on -/

/-- A bucket of the entries is found again in any buckets of the same entries. -/
theorem Filled.mem_of_perm {events' : List ClassifiedEconomicEvent}
    (filled : Filled granularity events buckets) (filled' : Filled granularity events' buckets')
    (perm : (entries events).Perm (entries events')) {bucket : FlowBucket}
    (mem : bucket ∈ buckets) : bucket ∈ buckets' := by
  have postings : (events.filterMap (flowPosting granularity)).Perm
      (events'.filterMap (flowPosting granularity)) := by
    rw [filterMap_flowPosting, filterMap_flowPosting]
    exact perm.map _
  have known : bucket.key ∈ buckets'.map FlowBucket.key := by
    rw [filled'.amounts.mem_iff, ← (postings.map Prod.fst).mem_iff, ← filled.amounts.mem_iff]
    exact List.mem_map_of_mem mem
  obtain ⟨other, mem', same⟩ := List.mem_map.mp known
  have participants : participantsAt granularity (entries events)
      = participantsAt granularity (entries events') := by
    funext key
    ext participant
    simp only [mem_participantsAt, perm.mem_iff]
  -- the two buckets agree in every column
  have equal : other = bucket := by
    have keys := Prod.mk.inj same
    rw [FlowBucket.mk.injEq]
    refine ⟨keys.1, keys.2, ?_, ?_, ?_⟩
    · rw [filled'.amounts.balance_eq other mem', filled.amounts.balance_eq bucket mem, same,
        Postings.net_perm postings]
    · rw [filled'.counts.balance_eq other mem', filled.counts.balance_eq bucket mem, same,
        Postings.net_perm (postings.map _)]
    · rw [filled'.participants other mem', filled.participants bucket mem, same, participants]
  exact equal ▸ mem'

/-- Every native flow states its amount. -/
def Stated (events : List ClassifiedEconomicEvent) : Prop :=
  ∀ event ∈ events, ∀ metric, event.classification = .native metric →
    event.amountBaseUnits.isSome

theorem exists_buckets_of_stated (stated : Stated events) (buckets : List FlowBucket) :
    ∃ buckets', events.foldlM (addToBucket granularity) buckets = .ok buckets' := by
  induction events generalizing buckets with
  | nil => exact ⟨buckets, rfl⟩
  | cons event events ih =>
      obtain ⟨head, tail⟩ := List.forall_mem_cons.mp stated
      have step : ∃ next, addToBucket granularity buckets event = .ok next := by
        unfold addToBucket
        split
        · rename_i metric native
          obtain ⟨amount, some⟩ := Option.isSome_iff_exists.mp (head metric native)
          rw [some]
          exact ⟨_, rfl⟩
        · exact ⟨buckets, rfl⟩
      obtain ⟨next, added⟩ := step
      rw [foldlM_cons_ok events added]
      exact ih tail next

/-- The aggregation throws at an amount that is missing, and at nothing else. -/
theorem exists_aggregates_of_stated (stated : Stated events) (granularity : FlowGranularity) :
    ∃ aggregates, aggregateNativeFlows events granularity = .ok aggregates := by
  obtain ⟨buckets, run⟩ := exists_buckets_of_stated stated []
  exact ⟨_, bind_eq_ok.mpr ⟨buckets, run, rfl⟩⟩

theorem rank_injective : Function.Injective NativeFlowMetric.rank := by
  intro a b
  cases a <;> cases b <;> simp [NativeFlowMetric.rank]

/-- **The aggregates depend on the entries alone**, and not on their order. -/
theorem aggregateNativeFlows_congr {events' : List ClassifiedEconomicEvent}
    (stated : Stated events) (stated' : Stated events')
    (perm : (entries events).Perm (entries events')) (granularity : FlowGranularity) :
    aggregateNativeFlows events granularity = aggregateNativeFlows events' granularity := by
  obtain ⟨buckets, run⟩ : ∃ buckets, events.foldlM (addToBucket granularity) [] = .ok buckets :=
    exists_buckets_of_stated stated []
  obtain ⟨buckets', run'⟩ : ∃ buckets, events'.foldlM (addToBucket granularity) [] = .ok buckets :=
    exists_buckets_of_stated stated' []
  have filled := filled_of_foldlM run
  have filled' := filled_of_foldlM run'
  have same : buckets.Perm buckets' := by
    rw [List.perm_ext_iff_of_nodup filled.amounts.unique.of_map filled'.amounts.unique.of_map]
    exact fun bucket => ⟨filled.mem_of_perm filled' perm, filled'.mem_of_perm filled perm.symm⟩
  -- no two buckets are equal for the comparator
  have separates : ∀ a ∈ buckets, ∀ b ∈ buckets,
      toLex (a.bucketStart, a.metric.rank) = toLex (b.bucketStart, b.metric.rank) → a = b := by
    intro a ha b hb equal
    obtain ⟨start, rank⟩ := Prod.mk.inj (toLex.injective equal)
    exact filled.amounts.unique.eq_of_key_eq FlowBucket.key ha hb
      (Prod.ext start (rank_injective rank))
  rw [aggregateNativeFlows, aggregateNativeFlows, run, run']
  show Except.ok _ = Except.ok _
  rw [sortBy_eq_of_perm (ordersBy_lexCompare _ _) same separates]

end Buckets

/-! ## What the classification says to the buckets -/

/-- A native flow states its amount, and no event that is a transfer or an accrual is one. -/
structure BaseClassification.FlowOf (base : BaseClassification) (event : ProtocolEventInput) :
    Prop where
  stated : ∀ metric, base.classification = .native metric → base.amountBaseUnits.isSome
  flows : event.eventName = "Transfer" ∨ event.eventName = "Accrued" → base.entry = none

section Classify

variable {isAddress : String → Bool} {event : ProtocolEventInput}

/-- A native flow comes of an event with another name. -/
theorem of_movement {classification : EconomicClassification}
    {assetAddress amountKey primaryKey secondaryKey : String} {base : BaseClassification}
    (moved : movement isAddress event classification assetAddress amountKey primaryKey
      secondaryKey = .ok (some base))
    (name : ∀ metric, classification = .native metric →
      event.eventName ≠ "Transfer" ∧ event.eventName ≠ "Accrued") : base.FlowOf event := by
  obtain ⟨_, amount, ⟨⟩, -, rfl, stated, -⟩ := movement_eq_ok moved
  refine ⟨fun _ _ => stated ▸ rfl, fun named => ?_⟩
  unfold BaseClassification.entry
  split
  · rename_i metric native
    exact absurd named (not_or.mpr (name metric native))
  · rfl

theorem of_figure {classification : EconomicClassification} {assetAddress : Option String}
    {amountKey : String} {base : BaseClassification}
    (stated : figure event classification assetAddress amountKey = .ok (some base))
    (other : ∀ metric, classification ≠ .native metric) : base.FlowOf event := by
  obtain ⟨_, amount, ⟨⟩, -, rfl, -, -⟩ := figure_eq_ok stated
  refine ⟨fun metric native => absurd native (other metric), fun _ => ?_⟩
  unfold BaseClassification.entry
  split
  · rename_i metric native
    exact absurd native (other metric)
  · rfl

theorem of_classifySavings {usdp susdp : String} {base : BaseClassification}
    (classified : classifySavings isAddress event usdp susdp = .ok (some base)) :
    base.FlowOf event := by
  unfold classifySavings at classified
  split at classified
  · rename_i name
    exact of_movement classified fun _ _ => by rw [name]; decide
  split at classified
  · rename_i name
    exact of_movement classified fun _ _ => by rw [name]; decide
  iterate 4
    split at classified
    · exact of_figure classified (by simp)
  split at classified
  · exact of_movement classified (by simp)
  · cases classified

theorem of_classifySwap {usdp : String} {base : BaseClassification}
    (name : event.eventName = "Swap")
    (classified : classifySwap isAddress event usdp = .ok (some base)) : base.FlowOf event := by
  obtain ⟨tokenIn, -, classified⟩ := bind_eq_ok.mp classified
  obtain ⟨tokenOut, -, classified⟩ := bind_eq_ok.mp classified
  split at classified
  · cases classified
  split at classified
  · exact of_movement classified fun _ _ => by rw [name]; decide
  split at classified
  · exact of_movement classified fun _ _ => by rw [name]; decide
  · obtain ⟨primaryParticipant, -, classified⟩ := bind_eq_ok.mp classified
    obtain ⟨secondaryParticipant, -, classified⟩ := bind_eq_ok.mp classified
    cases classified
    exact ⟨fun _ => nofun, fun _ => rfl⟩

theorem of_classifyEvent {base : BaseClassification}
    (classified : classifyEvent isAddress event = .ok (some base)) : base.FlowOf event := by
  unfold classifyEvent at classified
  split at classified
  · simp only at classified
    split at classified
    · exact of_classifySavings classified
    split at classified
    · exact of_movement classified (by simp)
    split at classified
    · rename_i swap
      exact of_classifySwap swap.2 classified
    split at classified
    · rename_i redeemed
      exact of_movement classified fun _ _ => by rw [redeemed.2]; decide
    · cases classified
  · cases classified

/-- What an event says to the buckets, by itself. -/
def nativeEntry (isAddress : String → Bool) (event : ProtocolEventInput) : Option FlowEntry :=
  match classifyEvent isAddress event with
  | .ok result => result.bind (·.entry)
  | .error _ => none

variable {events events' : List ProtocolEventInput} {classified : List ClassifiedEconomicEvent}

theorem nativeEntry_of_ok (event : ProtocolEventInput) (result : Option BaseClassification)
    (classified : classifyEvent isAddress event = .ok result) :
    result.bind (·.entry) = nativeEntry isAddress event := by
  rw [nativeEntry, classified]

/-- The entries of the classified events are those of the events that were put in. -/
theorem entries_of_classify
    (result : classifyProtocolTransactions isAddress events = .ok classified) :
    (entries classified).Perm (events.filterMap fun event =>
      nativeEntry isAddress (lowerCased event)) :=
  read_of_classifyProtocolTransactions nativeEntry_of_ok result

/-- Transfers and accruals say nothing. -/
theorem nativeEntry_of_named
    (named : event.eventName = "Transfer" ∨ event.eventName = "Accrued") :
    nativeEntry isAddress event = none := by
  unfold nativeEntry
  split
  · rename_i result classified
    cases result with
    | none => rfl
    | some base => exact (of_classifyEvent classified).flows named
  · rfl

theorem exists_classifyTransaction_iff :
    (∃ classified, classifyTransaction isAddress events = .ok classified) ↔
      ∀ event ∈ events, ∃ result, classifyEvent isAddress event = .ok result := by
  refine exists_bind_eq_ok_iff.trans ?_
  rw [exists_mapM_eq_ok_iff]
  simp only [mem_sortBy]

/-- **When the classification throws**: if it does at one of the events. -/
theorem exists_classify_iff :
    (∃ classified, classifyProtocolTransactions isAddress events = .ok classified) ↔
      ∀ event ∈ events, ∃ result, classifyEvent isAddress (lowerCased event) = .ok result := by
  have grouped := @Grouping.flatMap_groupBy_perm _ _ _ (·.transactionHash) (events.map lowerCased)
  refine exists_bind_eq_ok_iff.trans ?_
  rw [exists_mapM_eq_ok_iff]
  simp only [exists_classifyTransaction_iff]
  constructor
  · intro each event mem
    have mem := grouped.mem_iff.mpr (List.mem_map_of_mem mem)
    obtain ⟨part, known, inside⟩ := List.mem_flatMap.mp mem
    exact each part known _ inside
  · intro each part known event inside
    obtain ⟨source, mem, rfl⟩ := List.mem_map.mp
      (grouped.mem_iff.mp (List.mem_flatMap.mpr ⟨part, known, inside⟩))
    exact each source mem

/-- Every classified event is the classification of some event. -/
theorem exists_source_of_mem_classified
    (result : classifyProtocolTransactions isAddress events = .ok classified)
    {event : ClassifiedEconomicEvent} (mem : event ∈ classified) :
    ∃ source, classifyEvent isAddress source = .ok (some event.toBaseClassification) := by
  have reads : ∀ event result, classifyEvent isAddress event = .ok result →
      result.bind some = (classifyEvent isAddress event).toOption.join := by
    intro event result classified
    rw [classified]
    cases result <;> rfl
  have bases := read_of_classifyProtocolTransactions reads result
  have known := bases.mem_iff.mp (List.mem_filterMap.mpr ⟨event, mem, rfl⟩)
  obtain ⟨source, -, same⟩ := List.mem_filterMap.mp known
  cases classified : classifyEvent isAddress (lowerCased source) with
  | error error => rw [classified] at same; cases same
  | ok result =>
      rw [classified] at same
      cases result with
      | none => cases same
      | some base => cases same; exact ⟨_, classified⟩

/-- What has been classified can be added up. -/
theorem stated_of_classify
    (result : classifyProtocolTransactions isAddress events = .ok classified) :
    Stated classified := by
  intro event mem
  obtain ⟨source, classifies⟩ := exists_source_of_mem_classified result mem
  exact (of_classifyEvent classifies).stated

/-- Events that say the same to the buckets, in whatever order, make the same aggregates. -/
theorem exists_classify_congr
    (result : classifyProtocolTransactions isAddress events = .ok classified)
    (subset : ∀ event ∈ events', event ∈ events)
    (same : (events.filterMap fun event => nativeEntry isAddress (lowerCased event)).Perm
      (events'.filterMap fun event => nativeEntry isAddress (lowerCased event))) :
    ∃ classified', classifyProtocolTransactions isAddress events' = .ok classified' ∧
      ∀ granularity, aggregateNativeFlows classified' granularity
        = aggregateNativeFlows classified granularity := by
  have each := exists_classify_iff.mp ⟨classified, result⟩
  obtain ⟨classified', result'⟩ :=
    exists_classify_iff.mpr fun event mem => each event (subset event mem)
  refine ⟨classified', result', fun granularity => ?_⟩
  exact aggregateNativeFlows_congr (stated_of_classify result') (stated_of_classify result)
    ((entries_of_classify result').trans (same.symm.trans (entries_of_classify result).symm))
    granularity

end Classify

/-! ## Hours and days -/

/-- The day of an hour's bucket. -/
def dayKey (hour : ℤ × NativeFlowMetric) : ℤ × NativeFlowMetric :=
  (bucketStart hour.1 .day, hour.2)

/-- The hour lies in the day, and both are of one metric. -/
def FlowAggregate.Contains (day hour : FlowAggregate) : Prop :=
  dayKey (hour.bucketStart, hour.metric) = (day.bucketStart, day.metric)

instance (day hour : FlowAggregate) : Decidable (day.Contains hour) :=
  inferInstanceAs (Decidable (_ = _))

/-- What the hours of a day make of it. -/
structure FlowAggregate.SumOf (day : FlowAggregate) (hours : List FlowAggregate) : Prop where
  amount : (hours.map (·.amountBaseUnits)).sum = day.amountBaseUnits
  count : (hours.map (·.eventCount)).sum = day.eventCount
  atLeast : ∀ hour ∈ hours, hour.uniqueParticipants ≤ day.uniqueParticipants
  atMost : day.uniqueParticipants ≤ (hours.map (·.uniqueParticipants)).sum

theorem FlowAggregate.SumOf.congr {day : FlowAggregate} {hours hours' : List FlowAggregate}
    (sum : day.SumOf hours) (perm : hours.Perm hours') : day.SumOf hours' where
  amount := ((perm.map _).sum_eq).symm.trans sum.amount
  count := ((perm.map _).sum_eq).symm.trans sum.count
  atLeast := fun hour mem => sum.atLeast hour (perm.mem_iff.mpr mem)
  atMost := sum.atMost.trans_eq (perm.map _).sum_eq

/-- There is one bucket for each hour and one for each day, and the days are the sums of
their hours. -/
structure HoursMakeDays (hours days : List FlowAggregate) : Prop where
  distinctHours : (hours.map fun hour => (hour.bucketStart, hour.metric)).Nodup
  distinctDays : (days.map fun day => (day.bucketStart, day.metric)).Nodup
  dayOf : ∀ hour ∈ hours, ∃ day ∈ days, day.Contains hour
  hoursOf : ∀ day ∈ days, day.SumOf (hours.filter (day.Contains ·))

/-- An entry is in its hour, and its hour is in its day. -/
theorem dayKey_key (entry : FlowEntry) : dayKey (entry.key .hour) = entry.key .day := by
  have nested (timestamp : ℤ) :
      bucketStart (bucketStart timestamp .hour) .day = bucketStart timestamp .day := by
    simp only [bucketStart, FlowGranularity.milliseconds]
    omega
  rw [dayKey, FlowEntry.key, FlowEntry.key, nested]

/-- A set within some others is no larger than all of them together. -/
theorem card_le_sum_of_covered {α : Type*} [DecidableEq α] {parts : List (Finset α)} :
    ∀ {whole : Finset α}, (∀ a ∈ whole, ∃ part ∈ parts, a ∈ part) →
      whole.card ≤ (parts.map Finset.card).sum := by
  induction parts with
  | nil =>
      intro whole covered
      have nothing : whole = ∅ := Finset.eq_empty_of_forall_notMem fun a mem => by
        obtain ⟨part, known, -⟩ := covered a mem
        exact absurd known (List.not_mem_nil)
      rw [nothing]
      rfl
  | cons part parts ih =>
      intro whole covered
      have rest : ∀ a ∈ whole \ part, ∃ other ∈ parts, a ∈ other := by
        intro a mem
        obtain ⟨mem, notMem⟩ := Finset.mem_sdiff.mp mem
        obtain ⟨other, known, inside⟩ := covered a mem
        rcases List.mem_cons.mp known with rfl | known
        · exact absurd inside notMem
        · exact ⟨other, known, inside⟩
      calc whole.card ≤ (part ∪ whole \ part).card :=
            Finset.card_le_card (by rw [Finset.union_sdiff_self_eq_union]
                                    exact Finset.subset_union_right)
        _ ≤ part.card + (whole \ part).card := Finset.card_union_le _ _
        _ ≤ ((part :: parts).map Finset.card).sum := Nat.add_le_add_left (ih rest) _

section HoursAndDays

variable {events : List ClassifiedEconomicEvent} {hours days : List FlowBucket}

/-- The entries of a day are those of its hours. -/
theorem participants_of_hours (filledHours : Filled .hour events hours)
    (filledDays : Filled .day events days) {day : FlowBucket} (mem : day ∈ days)
    {participant : String} : participant ∈ day.participants ↔
      ∃ hour ∈ hours, dayKey hour.key = day.key ∧ participant ∈ hour.participants := by
  rw [filledDays.participants day mem, mem_participantsAt]
  constructor
  · rintro ⟨entry, known, same, present⟩
    have opened : entry.key .hour ∈ hours.map FlowBucket.key := by
      rw [filledHours.amounts.mem_iff, filterMap_flowPosting, List.map_map]
      exact List.mem_map_of_mem known
    obtain ⟨hour, stored, equal⟩ := List.mem_map.mp opened
    refine ⟨hour, stored, by rw [equal, dayKey_key, same], ?_⟩
    rw [filledHours.participants hour stored, mem_participantsAt]
    exact ⟨entry, known, equal.symm, present⟩
  · rintro ⟨hour, stored, same, present⟩
    rw [filledHours.participants hour stored, mem_participantsAt] at present
    obtain ⟨entry, known, equal, present⟩ := present
    exact ⟨entry, known, by rw [← dayKey_key, equal, same], present⟩

/-- What is added up over the hours of a day is what has been posted to the day. -/
theorem sum_hours {balance : FlowBucket → ℕ} {amount : FlowEntry → ℕ}
    (postedHours : Postings.Posted FlowBucket.key balance
      ((entries events).map fun entry => (entry.key .hour, amount entry)) hours)
    (postedDays : Postings.Posted FlowBucket.key balance
      ((entries events).map fun entry => (entry.key .day, amount entry)) days)
    {day : FlowBucket} (mem : day ∈ days) :
    ((hours.filter fun hour => dayKey hour.key = day.key).map balance).sum = balance day := by
  rw [postedHours.sum_eq fun key => dayKey key = day.key, postedDays.balance_eq day mem,
    Postings.net, List.filter_map, List.filter_map, List.map_map, List.map_map]
  simp only [Function.comp_def, dayKey_key]

/-- **The hours make the day.** -/
theorem sumOf_hours (filledHours : Filled .hour events hours) (filledDays : Filled .day events days)
    {day : FlowBucket} (mem : day ∈ days) :
    (day.aggregate .day).SumOf
      ((hours.filter fun hour => dayKey hour.key = day.key).map (FlowBucket.aggregate .hour)) := by
  have present := fun participant => @participants_of_hours _ _ _ filledHours filledDays _ mem
    participant
  constructor
  · have amounts := filledHours.amounts
    have amounts' := filledDays.amounts
    rw [filterMap_flowPosting] at amounts amounts'
    rw [List.map_map]
    exact sum_hours amounts amounts' mem
  · have counts := filledHours.counts
    have counts' := filledDays.counts
    rw [filterMap_flowPosting, List.map_map] at counts counts'
    rw [List.map_map]
    exact sum_hours counts counts' mem
  · intro aggregate known
    obtain ⟨hour, inside, rfl⟩ := List.mem_map.mp known
    obtain ⟨stored, same⟩ := List.mem_filter.mp inside
    exact Finset.card_le_card fun participant inHour =>
      (present participant).mpr ⟨hour, stored, of_decide_eq_true same, inHour⟩
  · have covered : ∀ participant ∈ day.participants, ∃ part ∈ (hours.filter fun hour =>
        dayKey hour.key = day.key).map FlowBucket.participants, participant ∈ part := by
      intro participant inDay
      obtain ⟨hour, stored, same, inHour⟩ := (present participant).mp inDay
      exact ⟨hour.participants, List.mem_map_of_mem
        (List.mem_filter.mpr ⟨stored, decide_eq_true same⟩), inHour⟩
    have bound := card_le_sum_of_covered covered
    rw [List.map_map] at bound
    rw [List.map_map]
    exact bound

/-- Every hour has its day. -/
theorem exists_day_of_hour (filledHours : Filled .hour events hours)
    (filledDays : Filled .day events days) {hour : FlowBucket} (mem : hour ∈ hours) :
    ∃ day ∈ days, dayKey hour.key = day.key := by
  have posted : hour.key ∈ hours.map FlowBucket.key := List.mem_map_of_mem mem
  rw [filledHours.amounts.mem_iff, filterMap_flowPosting, List.map_map] at posted
  obtain ⟨entry, known, same⟩ := List.mem_map.mp posted
  have opened : entry.key .day ∈ days.map FlowBucket.key := by
    rw [filledDays.amounts.mem_iff, filterMap_flowPosting, List.map_map]
    exact List.mem_map_of_mem known
  obtain ⟨day, stored, equal⟩ := List.mem_map.mp opened
  refine ⟨day, stored, ?_⟩
  rw [equal, ← dayKey_key, ← same]
  rfl

end HoursAndDays

/-- The two aggregations of the same events. -/
theorem hoursMakeDays {events : List ClassifiedEconomicEvent} {hours days : List FlowAggregate}
    (byHour : aggregateNativeFlows events .hour = .ok hours)
    (byDay : aggregateNativeFlows events .day = .ok days) : HoursMakeDays hours days := by
  refine ⟨(aggregateNativeFlows_eq_ok byHour).2.1, (aggregateNativeFlows_eq_ok byDay).2.1, ?_, ?_⟩
  all_goals
    obtain ⟨hourBuckets, runHours, byHour⟩ := bind_eq_ok.mp byHour
    obtain ⟨dayBuckets, runDays, byDay⟩ := bind_eq_ok.mp byDay
    cases byHour
    cases byDay
    have filledHours := filled_of_foldlM runHours
    have filledDays := filled_of_foldlM runDays
  · intro hour mem
    obtain ⟨bucket, stored, rfl⟩ := List.mem_map.mp mem
    obtain ⟨day, known, same⟩ := exists_day_of_hour filledHours filledDays (mem_sortBy.mp stored)
    exact ⟨day.aggregate .day, List.mem_map_of_mem (mem_sortBy.mpr known), same⟩
  · intro day mem
    obtain ⟨bucket, stored, rfl⟩ := List.mem_map.mp mem
    have ordered := (((perm_sortBy (lexCompare (·.bucketStart) fun bucket => bucket.metric.rank)
      hourBuckets).filter fun hour => dayKey hour.key = bucket.key).map
        (FlowBucket.aggregate .hour))
    rw [List.filter_map]
    exact (sumOf_hours filledHours filledDays (mem_sortBy.mp stored)).congr ordered.symm

/-! ## The totals -/

/-- What the aggregates of a metric add up to. -/
structure TotalOf (classified : List ClassifiedEconomicEvent) (metric : NativeFlowMetric)
    (aggregates : List FlowAggregate) : Prop where
  amount : ((aggregates.filter (·.metric = metric)).map (·.amountBaseUnits)).sum
    = ((classified.filter (·.classification = .native metric)).map
        fun event => event.amountBaseUnits.getD 0).sum
  count : ((aggregates.filter (·.metric = metric)).map (·.eventCount)).sum
    = (classified.filter (·.classification = .native metric)).length

/-- Where every flow states its amount, the flows of a metric are its events. -/
theorem filterMap_flow_of_stated {events : List ClassifiedEconomicEvent} (stated : Stated events)
    (metric : NativeFlowMetric) : events.filterMap (·.flow metric)
      = (events.filter (·.classification = .native metric)).map
          fun event => event.amountBaseUnits.getD 0 := by
  induction events with
  | nil => rfl
  | cons event events ih =>
      obtain ⟨head, tail⟩ := List.forall_mem_cons.mp stated
      by_cases native : event.classification = .native metric
      · obtain ⟨amount, same⟩ := Option.isSome_iff_exists.mp (head metric native)
        have flow : event.flow metric = some amount := (if_pos native).trans same
        simp only [List.filterMap_cons, List.filter_cons, flow, native, decide_true, if_true,
          List.map_cons, same, Option.getD_some]
        rw [ih tail]
      · have flow : event.flow metric = none := BaseClassification.flow_of_ne native
        simp only [List.filterMap_cons, List.filter_cons, flow, native, decide_false,
          Bool.false_eq_true, if_false]
        exact ih tail

theorem totalOf_aggregates {events : List ClassifiedEconomicEvent} (stated : Stated events)
    {granularity : FlowGranularity} {aggregates : List FlowAggregate}
    (result : aggregateNativeFlows events granularity = .ok aggregates)
    (metric : NativeFlowMetric) : TotalOf events metric aggregates := by
  obtain ⟨amounts, counts⟩ := (aggregateNativeFlows_eq_ok result).2.2 metric
  rw [filterMap_flow_of_stated stated] at amounts counts
  exact ⟨amounts, counts.trans (List.length_map _)⟩

/-- **The flows are neither lost nor counted twice.**  Whatever has been classified can be
added up by the hour and by the day; the days are the sums of their hours and all together
the totals of the classified events; transfers and accruals have no part in it, nor has the
order of the events. -/
theorem aggregateNativeFlows_exact (isAddress : String → Bool) (events : List ProtocolEventInput)
    (classified : List ClassifiedEconomicEvent)
    (result : classifyProtocolTransactions isAddress events = .ok classified) :
    ∃ hours days, aggregateNativeFlows classified .hour = .ok hours ∧
      aggregateNativeFlows classified .day = .ok days ∧ HoursMakeDays hours days ∧
      (∀ metric, TotalOf classified metric hours ∧ TotalOf classified metric days) ∧
      (∃ others, classifyProtocolTransactions isAddress (events.filter fun event =>
            event.eventName ≠ "Transfer" ∧ event.eventName ≠ "Accrued") = .ok others ∧
          aggregateNativeFlows others .hour = .ok hours ∧
          aggregateNativeFlows others .day = .ok days) ∧
      ∀ events', events.Perm events' → ∃ classified',
        classifyProtocolTransactions isAddress events' = .ok classified' ∧
          aggregateNativeFlows classified' .hour = .ok hours ∧
          aggregateNativeFlows classified' .day = .ok days := by
  have stated := stated_of_classify result
  obtain ⟨hours, byHour⟩ := exists_aggregates_of_stated stated .hour
  obtain ⟨days, byDay⟩ := exists_aggregates_of_stated stated .day
  refine ⟨hours, days, byHour, byDay, hoursMakeDays byHour byDay, fun metric =>
    ⟨totalOf_aggregates stated byHour metric, totalOf_aggregates stated byDay metric⟩, ?_, ?_⟩
  · have same : (events.filterMap fun event => nativeEntry isAddress (lowerCased event))
        = (events.filter fun event => event.eventName ≠ "Transfer" ∧
            event.eventName ≠ "Accrued").filterMap fun event =>
              nativeEntry isAddress (lowerCased event) := by
      rw [List.filterMap_filter]
      refine List.filterMap_congr fun event _ => ?_
      by_cases named : event.eventName = "Transfer" ∨ event.eventName = "Accrued"
      · rw [if_neg (by simpa [imp_iff_not_or] using named)]
        exact nativeEntry_of_named named
      · rw [if_pos (by simpa using named)]
    obtain ⟨others, classifies, congr⟩ := exists_classify_congr result
      (fun event mem => (List.mem_filter.mp mem).1) (.of_eq same)
    exact ⟨others, classifies, (congr .hour).trans byHour, (congr .day).trans byDay⟩
  · intro events' perm
    obtain ⟨classified', classifies, congr⟩ := exists_classify_congr result
      (fun event mem => perm.mem_iff.mpr mem) (perm.filterMap _)
    exact ⟨classified', classifies, (congr .hour).trans byHour, (congr .day).trans byDay⟩

/-- A deposit and the transfer of its shares, in one transaction. -/
def depositTransaction : List ProtocolEventInput :=
  [⟨0, 999, 40000000, 1783600000000, "0xF1", 4, "susdp-savings", "Transfer",
      .object [("from", .text "0x0000000000000000000000000000000000000000"),
        ("to", .text "0x00000000000000000000000000000000000000a1"), ("value", .decimal 200)]⟩,
    ⟨1, 999, 40000000, 1783600000000, "0xf1", 3, "susdp-savings", "Deposit",
      .object [("sender", .text "0x00000000000000000000000000000000000000a1"),
        ("owner", .text "0x00000000000000000000000000000000000000a1"),
        ("assets", .decimal 250), ("shares", .decimal 200)]⟩]

theorem aggregateNativeFlows_exact_deposit : ∃ classified hours days,
    classifyProtocolTransactions (Text.isHex 40) depositTransaction = .ok classified ∧
      classified.length = 2 ∧ aggregateNativeFlows classified .hour = .ok hours ∧
      aggregateNativeFlows classified .day = .ok days ∧ HoursMakeDays hours days := by
  obtain ⟨classified, result, two⟩ : ∃ classified,
      classifyProtocolTransactions (Text.isHex 40) depositTransaction = .ok classified ∧
        classified.length = 2 := by
    have computed : (classifyProtocolTransactions (Text.isHex 40) depositTransaction).map
        List.length = .ok 2 := by decide +kernel
    exact FailingFold.map_eq_ok.mp computed
  obtain ⟨hours, days, byHour, byDay, sums, -⟩ :=
    aggregateNativeFlows_exact (Text.isHex 40) depositTransaction classified result
  exact ⟨classified, hours, days, result, two, byHour, byDay, sums⟩

end EconomicEvents

end UsdpIndexer
