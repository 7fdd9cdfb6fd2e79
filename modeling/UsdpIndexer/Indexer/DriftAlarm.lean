import UsdpIndexer.Indexer.Ingest

/-!
# Integrity errors and the worker

`runSevenDayWorker` of `indexer/worker.ts` stops at an error that `classifyRpcError` calls
fatal, and tries again after any other one.  That a block is no longer the one that was stored
is told by messages that state block numbers and hashes, and the classes are found by searching
the message, among others for the digits of HTTP statuses.

`ingestLogs` throws the two alarms where its prologue finds another anchor and where a chunk
contradicts a stored block.  An alarm is fatal exactly if no such digits happen to occur in what
it states (`drift_fatal_iff`).
-/

namespace UsdpIndexer

open Text

/-! ## The worker -/

/-- What a turn of the worker's loop meets: the abort signal, and what `ingestLogs` comes to. -/
structure WorkerAttempt where
  aborted : Bool
  result : Except JsError IngestionProgress

/-- How the worker has ended. -/
inductive WorkerResult
  | finished (result : IngestionProgress)
  | interrupted
deriving DecidableEq, Repr

/-- The loop of `runSevenDayWorker`; what it waits between two turns is left out. -/
def runSevenDayWorker : List WorkerAttempt → Attempted WorkerResult
  | [] => .waiting
  | attempt :: attempts =>
      if attempt.aborted then .returned .interrupted
      else
        match attempt.result with
        | .ok result => .returned (.finished result)
        | .error error =>
            if classifyRpcError error = .fatal then .threw error
            else runSevenDayWorker attempts

/-! ## The phrases -/

/-- The phrases of `classifyRpcError` that are words; one of those for ranges counts only
together with another word. -/
def failureWords : List String :=
  ["block range", "range limit", "limited to a", "query exceeds", "response size",
    "too many results", "too many requests", "rate limit", "compute units per second",
    "throughput", "timeout", "timed out", "temporarily", "network", "fetch failed"]

/-- Those that are digits. -/
def statusDigits : List String := ["429", "503", "502", "500"]

/-- A text states digits that are taken for an HTTP status. -/
def MentionsStatus (text : String) : Prop := ∃ digits ∈ statusDigits, includes text digits

instance (text : String) : Decidable (MentionsStatus text) :=
  inferInstanceAs (Decidable (∃ digits ∈ statusDigits, _))

/-- Without any of the words only the digits decide. -/
theorem classifyRpcError_of_plain {error : JsError}
    (plain : ∀ word ∈ failureWords, includes error.searchText word = false) :
    classifyRpcError error
      = if includes error.searchText "429" then .rateLimit
        else if MentionsStatus error.searchText then .transient
        else .fatal := by
  simp only [failureWords, List.forall_mem_cons, List.not_mem_nil, false_implies, implies_true,
    and_true] at plain
  simp only [classifyRpcError, plain, MentionsStatus, statusDigits, List.exists_mem_cons_iff,
    Bool.false_or, Bool.or_false, Bool.false_and, List.not_mem_nil, false_and, exists_false]
  cases includes error.searchText "429" <;> cases includes error.searchText "503" <;>
    cases includes error.searchText "502" <;> cases includes error.searchText "500" <;> simp

theorem classifyRpcError_eq_fatal_iff {error : JsError}
    (plain : ∀ word ∈ failureWords, includes error.searchText word = false) :
    classifyRpcError error = .fatal ↔ ¬ MentionsStatus error.searchText := by
  rw [classifyRpcError_of_plain plain]
  by_cases limited : includes error.searchText "429"
  · have mentioned : MentionsStatus error.searchText := ⟨"429", List.mem_cons_self, limited⟩
    simp [limited, mentioned]
  · simp [limited]

/-! ## What a message states -/

/-- What a character of a message is searched as. -/
def searchChar (c : Char) : Char := if c.toLower = '_' then ' ' else c.toLower

theorem toList_searchText (message : String) :
    (JsError.mk message).searchText.toList = message.toList.map searchChar := by
  rw [JsError.searchText, replaceChar, String.toList_ofList, toList_toLowerCase, List.map_map]
  rfl

theorem searchChar_of_isDigit {c : Char} (digit : c.isDigit) : searchChar c = c := by
  have range : 48 ≤ c.toNat ∧ c.toNat ≤ 57 := by
    simpa [Char.isDigit, UInt32.le_iff_toNat_le] using digit
  have lower : c.toLower = c := by
    unfold Char.toLower
    rw [dif_neg]
    have first : 'A'.val.toNat = 65 := by decide
    have code : c.val.toNat = c.toNat := rfl
    simp only [ge_iff_le, UInt32.le_iff_toNat_le]
    omega
  rw [searchChar, lower, if_neg]
  rintro rfl
  exact absurd range (by decide)

/-- The digits of a block number. -/
theorem digits_toString (number : ℕ) :
    ∃ first rest, (toString (number : ℤ)).toList = first :: rest ∧
      ∀ c ∈ first :: rest, c.isDigit := by
  have chars : (toString (number : ℤ)).toList = Nat.toDigits 10 number := by
    show (Nat.repr number).toList = _
    rw [Nat.repr_eq_ofList_toDigits, String.toList_ofList]
  obtain ⟨first, rest, split⟩ :=
    List.exists_cons_of_ne_nil (Nat.toDigits_ne_nil (n := number) (b := 10))
  refine ⟨first, rest, chars.trans split, fun c mem => ?_⟩
  exact Nat.isDigit_of_mem_toDigits (by decide) (by decide) (split ▸ mem)

/-- The digits of a hash. -/
theorem digits_of_isHex {text : String} (hash : isHex 64 (toLowerCase text)) :
    ∃ digits, (toLowerCase text).toList = '0' :: 'x' :: digits ∧
      text.toList.map searchChar = '0' :: 'x' :: digits ∧ ∀ c ∈ digits, isLowerHexDigit c := by
  unfold isHex at hash
  split at hash
  · rename_i digits chars
    rw [Bool.and_eq_true, decide_eq_true_eq, List.all_eq_true] at hash
    refine ⟨digits, chars, ?_, hash.2⟩
    have searched : text.toList.map searchChar
        = (toLowerCase text).toList.map fun c => if c = '_' then ' ' else c := by
      rw [toList_toLowerCase, List.map_map]
      rfl
    rw [searched, chars]
    have kept : digits.map (fun c => if c = '_' then ' ' else c) = digits := by
      conv_rhs => rw [← List.map_id digits]
      refine List.map_congr_left fun c mem => if_neg ?_
      rintro rfl
      exact absurd (hash.2 _ mem) (by decide)
    rw [List.map_cons, List.map_cons, kept]
    rfl
  · cases hash

/-! ## The messages -/

/-- The alarm of the prologue. -/
def checkpointDrift (lastCompletedBlock : ℤ) : JsError :=
  ⟨"Checkpoint hash drift at block " ++ toString lastCompletedBlock⟩

/-- The alarm of `insertBlocks`. -/
def blockDrift (number : ℤ) (existingHash hash : String) : JsError :=
  ⟨"Block hash drift at " ++ toString number ++ ": stored " ++ existingHash ++ ", RPC " ++ hash⟩

/-- What a word must be for not to occur in an alarm but in the fixed parts: it has no digits and
no separators, and a letter that is no hexadecimal digit. -/
def PlainWord (word : List Char) : Prop :=
  (∀ c ∈ word, c.isDigit = false ∧ c ≠ ':' ∧ c ≠ ',') ∧
    ∃ c ∈ word, isLowerHexDigit c = false ∧ c ≠ 'x'

instance (word : List Char) : Decidable (PlainWord word) :=
  @instDecidableAnd _ _ (List.decidableBAll _ word) (List.decidableBEx _ word)

section Plain

variable {word front digits : List Char} {c : Char}

theorem not_infix_digits (plain : PlainWord word) (solid : ∀ c ∈ digits, c.isDigit) :
    ¬ word <:+: digits := by
  obtain ⟨letter, mem, -⟩ := plain.2
  refine not_infix_of_mem mem fun inside => ?_
  have digit := solid letter inside
  rw [(plain.1 letter mem).1] at digit
  cases digit

theorem PlainWord.infix_number_iff (plain : PlainWord word)
    (solid : ∀ d ∈ c :: digits, d.isDigit) :
    word <:+: front ++ c :: digits ↔ word <:+: front := by
  have absent : c ∉ word := by
    intro mem
    have digit := solid c List.mem_cons_self
    rw [(plain.1 c mem).1] at digit
    cases digit
  rw [infix_append_cons_iff absent]
  exact or_iff_left (not_infix_digits plain fun d mem => solid d (List.mem_cons_of_mem _ mem))

theorem PlainWord.infix_hash_iff (plain : PlainWord word)
    (solid : ∀ d ∈ digits, isLowerHexDigit d) :
    word <:+: front ++ '0' :: 'x' :: digits ↔ word <:+: front := by
  have absent : '0' ∉ word := fun mem => absurd (plain.1 _ mem).1 (by decide)
  rw [infix_append_cons_iff absent]
  refine or_iff_left ?_
  obtain ⟨letter, mem, other, notX⟩ := plain.2
  refine not_infix_of_mem mem fun inside => ?_
  rcases List.mem_cons.mp inside with rfl | inside
  · exact notX rfl
  · rw [solid letter inside] at other
    cases other

end Plain

/-- Every word is plain, and none occurs in the fixed parts of an alarm. -/
theorem failureWords_plain : ∀ word ∈ failureWords, PlainWord word.toList ∧
    ¬ word.toList <:+: "checkpoint hash drift at block ".toList ∧
    ¬ word.toList <:+: "block hash drift at ".toList ∧ ¬ word.toList <:+: " stored ".toList ∧
    ¬ word.toList <:+: " rpc ".toList := by
  decide +kernel

/-- A block number is searched as it is written. -/
theorem map_searchChar_toString (number : ℕ) :
    (toString (number : ℤ)).toList.map searchChar = (toString (number : ℤ)).toList := by
  obtain ⟨first, rest, split, solid⟩ := digits_toString number
  rw [split]
  conv_rhs => rw [← List.map_id (first :: rest)]
  exact List.map_congr_left fun c mem => searchChar_of_isDigit (solid c mem)

theorem toList_searchText_checkpointDrift (number : ℕ) :
    (checkpointDrift number).searchText.toList
      = "checkpoint hash drift at block ".toList ++ (toString (number : ℤ)).toList := by
  have fixed : "Checkpoint hash drift at block ".toList.map searchChar
      = "checkpoint hash drift at block ".toList := by simp; decide
  refine (toList_searchText _).trans ?_
  rw [String.toList_append, List.map_append, map_searchChar_toString, fixed]

theorem toList_searchText_blockDrift (number : ℕ) (stored rpc : String) :
    (blockDrift number stored rpc).searchText.toList
      = "block hash drift at ".toList ++ (toString (number : ℤ)).toList ++ ": stored ".toList
        ++ stored.toList.map searchChar ++ ", rpc ".toList ++ rpc.toList.map searchChar := by
  have fixed : "Block hash drift at ".toList.map searchChar = "block hash drift at ".toList ∧
      ": stored ".toList.map searchChar = ": stored ".toList ∧
      ", RPC ".toList.map searchChar = ", rpc ".toList := by simp; decide
  refine (toList_searchText _).trans ?_
  simp only [String.toList_append, List.map_append, map_searchChar_toString]
  rw [fixed.1, fixed.2.1, fixed.2.2]

/-- A message about a block number and two hashes, with the number and the hashes between the
separators. -/
theorem toList_searchText_blockDrift_pieces (number : ℕ) {stored rpc : String}
    {storedDigits rpcDigits : List Char}
    (hstored : stored.toList.map searchChar = '0' :: 'x' :: storedDigits)
    (hrpc : rpc.toList.map searchChar = '0' :: 'x' :: rpcDigits) :
    (blockDrift number stored rpc).searchText.toList
      = ("block hash drift at ".toList ++ (toString (number : ℤ)).toList)
        ++ ':' :: ((" stored ".toList ++ '0' :: 'x' :: storedDigits)
          ++ ',' :: (" rpc ".toList ++ '0' :: 'x' :: rpcDigits)) := by
  have colon : ": stored ".toList = ':' :: " stored ".toList := by simp
  have comma : ", rpc ".toList = ',' :: " rpc ".toList := by simp
  rw [toList_searchText_blockDrift, hstored, hrpc, colon, comma]
  simp only [List.append_assoc, List.cons_append]

/-- **No alarm contains a word.** -/
theorem words_checkpointDrift (number : ℕ) :
    ∀ word ∈ failureWords, includes (checkpointDrift number).searchText word = false := by
  intro word mem
  obtain ⟨plain, fixed, -⟩ := failureWords_plain word mem
  obtain ⟨first, rest, split, solid⟩ := digits_toString number
  rw [includes, decide_eq_false_iff_not, toList_searchText_checkpointDrift, split,
    plain.infix_number_iff solid]
  exact fixed

theorem words_blockDrift (number : ℕ) {stored rpc : String}
    (hstored : isHex 64 (toLowerCase stored)) (hrpc : isHex 64 (toLowerCase rpc)) :
    ∀ word ∈ failureWords, includes (blockDrift number stored rpc).searchText word = false := by
  intro word mem
  obtain ⟨plain, -, drift, storedPart, rpcPart⟩ := failureWords_plain word mem
  obtain ⟨first, rest, split, solid⟩ := digits_toString number
  obtain ⟨storedDigits, -, storedText, storedSolid⟩ := digits_of_isHex hstored
  obtain ⟨rpcDigits, -, rpcText, rpcSolid⟩ := digits_of_isHex hrpc
  rw [includes, decide_eq_false_iff_not,
    toList_searchText_blockDrift_pieces number storedText rpcText, split,
    infix_append_cons_iff fun inside => (plain.1 _ inside).2.1 rfl,
    infix_append_cons_iff fun inside => (plain.1 _ inside).2.2 rfl,
    plain.infix_number_iff solid, plain.infix_hash_iff storedSolid, plain.infix_hash_iff rpcSolid]
  rintro (inFront | inMiddle | inBack)
  · exact drift inFront
  · exact storedPart inMiddle
  · exact rpcPart inBack

/-- Digits contain no separator, and the fixed parts of an alarm contain no digits. -/
theorem statusDigits_plain : ∀ digits ∈ statusDigits,
    (' ' ∉ digits.toList ∧ ':' ∉ digits.toList ∧ ',' ∉ digits.toList) ∧
    ¬ digits.toList <:+: "checkpoint hash drift at block".toList ∧
    ¬ digits.toList <:+: "block hash drift at".toList ∧ ¬ digits.toList <:+: " stored".toList ∧
    ¬ digits.toList <:+: " rpc".toList := by
  decide +kernel

/-- Digits occur in an alarm where they occur in what it states. -/
theorem includes_checkpointDrift (number : ℕ) {digits : String} (mem : digits ∈ statusDigits) :
    includes (checkpointDrift number).searchText digits
      ↔ includes (toString (number : ℤ)) digits := by
  have blank : "checkpoint hash drift at block ".toList
      = "checkpoint hash drift at block".toList ++ [' '] := by simp
  obtain ⟨⟨space, -⟩, fixed, -⟩ := statusDigits_plain digits mem
  rw [includes, includes, decide_eq_true_iff, decide_eq_true_iff,
    toList_searchText_checkpointDrift, blank, List.append_assoc, List.singleton_append,
    infix_append_cons_iff space]
  exact or_iff_right fixed

theorem includes_blockDrift (number : ℕ) {stored rpc digits : String}
    (hstored : isHex 64 (toLowerCase stored)) (hrpc : isHex 64 (toLowerCase rpc))
    (mem : digits ∈ statusDigits) :
    includes (blockDrift number stored rpc).searchText digits
      ↔ includes (toString (number : ℤ)) digits ∨ includes (toLowerCase stored) digits ∨
        includes (toLowerCase rpc) digits := by
  have blank : "block hash drift at ".toList = "block hash drift at".toList ++ [' '] ∧
      " stored ".toList = " stored".toList ++ [' '] ∧ " rpc ".toList = " rpc".toList ++ [' '] := by
    simp
  obtain ⟨storedDigits, storedLower, storedText, -⟩ := digits_of_isHex hstored
  obtain ⟨rpcDigits, rpcLower, rpcText, -⟩ := digits_of_isHex hrpc
  obtain ⟨⟨space, colon, comma⟩, -, drift, storedPart, rpcPart⟩ := statusDigits_plain digits mem
  simp only [includes, decide_eq_true_iff]
  rw [toList_searchText_blockDrift_pieces number storedText rpcText, storedLower, rpcLower,
    infix_append_cons_iff colon, infix_append_cons_iff comma, blank.1, blank.2.1, blank.2.2,
    List.append_assoc, List.append_assoc, List.append_assoc, List.singleton_append,
    List.singleton_append, List.singleton_append, infix_append_cons_iff space,
    infix_append_cons_iff space, infix_append_cons_iff space, or_iff_right drift,
    or_iff_right storedPart, or_iff_right rpcPart]

theorem mentionsStatus_checkpointDrift (number : ℕ) :
    MentionsStatus (checkpointDrift number).searchText
      ↔ MentionsStatus (toString (number : ℤ)) :=
  exists_congr fun _ => and_congr_right fun mem => includes_checkpointDrift number mem

theorem mentionsStatus_blockDrift (number : ℕ) {stored rpc : String}
    (hstored : isHex 64 (toLowerCase stored)) (hrpc : isHex 64 (toLowerCase rpc)) :
    MentionsStatus (blockDrift number stored rpc).searchText
      ↔ MentionsStatus (toString (number : ℤ)) ∨ MentionsStatus (toLowerCase stored) ∨
        MentionsStatus (toLowerCase rpc) := by
  simp only [MentionsStatus]
  constructor
  · rintro ⟨digits, mem, occurs⟩
    rcases (includes_blockDrift number hstored hrpc mem).mp occurs with inNumber | inStored | inRpc
    · exact .inl ⟨digits, mem, inNumber⟩
    · exact .inr (.inl ⟨digits, mem, inStored⟩)
    · exact .inr (.inr ⟨digits, mem, inRpc⟩)
  · rintro (⟨digits, mem, occurs⟩ | ⟨digits, mem, occurs⟩ | ⟨digits, mem, occurs⟩)
    · exact ⟨digits, mem, (includes_blockDrift number hstored hrpc mem).mpr (.inl occurs)⟩
    · exact ⟨digits, mem, (includes_blockDrift number hstored hrpc mem).mpr (.inr (.inl occurs))⟩
    · exact ⟨digits, mem, (includes_blockDrift number hstored hrpc mem).mpr (.inr (.inr occurs))⟩

/-! ## What stops the worker -/

/-- Only what is fatal gets through the loop. -/
theorem fatal_of_runSevenDayWorker_threw {error : JsError} {attempts : List WorkerAttempt}
    (threw : runSevenDayWorker attempts = .threw error) : classifyRpcError error = .fatal := by
  induction attempts with
  | nil => cases threw
  | cons attempt attempts ih =>
      rw [runSevenDayWorker] at threw
      split at threw
      · cases threw
      · split at threw
        · cases threw
        · split at threw
          · rename_i fatal
            cases threw
            exact fatal
          · exact ih threw

theorem runSevenDayWorker_rethrows_iff {error : JsError} {attempts : List WorkerAttempt} :
    runSevenDayWorker (⟨false, .error error⟩ :: attempts) = .threw error
      ↔ classifyRpcError error = .fatal := by
  refine ⟨fatal_of_runSevenDayWorker_threw, fun fatal => ?_⟩
  simp only [runSevenDayWorker, Bool.false_eq_true, if_false, fatal, if_true]

/-- `insertBlocks` throws the alarm at the first block that contradicts a stored one. -/
theorem insertBlocks_drift {chainId : ℕ} {blocks : List StoredBlock} {db : Database}
    {counters : IngestionCounters} {block : StoredBlock} {existingHash : String}
    (drift : findHashDrift db chainId (uniqueBlocks blocks) = some (block, existingHash)) :
    insertBlocks none chainId blocks db counters
      = .error (blockDrift block.number existingHash block.hash, counters) := by
  have nonempty : blocks ≠ [] := by
    rintro rfl
    cases drift
  rw [insertBlocks, if_neg nonempty]
  show Transaction.bind (Transaction.statement _) _ db counters = _
  simp only [Transaction.bind, Transaction.statement, drift]
  rfl

/-- The prologue throws the alarm where the anchor has changed. -/
theorem checkAnchor_drift {answers : StartAnswers} {checkpoint : CheckpointRow} {number : ℤ}
    {stored : String} {anchor : RpcBlock} (last : checkpoint.lastCompletedBlock = some number)
    (hash : checkpoint.lastCompletedBlockHash = some stored) (known : stored ≠ "")
    (read : answers.getBlock number = .ok anchor)
    (changed : anchor.hash.map toLowerCase ≠ some (toLowerCase stored)) :
    checkAnchor answers (some checkpoint) = .error (checkpointDrift number) := by
  simp only [checkAnchor, Option.bind_some, last, hash, if_neg known, read]
  exact if_pos changed

/-- A call comes as far as the stored anchor, and the provider's block is another one. -/
structure IngestLogsOptions.AnchorDrifts (options : IngestLogsOptions) (answers : StartAnswers)
    (db : Database) (number : ℤ) : Prop where
  finalized : ∃ block head, readFinalizedBlock options answers = .ok block ∧
    block.number = some head ∧ options.toBlock ≤ head
  ordered : options.fromBlock ≤ options.toBlock
  selected : answers.selectCheckpoint = none
  changed : ∃ checkpoint stored anchor,
    db.checkpoint options.chainId options.scope = some checkpoint ∧
    checkpoint.lastCompletedBlock = some number ∧
    checkpoint.lastCompletedBlockHash = some stored ∧ stored ≠ "" ∧
    answers.getBlock number = .ok anchor ∧
    anchor.hash.map toLowerCase ≠ some (toLowerCase stored)

/-- The call throws the alarm. -/
theorem ingestLogs_checkpointDrift {viem : Viem} {options : IngestLogsOptions}
    {answers : StartAnswers} {schedule : List RunInput} {db : Database} {number : ℤ}
    (drifts : options.AnchorDrifts answers db number) :
    (ingestLogs viem options answers schedule db).outcome = .threw (checkpointDrift number) := by
  obtain ⟨⟨block, head, read, mined, finalized⟩, ordered, selected,
    checkpoint, stored, anchor, found, last, hash, known, answered, changed⟩ := drifts
  have alarm := checkAnchor_drift last hash known answered changed
  have threw : startIngest options answers db = (.threw (checkpointDrift number), db) := by
    simp only [startIngest, read, mined, if_neg (not_lt.mpr finalized),
      if_neg (not_lt.mpr ordered), selected, found, alarm]
  rw [ingestLogs, threw]

/-- A run is about to persist a chunk in which a block contradicts a stored one; nothing else
fails, and nothing has asked it to stop. -/
structure RunState.ChunkDrifts (s : RunState) (answers : ChunkAnswers) (number : ℤ)
    (stored rpc : String) : Prop where
  running : s.run.outcome = .waiting
  fetched : ∃ head rest fetched blocks anchor block, s.run.fetchedBatch = head :: rest ∧
    head.outcome = .returned fetched ∧
    (fetchBlocks s.run.options.blockBatchSize (logBlockNumbers fetched.logs) answers.blocks).1
      = .returned blocks ∧
    readAnchor answers s.run fetched.range = .ok anchor ∧
    findHashDrift s.database s.run.options.chainId (uniqueBlocks (blocks ++ anchor.toList))
      = some (block, stored) ∧
    block.number = number ∧ block.hash = rpc
  fault : answers.fault = none
  handler : answers.handler = ⟨false, none⟩

/-- The alarm rolls the chunk back. -/
theorem persistChunk_blockDrift {viem : Viem} {chunk : Chunk} {db : Database}
    {counters : IngestionCounters} {block : StoredBlock} {existingHash : String}
    (drift : findHashDrift db chunk.chainId (uniqueBlocks (chunk.blocks ++ chunk.anchor.toList))
      = some (block, existingHash)) :
    (persistChunk viem none chunk db counters).result
      = .error (blockDrift block.number existingHash block.hash) := by
  have alarm := @insertBlocks_drift chunk.chainId (chunk.blocks ++ chunk.anchor.toList) db
    counters block existingHash drift
  have body : persistChunkBody viem none chunk db counters
      = .error (blockDrift block.number existingHash block.hash, counters) := by
    show Transaction.bind (insertBlocks none chunk.chainId (chunk.blocks ++ chunk.anchor.toList))
      _ db counters = _
    rw [Transaction.bind, alarm]
  rw [persistChunk, Transaction.exec, body]

/-- The run ends with the alarm. -/
theorem advance_blockDrift {viem : Viem} {answers : ChunkAnswers} {s : RunState} {number : ℤ}
    {stored rpc : String} (drifts : s.ChunkDrifts answers number stored rpc) :
    (advance viem (.chunk answers) s).1.run.outcome = .threw (blockDrift number stored rpc) := by
  obtain ⟨running, ⟨head, rest, fetched, blocks, anchor, block, batch, returned, blocksRead,
    anchored, drift, rfl, rfl⟩, fault, handler⟩ := drifts
  have step : advance viem (.chunk answers) s
      = chunkStep viem answers head.planned fetched rest s := by
    simp only [advance, running, batch, returned]
  rw [step]
  unfold chunkStep
  simp only [blocksRead]
  split
  · rename_i error refused
    cases (anchored.symm.trans refused)
  · rename_i anchor' again
    obtain rfl := Except.ok.inj (anchored.symm.trans again)
    rw [fault]
    split
    · rename_i error failed
      obtain rfl := Except.error.inj (failed.symm.trans (persistChunk_blockDrift drift))
      rw [handler]
      rfl
    · rename_i committed
      cases (committed.symm.trans (persistChunk_blockDrift drift))

/-- A run that has thrown stays as it ended. -/
theorem threw_run {viem : Viem} {schedule : List RunInput} {s : RunState} {error : JsError}
    (threw : s.run.outcome = .threw error) :
    (Machine.run (advance viem) schedule s).1.run.outcome = .threw error := by
  refine Machine.run_invariant (fun (s' : RunState) _ => s'.run.outcome = .threw error)
    (fun input s' _ ended => ?_) schedule threw
  have ended' (running : s'.run.outcome = .waiting) : False := by
    rw [ended] at running
    cases running
  have step := advance_spec viem input s'
  generalize advance viem input s' = next at step ⊢
  cases step with
  | idle => exact ended
  | fetched dropped => cases dropped <;> exact ended
  | planned _ running => exact (ended' running).elim
  | stopped _ _ _ _ running => exact (ended' running).elim
  | committed _ _ _ _ _ _ _ _ _ _ _ running => exact (ended' running).elim

/-- The call throws the alarm where its loop comes to such a chunk, whatever would follow. -/
theorem ingestLogs_blockDrift {viem : Viem} {options : IngestLogsOptions} {start : StartAnswers}
    {db : Database} {number : ℤ} {stored rpc : String} {started : IngestRun × Database}
    (before after : List RunInput) (answers : ChunkAnswers)
    (begun : startIngest options start db = (.running started.1, started.2))
    (drifts : (Machine.run (advance viem) before ⟨started.2, started.1⟩).1.ChunkDrifts answers
      number stored rpc) :
    (ingestLogs viem options start (before ++ .chunk answers :: after) db).outcome
      = .threw (blockDrift number stored rpc) := by
  rw [ingestLogs, begun]
  show (Machine.run (advance viem) (before ++ .chunk answers :: after)
    ⟨started.2, started.1⟩).1.run.outcome = _
  rw [Machine.run_append, Machine.run_cons]
  exact threw_run (advance_blockDrift drifts)

/-- **When an alarm stops the worker**: the prologue throws the one where the provider has another
block than the stored anchor, and the loop the other where a chunk contradicts a stored block.
An alarm is fatal exactly if neither the block number nor, where they are stated, one of the
hashes contains the digits of a status. -/
theorem drift_fatal_iff (number : ℕ) {stored rpc : String}
    (hstored : isHex 64 (toLowerCase stored)) (hrpc : isHex 64 (toLowerCase rpc))
    (attempts : List WorkerAttempt) :
    (∀ (viem : Viem) (options : IngestLogsOptions) (start : StartAnswers)
        (schedule : List RunInput) (db : Database), options.AnchorDrifts start db number →
      (ingestLogs viem options start schedule db).outcome = .threw (checkpointDrift number)) ∧
    (∀ (viem : Viem) (options : IngestLogsOptions) (start : StartAnswers) (db : Database)
        (started : IngestRun × Database) (before after : List RunInput) (answers : ChunkAnswers),
      startIngest options start db = (.running started.1, started.2) →
      (Machine.run (advance viem) before ⟨started.2, started.1⟩).1.ChunkDrifts answers number
        stored rpc →
      (ingestLogs viem options start (before ++ .chunk answers :: after) db).outcome
        = .threw (blockDrift number stored rpc)) ∧
    (classifyRpcError (checkpointDrift number) = .fatal
      ↔ ¬ MentionsStatus (toString (number : ℤ))) ∧
    (classifyRpcError (blockDrift number stored rpc) = .fatal
      ↔ ¬ MentionsStatus (toString (number : ℤ)) ∧ ¬ MentionsStatus (toLowerCase stored) ∧
        ¬ MentionsStatus (toLowerCase rpc)) ∧
    ∀ error ∈ [checkpointDrift number, blockDrift number stored rpc],
      (runSevenDayWorker (⟨false, .error error⟩ :: attempts) = .threw error
        ↔ classifyRpcError error = .fatal) := by
  refine ⟨fun viem options start schedule db drifts => ingestLogs_checkpointDrift drifts,
    fun viem options start db started before after answers begun drifts =>
      ingestLogs_blockDrift before after answers begun drifts,
    ?_, ?_, fun error _ => runSevenDayWorker_rethrows_iff⟩
  · rw [classifyRpcError_eq_fatal_iff (words_checkpointDrift number),
      mentionsStatus_checkpointDrift]
  · rw [classifyRpcError_eq_fatal_iff (words_blockDrift number hstored hrpc),
      mentionsStatus_blockDrift number hstored hrpc, not_or, not_or]

/-- A hash without the digits of a status. -/
def plainHash : String := "0x" ++ String.ofList (List.replicate 64 '1')

/-- Another one. -/
def otherHash : String := "0x" ++ String.ofList (List.replicate 64 '2')

/-- The hash that ends in the digits of a status. -/
def statusHash : String := "0x" ++ String.ofList (List.replicate 61 '2') ++ "500"

theorem isHex_samples : isHex 64 (toLowerCase plainHash) ∧ isHex 64 (toLowerCase otherHash) ∧
    isHex 64 (toLowerCase statusHash) := by
  decide +kernel

/-- The digits of statuses in what the alarms of the examples below state. -/
theorem samples_mention :
    includes (toString (40429000 : ℤ)) "429" ∧
    ¬ (includes (toString (40173813 : ℤ)) "429" ∨ includes (toLowerCase plainHash) "429" ∨
      includes (toLowerCase statusHash) "429") ∧
    MentionsStatus (toLowerCase statusHash) ∧ ¬ MentionsStatus (toString (40173813 : ℤ)) ∧
    ¬ MentionsStatus (toLowerCase plainHash) ∧ ¬ MentionsStatus (toLowerCase otherHash) := by
  decide +kernel

/-- A block that is no longer the stored anchor, at a number with the digits of a status. -/
def driftedStart : StartAnswers :=
  { sampleStart 40500000 with
    getBlock := fun number => .ok ⟨some number, some statusHash, plainHash, number⟩ }

/-- The checkpoint with the anchor. -/
def storedAnchor : CheckpointRow := ⟨999, "sample", 40429001, some 40429000, some plainHash⟩

/-- Both alarms are taken for passing failures of the provider, and the worker goes on. -/
theorem drift_retried :
    checkAnchor driftedStart (some storedAnchor) = .error (checkpointDrift 40429000) ∧
      classifyRpcError (checkpointDrift 40429000) = .rateLimit ∧
      findHashDrift
        { Database.empty with blocks := [⟨999, 40173813, plainHash, plainHash, 0, true⟩] } 999
        [⟨40173813, statusHash, plainHash, 0⟩]
          = some (⟨40173813, statusHash, plainHash, 0⟩, plainHash) ∧
      classifyRpcError (blockDrift 40173813 plainHash statusHash) = .transient ∧
      runSevenDayWorker [⟨false, .error (checkpointDrift 40429000)⟩,
        ⟨false, .error (blockDrift 40173813 plainHash statusHash)⟩, ⟨true, .error ⟨""⟩⟩]
          = .returned .interrupted := by
  obtain ⟨inNumber, notLimited, inHash, -⟩ := samples_mention
  obtain ⟨plainHex, -, statusHex⟩ := isHex_samples
  have limited : classifyRpcError (checkpointDrift 40429000) = .rateLimit := by
    refine (classifyRpcError_of_plain (words_checkpointDrift 40429000)).trans (if_pos ?_)
    exact (includes_checkpointDrift 40429000 List.mem_cons_self).mpr inNumber
  have passing : classifyRpcError (blockDrift 40173813 plainHash statusHash) = .transient := by
    refine (classifyRpcError_of_plain (words_blockDrift 40173813 plainHex statusHex)).trans ?_
    rw [if_neg, if_pos]
    · exact (mentionsStatus_blockDrift 40173813 plainHex statusHex).mpr (.inr (.inr inHash))
    · exact mt (includes_blockDrift 40173813 plainHex statusHex List.mem_cons_self).mp notLimited
  have found : checkAnchor driftedStart (some storedAnchor) = .error (checkpointDrift 40429000) ∧
      findHashDrift
        { Database.empty with blocks := [⟨999, 40173813, plainHash, plainHash, 0, true⟩] } 999
        [⟨40173813, statusHash, plainHash, 0⟩]
          = some (⟨40173813, statusHash, plainHash, 0⟩, plainHash) := by
    decide +kernel
  refine ⟨found.1, limited, found.2, passing, ?_⟩
  simp [runSevenDayWorker, limited, passing]

/-- An anchor and a stored block whose numbers and hashes have no digits of a status. -/
def plainAnchor : CheckpointRow :=
  ⟨HYPEREVM_CHAIN_ID, DEFAULT_INDEXER_SCOPE, 40173814, some 40173813, some plainHash⟩

theorem anchorDrifts_plainAnchor :
    (sampleOptions 40173813 40173900 50).AnchorDrifts (sampleStart 40500000)
      { Database.empty with checkpoints := [plainAnchor] } 40173813 :=
  ⟨⟨sampleBlock 40500000, 40500000, by decide, rfl, by decide⟩, by decide, rfl,
    plainAnchor, plainHash, sampleBlock 40173813, by decide, rfl, rfl, by decide, rfl, by decide⟩

/-- The same block is stored, and the provider has another hash for it. -/
def plainStored : Database :=
  { Database.empty with
    blocks := [⟨HYPEREVM_CHAIN_ID, 40173813, plainHash, plainHash, 0, true⟩] }

/-- The answers to the chunk. -/
def otherBlock : ChunkAnswers :=
  { sampleChunk with
    getBlock := fun number => .ok ⟨some number, some otherHash, plainHash, number⟩ }

/-- The batch of one block, and the fetch of its logs. -/
def fetchBlock : List RunInput :=
  [.plan samplePlan, .fetchLogs false 0 ⟨false, fun _ _ => .ok []⟩]

theorem chunkDrifts_plainStored :
    (Machine.run (advance sampleViem) fetchBlock
      (loopStart (sampleOptions 40173813 40173813 50) 40500000 plainStored)).1.ChunkDrifts
        otherBlock 40173813 plainHash otherHash := by
  refine ⟨rfl, ⟨_, _, _, _, _, ⟨40173813, otherHash, plainHash, 40173813⟩, rfl, rfl, rfl, rfl,
    ?_, rfl, rfl⟩, rfl, rfl⟩
  decide +kernel

theorem drift_fatal_iff_plain :
    (ingestLogs sampleViem (sampleOptions 40173813 40173900 50) (sampleStart 40500000) []
        { Database.empty with checkpoints := [plainAnchor] }).outcome
      = .threw (checkpointDrift 40173813) ∧
    (ingestLogs sampleViem (sampleOptions 40173813 40173813 50) (sampleStart 40500000)
        (fetchBlock ++ [.chunk otherBlock]) plainStored).outcome
      = .threw (blockDrift 40173813 plainHash otherHash) ∧
    classifyRpcError (blockDrift 40173813 plainHash otherHash) = .fatal ∧
      runSevenDayWorker [⟨false, .error (checkpointDrift 40173813)⟩]
        = .threw (checkpointDrift 40173813) := by
  obtain ⟨plainHex, otherHex, -⟩ := isHex_samples
  obtain ⟨-, -, -, number, plain, other⟩ := samples_mention
  obtain ⟨anchor, chunk, checkpoint, block, rethrown⟩ :=
    @drift_fatal_iff 40173813 plainHash otherHash plainHex otherHex []
  exact ⟨anchor _ _ _ _ _ anchorDrifts_plainAnchor,
    chunk _ _ _ _ ⟨_, _⟩ fetchBlock [] otherBlock rfl chunkDrifts_plainStored,
    block.mpr ⟨number, plain, other⟩,
    (rethrown _ List.mem_cons_self).mpr (checkpoint.mpr number)⟩

end UsdpIndexer
