import RansomShield.Heap.Ownership
import RansomShield.System.Process

/-!
# The table of contexts, with pointers

The locked sections of `kernel/RsContext.c` once more, at the level of pointers: the chains of
`g_ContextHashTable` link blocks of the pool, and the code reads and writes through pointers to
them.  A block is one allocation, identified by its number, so that a block that is freed and the
next one at the same address are different blocks.

Every read or write of a context under `g_ContextLock` is noted together with the table at that
moment (`Access`).  What `RsCreateProcessContext` writes into a block before it returns belongs to
the allocation.

* `Pool.State` : the pool, the table and the calls in flight.
* `Pool.machine` : interleavings of the locked sections of any number of calls of
  `RsRecordOperation` with those of `RsRemoveProcessContext`, `RsGetBlockedPids`, `RsGetPidCounts`,
  `RsDestroyContextTracking` and the configuration.
-/

namespace RansomShield

namespace Pool

/-! ### States -/

/-- A read or write of a context under the lock. -/
structure Access where
  block : ℕ
  /-- The table at that moment. -/
  table : Fin rsHashTableSize → List ℕ

/-- How far a call of `RsRecordOperation` has come. -/
inductive CallPhase
  /-- The time is read, the lock not yet acquired. -/
  | entered
  /-- The first lookup found no context, and the lock is released. -/
  | allocating
  /-- `RsCreateProcessContext` has returned a block. -/
  | allocated (newContext : ℕ)
  /-- The last locked section has ended. -/
  | decided (result : RecordResult)

/-- The block that a call holds privately. -/
def CallPhase.newContext : CallPhase → Option ℕ
  | .allocated newContext => some newContext
  | _ => none

/-- The phase of a call after a locked section. -/
def phaseAfter (processId : UInt32) (r : SectionResult) : CallPhase :=
  match r.result processId with
  | none => .allocating
  | some result => .decided result

/-- A call of `RsRecordOperation`. -/
structure Call where
  processImageName : Option UnicodeString
  currentTime : InterruptTime
  phase : CallPhase

/-- The pool, the table and the calls. -/
structure State where
  /-- The number of blocks that `ExAllocatePool2` has returned so far. -/
  allocated : ℕ
  contents : ℕ → RsProcessContext
  /-- The blocks passed to `ExFreePoolWithTag`, in order. -/
  freed : List ℕ
  /-- The chains of `g_ContextHashTable`, along `Flink`. -/
  contextHashTable : Fin rsHashTableSize → List ℕ
  trackedPidCount : UInt32
  config : RsConfig
  calls : CallId → Option Call
  accesses : List Access

/-- The state after `RsInitializeContextTracking`. -/
def State.init : State where
  allocated := 0
  contents := fun _ => rsCreateProcessContext 0 none
  freed := []
  contextHashTable := fun _ => []
  trackedPidCount := 0
  config := RsConfig.default
  calls := fun _ => none
  accesses := []

namespace State

/-- The `ProcessId` field of a block. -/
def key (s : State) (b : ℕ) : UInt32 := (s.contents b).processId

/-- The blocks that are linked into the table. -/
def linked (s : State) : List ℕ := Chained.entries s.contextHashTable

/-- The block that a call holds privately. -/
def holds (s : State) (c : CallId) : Option ℕ := (s.calls c).bind fun call => call.phase.newContext

/-- A new call. -/
def start (s : State) (c : CallId) (call : Call) : State :=
  { s with calls := Function.update s.calls c (some call) }

/-- A call in its next phase. -/
def setPhase (s : State) (c : CallId) (call : Call) (phase : CallPhase) : State :=
  { s with calls := Function.update s.calls c (some { call with phase := phase }) }

/-! ### Memory -/

/-- Note that blocks are read or written. -/
def touch (s : State) (bs : List ℕ) : State :=
  { s with accesses := s.accesses ++ bs.map fun b => ⟨b, s.contextHashTable⟩ }

/-- Read a context. -/
def read (s : State) (b : ℕ) : State × RsProcessContext := (s.touch [b], s.contents b)

/-- Write a context. -/
def write (s : State) (b : ℕ) (ctx : RsProcessContext) : State :=
  { s.touch [b] with contents := Function.update s.contents b ctx }

/-- `RsCreateProcessContext`, when `ExAllocatePool2` succeeds. -/
def rsCreateProcessContext (s : State) (processId : UInt32)
    (processImageName : Option UnicodeString) : State × ℕ :=
  ({ s with
      allocated := s.allocated + 1
      contents := Function.update s.contents s.allocated
        (RansomShield.rsCreateProcessContext processId processImageName) },
    s.allocated)

/-- `ExFreePoolWithTag`. -/
def exFreePoolWithTag (s : State) (b : ℕ) : State := { s with freed := s.freed ++ [b] }

/-- `InsertHeadList`, which writes the links of the first entry and of the new one, and
`g_TrackedPidCount++`. -/
def insertHeadList (s : State) (bucket : Fin rsHashTableSize) (b : ℕ) : State :=
  { (({ s.touch (s.contextHashTable bucket).head?.toList with
        contextHashTable := Function.update s.contextHashTable bucket
          (b :: s.contextHashTable bucket) } : State).touch [b]) with
    trackedPidCount := s.trackedPidCount + 1 }

/-- The entries before and after a block in a chain. -/
def neighbours (b : ℕ) : List ℕ → List ℕ
  | x :: y :: chain =>
    if x = b then [y]
    else if y = b then x :: chain.head?.toList
    else neighbours b (y :: chain)
  | _ => []

/-- `RemoveEntryList`, which writes the links of the entries around the block. -/
def removeEntryList (s : State) (b : ℕ) : State :=
  { s.touch (b :: (List.finRange rsHashTableSize).flatMap fun i =>
      neighbours b (s.contextHashTable i)) with
    contextHashTable := Chained.unlink s.contextHashTable b }

/-! ### The functions that run under the lock -/

/-- The loop of `RsLookupProcessContext`. -/
def lookupChain (processId : UInt32) : List ℕ → State → State × Option ℕ
  | [], s => (s, none)
  | b :: chain, s =>
    let (s, ctx) := s.read b
    if ctx.processId = processId then (s, some b) else lookupChain processId chain s

/-- `RsLookupProcessContext`. -/
def rsLookupProcessContext (s : State) (processId : UInt32) : State × Option ℕ :=
  lookupChain processId (s.contextHashTable (rsHashProcessId processId)) s

/-- The code from `RecordAndEvaluate` to the release of the lock. -/
def recordAndEvaluate (s : State) (context : ℕ) (currentTime : Int64) : State × SectionResult :=
  let (s, ctx) := s.read context
  let e := RansomShield.recordAndEvaluate s.config ctx currentTime
  (s.write context e.context, .evaluated e)

/-- Record an operation in the context that a lookup found, unless it is blocked. -/
def recordInContext (s : State) (context : ℕ) (currentTime : Int64) : State × SectionResult :=
  let (s, ctx) := s.read context
  if ctx.isBlocked then (s, .alreadyBlocked) else s.recordAndEvaluate context currentTime

/-- The first locked section of `RsRecordOperation`. -/
def recordFirstSection (s : State) (processId : UInt32) (currentTime : Int64) :
    State × SectionResult :=
  match s.rsLookupProcessContext processId with
  | (s, some context) => s.recordInContext context currentTime
  | (s, none) => (s, .missing)

/-- The second locked section of `RsRecordOperation`: the allocation is freed or inserted. -/
def recordSecondSection (s : State) (newContext : ℕ) (processId : UInt32) (currentTime : Int64) :
    State × SectionResult :=
  match s.rsLookupProcessContext processId with
  | (s, some context) => (s.exFreePoolWithTag newContext).recordInContext context currentTime
  | (s, none) =>
    (s.insertHeadList (rsHashProcessId processId) newContext).recordAndEvaluate newContext
      currentTime

/-- `RsRemoveProcessContext`. -/
def rsRemoveProcessContext (s : State) (processId : UInt32) : State :=
  match s.rsLookupProcessContext processId with
  | (s, some context) =>
    let s := s.removeEntryList context
    let s := { s with trackedPidCount := s.trackedPidCount - 1 }
    s.exFreePoolWithTag context
  | (s, none) => s

/-- The inner loop of `RsGetBlockedPids`. -/
def blockedChain (maxEntries : ℕ) :
    List ℕ → State × List RsBlockedPidEntry → State × List RsBlockedPidEntry
  | [], st => st
  | b :: chain, (s, written) =>
    if written.length < maxEntries then
      let (s, ctx) := s.read b
      blockedChain maxEntries chain
        (s, if ctx.isBlocked then written ++ [ctx.blockedEntry] else written)
    else (s, written)

/-- The outer loop of `RsGetBlockedPids`. -/
def blockedBucket (maxEntries : ℕ) (st : State × List RsBlockedPidEntry)
    (i : Fin rsHashTableSize) : State × List RsBlockedPidEntry :=
  if st.2.length < maxEntries then blockedChain maxEntries (st.1.contextHashTable i) st else st

/-- `RsGetBlockedPids`. -/
def rsGetBlockedPids (s : State) (maxEntries : ℕ) : State × List RsBlockedPidEntry :=
  (List.finRange rsHashTableSize).foldl (blockedBucket maxEntries) (s, [])

/-- The inner loop of `RsGetPidCounts`. -/
def countChain : List ℕ → State × UInt32 → State × UInt32
  | [], st => st
  | b :: chain, (s, blocked) =>
    let (s, ctx) := s.read b
    countChain chain (s, if ctx.isBlocked then blocked + 1 else blocked)

/-- The outer loop of `RsGetPidCounts`. -/
def countBucket (st : State × UInt32) (i : Fin rsHashTableSize) : State × UInt32 :=
  countChain (st.1.contextHashTable i) st

/-- The loops of `RsGetPidCounts`. -/
def countBlocked (s : State) : State × UInt32 :=
  (List.finRange rsHashTableSize).foldl countBucket (s, 0)

/-- `RsGetPidCounts`. -/
def rsGetPidCounts (s : State) : State × UInt32 × UInt32 :=
  s.countBlocked.map id fun blocked => (s.trackedPidCount, blocked)

/-- The loop of `RsDestroyContextTracking` over a chain: `RemoveHeadList`, then
`ExFreePoolWithTag`. -/
def drainChain (bucket : Fin rsHashTableSize) : List ℕ → State → State
  | [], s => s
  | b :: chain, s =>
    let s :=
      { s.touch (b :: chain.head?.toList) with
        contextHashTable := Function.update s.contextHashTable bucket chain }
    drainChain bucket chain (s.exFreePoolWithTag b)

/-- `RsDestroyContextTracking`. -/
def rsDestroyContextTracking (s : State) : State :=
  let s := (List.finRange rsHashTableSize).foldl
    (fun s i => drainChain i (s.contextHashTable i) s) s
  { s with trackedPidCount := 0 }

/-- The state after a locked section of a call. -/
def endSection (s : State) (c : CallId) (call : Call) (r : SectionResult) : State :=
  s.setPhase c call (phaseAfter c.processId r)

end State

/-! ### Steps -/

/-- The steps of a call. -/
inductive CallStep
  | firstSection
  | allocate (succeeds : Bool)
  | secondSection
  deriving DecidableEq

inductive Action
  /-- `RsRecordOperation` is called and reads the time. -/
  | enter (c : CallId) (processImageName : Option UnicodeString) (currentTime : InterruptTime)
  | advance (c : CallId) (step : CallStep)
  /-- `RsRemoveProcessContext`, also as `RsUnblockProcess`. -/
  | removeProcessContext (processId : UInt32)
  | getBlockedPids (maxEntries : ℕ)
  | getPidCounts
  | destroyContextTracking
  | applyConfig (fileCountThreshold timeWindowSeconds : UInt32) (monitoringEnabled : UInt8)
  | setMonitoring (value : UInt8)

/-- A step of a call. -/
def callStep (s : State) (c : CallId) (call : Call) (step : CallStep) : Option State :=
  match step, call.phase with
  | .firstSection, .entered =>
    let (s, r) := s.recordFirstSection c.processId call.currentTime.ticks
    some (s.endSection c call r)
  -- no lock is held, and only the call knows the block
  | .allocate true, .allocating =>
    let (s, newContext) := s.rsCreateProcessContext c.processId call.processImageName
    some (s.setPhase c call (.allocated newContext))
  | .allocate false, .allocating => some (s.setPhase c call (.decided RecordResult.outOfMemory))
  | .secondSection, .allocated newContext =>
    let (s, r) := s.recordSecondSection newContext c.processId call.currentTime.ticks
    some (s.endSection c call r)
  | _, _ => none

/-- The interleavings of the locked sections.  The callers of `RsRecordOperation` let the PIDs 0
and 4 pass. -/
def machine : Machine State Action where
  step s
    | .enter c processImageName currentTime =>
      if (s.calls c).isNone ∧ c.processId ≠ 0 ∧ c.processId ≠ 4 then
        some (s.start c ⟨processImageName, currentTime, .entered⟩)
      else none
    | .advance c step => (s.calls c).bind fun call => callStep s c call step
    | .removeProcessContext processId => some (s.rsRemoveProcessContext processId)
    | .getBlockedPids maxEntries => some (s.rsGetBlockedPids maxEntries).1
    | .getPidCounts => some s.rsGetPidCounts.1
    | .destroyContextTracking => some s.rsDestroyContextTracking
    | .applyConfig threshold seconds monitoring =>
      some { s with config := Process.configAfter s.config threshold seconds monitoring }
    | .setMonitoring value => some { s with config := { s.config with monitoringEnabled := value } }

/-- The states that some interleaving leads to. -/
def Reachable (s : State) : Prop := ∃ as, machine.run State.init as = some s

end Pool

end RansomShield
