import RansomShield.Driver.Defs
import RansomShield.Table.Chained

/-!
# Per-process tracking

The functions of `kernel/RsContext.c`: the hash table of process contexts, the sliding-window
heuristic, the allowlist and the runtime configuration.

`RsRecordOperation` acquires `g_ContextLock` at most twice.  Each of the two locked sections is a
function here (`recordFirstSection`, `recordSecondSection`), so that the interleavings of
concurrent calls can be built from them; `recordSections` runs them without interruption.
What the code does after the label `RecordAndEvaluate`, which both sections join, is
`recordAndEvaluate`.
-/

namespace RansomShield

/-! ### The ring of operations -/

/-- `i % RS_MAX_OPERATIONS_PER_PID`. -/
def wrapIndex (i : UInt32) : OperationIndex :=
  ⟨i % UInt32.ofNat rsMaxOperationsPerPid, by
    rw [UInt32.toNat_mod]; exact Nat.mod_lt _ (by decide)⟩

/-- The slot of an index. -/
def OperationIndex.slot (i : OperationIndex) : Fin rsMaxOperationsPerPid := ⟨i.1.toNat, i.2⟩

/-- `(OperationHead + RS_MAX_OPERATIONS_PER_PID - OperationCount) % RS_MAX_OPERATIONS_PER_PID`. -/
def RsProcessContext.oldestIndex (ctx : RsProcessContext) : OperationIndex :=
  wrapIndex (ctx.operationHead.1 + UInt32.ofNat rsMaxOperationsPerPid - ctx.operationCount.1)

/-- The loop over the ring that both `RsPruneOldOperations` and the recount contain: run `body` on
the timestamps of `n` slots from `idx` on. -/
def forOperations {σ : Type*} (operations : Fin rsMaxOperationsPerPid → Int64)
    (body : σ → Int64 → σ) : ℕ → OperationIndex → σ → σ
  | 0, _, st => st
  | n + 1, idx, st =>
    forOperations operations body n (wrapIndex (idx.1 + 1)) (body st (operations idx.slot))

/-- The scan of `RsPruneOldOperations`: the entries written to `tempBuffer`, whose number is
`newCount`. -/
def pruneScan (timeWindowTicks : Int64) (ctx : RsProcessContext) (currentTime : Int64) :
    List Int64 :=
  forOperations ctx.operations
    (fun tempBuffer timestamp =>
      let age := currentTime - timestamp
      if age ≤ timeWindowTicks then tempBuffer ++ [timestamp] else tempBuffer)
    ctx.operationCount.1.toNat ctx.oldestIndex []

theorem length_forOperations_le (operations : Fin rsMaxOperationsPerPid → Int64)
    (body : List Int64 → Int64 → List Int64) (h : ∀ l t, (body l t).length ≤ l.length + 1) (n : ℕ)
    (idx : OperationIndex) (l : List Int64) :
    (forOperations operations body n idx l).length ≤ l.length + n := by
  induction n generalizing idx l with
  | zero => exact Nat.le_refl _
  | succ n ih =>
    have := ih (wrapIndex (idx.1 + 1)) (body l (operations idx.slot))
    have := h l (operations idx.slot)
    rw [forOperations]
    omega

/-- The temporary buffer does not overflow. -/
theorem length_pruneScan_le (timeWindowTicks : Int64) (ctx : RsProcessContext)
    (currentTime : Int64) :
    (pruneScan timeWindowTicks ctx currentTime).length ≤ rsMaxOperationsPerPid := by
  have hlen := length_forOperations_le ctx.operations
    (fun tempBuffer timestamp =>
      if currentTime - timestamp ≤ timeWindowTicks then tempBuffer ++ [timestamp] else tempBuffer)
    (fun l t => by split <;> simp) ctx.operationCount.1.toNat ctx.oldestIndex []
  exact hlen.trans (by simpa using ctx.operationCount.2)

/-- `RtlCopyMemory(Operations, tempBuffer, newCount * sizeof(RS_OPERATION_ENTRY))`. -/
def copyOperations (operations : Fin rsMaxOperationsPerPid → Int64) (tempBuffer : List Int64) :
    Fin rsMaxOperationsPerPid → Int64 :=
  fun i => if h : i.val < tempBuffer.length then tempBuffer[i.val] else operations i

/-- `RsPruneOldOperations`. -/
def rsPruneOldOperations (timeWindowTicks : Int64) (ctx : RsProcessContext)
    (currentTime : Int64) : RsProcessContext :=
  if ctx.operationCount.1 = 0 then ctx
  else
    let tempBuffer := pruneScan timeWindowTicks ctx currentTime
    { ctx with
      operations := copyOperations ctx.operations tempBuffer
      operationCount := ⟨UInt32.ofNat tempBuffer.length,
        (Nat.mod_le _ _).trans (length_pruneScan_le timeWindowTicks ctx currentTime)⟩
      operationHead := wrapIndex (UInt32.ofNat tempBuffer.length) }

/-- Record a timestamp: append to the ring, or overwrite its oldest entry when it is full. -/
def recordTimestamp (ctx : RsProcessContext) (currentTime : Int64) : RsProcessContext :=
  if h : ctx.operationCount.1 < UInt32.ofNat rsMaxOperationsPerPid then
    { ctx with
      operations := Function.update ctx.operations ctx.operationHead.slot currentTime
      operationHead := wrapIndex (ctx.operationHead.1 + 1)
      operationCount := ⟨ctx.operationCount.1 + 1, by
        have := UInt32.lt_iff_toNat_lt.1 h
        rw [UInt32.toNat_add]
        exact (Nat.mod_le _ _).trans this⟩ }
  else
    { ctx with
      operations := Function.update ctx.operations ctx.operationHead.slot currentTime
      operationHead := wrapIndex (ctx.operationHead.1 + 1) }

/-- The precise count of the entries within the window. -/
def countRecent (timeWindowTicks : Int64) (ctx : RsProcessContext) (currentTime : Int64) :
    UInt32 :=
  if 0 < ctx.operationCount.1 then
    forOperations ctx.operations
      (fun recentCount timestamp =>
        if currentTime - timestamp ≤ timeWindowTicks then recentCount + 1 else recentCount)
      ctx.operationCount.1.toNat ctx.oldestIndex 0
  else 0

/-- What the code after `RecordAndEvaluate` leaves behind. -/
structure Evaluation where
  context : RsProcessContext
  recentCount : UInt32
  /-- `*ShouldBlock`, and also `localShouldNotify`. -/
  shouldBlock : Bool

/-- The code from `RecordAndEvaluate` to the release of the lock. -/
def recordAndEvaluate (cfg : RsConfig) (ctx : RsProcessContext) (currentTime : Int64) :
    Evaluation :=
  let pruned := rsPruneOldOperations cfg.timeWindowTicks ctx currentTime
  let recorded := { recordTimestamp pruned currentTime with lastActivityTime := currentTime }
  let recentCount := countRecent cfg.timeWindowTicks recorded currentTime
  -- the only place where `IsBlocked` is set, and the only test of `g_MonitoringEnabled`
  if recentCount ≥ cfg.fileCountThreshold ∧ recorded.isBlocked = false ∧
      cfg.monitoringEnabled ≠ 0 then
    { context := { recorded with isBlocked := true, blockedTimestamp := currentTime }
      recentCount := recentCount
      shouldBlock := true }
  else { context := recorded, recentCount := recentCount, shouldBlock := false }

/-! ### The table of contexts -/

/-- `RsHashProcessId`. -/
def rsHashProcessId (processId : UInt32) : Fin rsHashTableSize :=
  ⟨(processId % UInt32.ofNat rsHashTableSize).toNat, by
    rw [UInt32.toNat_mod]; exact Nat.mod_lt _ (by decide)⟩

/-- `RsLookupProcessContext`. -/
def rsLookupProcessContext (s : DriverState) (processId : UInt32) : Option RsProcessContext :=
  Chained.lookup RsProcessContext.processId rsHashProcessId s.contextHashTable processId

/-- The characters `RsCopyImageNameToContext` copies, without the terminator. -/
def copiedName (source : Option UnicodeString) : List UInt16 :=
  match source.bind UnicodeString.buffer with
  | none => []
  | some chars => chars.take (rsMaxImageNameLen - 1)

/-- `RsCopyImageNameToContext` into the zero-filled `ImageName` of a new context. -/
def rsCopyImageName (source : Option UnicodeString) : Fin rsMaxImageNameLen → UInt16 :=
  fun i => (copiedName source).getD i.val 0

/-- `RsCreateProcessContext`, when `ExAllocatePool2` succeeds. -/
def rsCreateProcessContext (processId : UInt32) (processImageName : Option UnicodeString) :
    RsProcessContext where
  processId := processId
  imageName := rsCopyImageName processImageName
  operations := fun _ => 0
  operationHead := ⟨0, by decide⟩
  operationCount := ⟨0, by decide⟩
  isBlocked := false
  blockedTimestamp := 0
  lastActivityTime := 0

/-- Write back the context of a process, which is modified in place. -/
def DriverState.storeContext (s : DriverState) (processId : UInt32) (ctx : RsProcessContext) :
    DriverState :=
  { s with
    contextHashTable := Chained.modify RsProcessContext.processId rsHashProcessId
      s.contextHashTable processId fun _ => ctx }

/-- `InsertHeadList` and `g_TrackedPidCount++`. -/
def DriverState.insertContext (s : DriverState) (ctx : RsProcessContext) : DriverState :=
  { s with
    contextHashTable := Chained.insert RsProcessContext.processId rsHashProcessId
      s.contextHashTable ctx
    trackedPidCount := s.trackedPidCount + 1 }

/-- `RsRemoveProcessContext`. -/
def rsRemoveProcessContext (s : DriverState) (processId : UInt32) : DriverState :=
  match rsLookupProcessContext s processId with
  | some _ =>
    { s with
      contextHashTable := Chained.erase RsProcessContext.processId rsHashProcessId
        s.contextHashTable processId
      trackedPidCount := s.trackedPidCount - 1 }
  | none => s

/-- `RsUnblockProcess`. -/
def rsUnblockProcess (s : DriverState) (processId : UInt32) : DriverState :=
  rsRemoveProcessContext s processId

/-! ### RsRecordOperation -/

/-- How a locked section of `RsRecordOperation` ends. -/
inductive SectionResult
  /-- No context: the lock is released to allocate one. -/
  | missing
  /-- The context is blocked: `*ShouldBlock = TRUE` and return. -/
  | alreadyBlocked
  /-- The operation was recorded and the threshold evaluated. -/
  | evaluated (e : Evaluation)

/-- Record an operation in the context that a lookup found, unless it is blocked. -/
def recordInContext (s : DriverState) (processId : UInt32) (ctx : RsProcessContext)
    (currentTime : Int64) : DriverState × SectionResult :=
  if ctx.isBlocked then (s, .alreadyBlocked)
  else
    let e := recordAndEvaluate s.config ctx currentTime
    (s.storeContext processId e.context, .evaluated e)

/-- The first locked section of `RsRecordOperation`. -/
def recordFirstSection (s : DriverState) (processId : UInt32) (currentTime : Int64) :
    DriverState × SectionResult :=
  match rsLookupProcessContext s processId with
  | none => (s, .missing)
  | some ctx => recordInContext s processId ctx currentTime

/-- The second locked section of `RsRecordOperation`: another thread may have inserted a context
meanwhile, and then `newContext` is freed. -/
def recordSecondSection (s : DriverState) (newContext : RsProcessContext) (processId : UInt32)
    (currentTime : Int64) : DriverState × SectionResult :=
  match rsLookupProcessContext s processId with
  | some ctx => recordInContext s processId ctx currentTime
  -- still missing: `InsertHeadList`, and on to `RecordAndEvaluate`
  | none =>
    let e := recordAndEvaluate s.config newContext currentTime
    ((s.insertContext newContext).storeContext processId e.context, .evaluated e)

/-- The arguments of `RsSendBlockNotification`. -/
structure BlockNotification where
  processId : UInt32
  imageName : Fin rsMaxImageNameLen → UInt16
  blockedTimestamp : Int64
  operationCount : UInt32

/-- The outcome of a call of `RsRecordOperation`. -/
structure RecordResult where
  status : NtStatus
  shouldBlock : Bool
  /-- The count that was compared with the threshold, if the call came that far. -/
  recentCount : Option UInt32
  /-- The arguments of `RsSendBlockNotification`, if it is called. -/
  notification : Option BlockNotification

/-- The outcome of a call whose locked section ended with an evaluation. -/
def Evaluation.result (e : Evaluation) (processId : UInt32) : RecordResult where
  status := .success
  shouldBlock := e.shouldBlock
  recentCount := some e.recentCount
  notification :=
    if e.shouldBlock then
      some { processId := processId
             imageName := e.context.imageName
             blockedTimestamp := e.context.blockedTimestamp
             operationCount := e.recentCount }
    else none

/-- The outcome of a call that found its process blocked. -/
def RecordResult.blocked : RecordResult where
  status := .success
  shouldBlock := true
  recentCount := none
  notification := none

/-- The outcome of a call whose allocation failed. -/
def RecordResult.outOfMemory : RecordResult where
  status := .insufficientResources
  shouldBlock := false
  recentCount := none
  notification := none

/-- The outcome of a call after a locked section, unless it has to allocate. -/
def SectionResult.result (processId : UInt32) : SectionResult → Option RecordResult
  | .missing => none
  | .alreadyBlocked => some RecordResult.blocked
  | .evaluated e => some (e.result processId)

/-- The locked sections of a call of `RsRecordOperation` that is not interrupted between them.
`allocates` says whether `ExAllocatePool2` succeeds. -/
def recordSections (s : DriverState) (processId : UInt32)
    (processImageName : Option UnicodeString) (currentTime : Int64) (allocates : Bool) :
    DriverState × RecordResult :=
  match recordFirstSection s processId currentTime with
  | (s', .alreadyBlocked) => (s', RecordResult.blocked)
  | (s', .evaluated e) => (s', e.result processId)
  | (s', .missing) =>
    if allocates then
      match recordSecondSection s' (rsCreateProcessContext processId processImageName) processId
          currentTime with
      | (s'', .evaluated e) => (s'', e.result processId)
      | (s'', _) => (s'', RecordResult.blocked)
    else (s', RecordResult.outOfMemory)

/-! ### Reports -/

/-- `RS_BLOCKED_PID_ENTRY`. -/
structure RsBlockedPidEntry where
  processId : UInt32
  imageName : Fin rsMaxImageNameLen → UInt16
  blockedTimestamp : Int64
  operationCount : UInt32

/-- The entry `RsGetBlockedPids` writes for a context. -/
def RsProcessContext.blockedEntry (ctx : RsProcessContext) : RsBlockedPidEntry where
  processId := ctx.processId
  imageName := ctx.imageName
  blockedTimestamp := ctx.blockedTimestamp
  operationCount := ctx.operationCount.1

/-- `RsGetBlockedPids`: the entries written, whose number is `*CountReturned`. -/
def rsGetBlockedPids (s : DriverState) (maxEntries : ℕ) : List RsBlockedPidEntry :=
  (List.finRange rsHashTableSize).foldl
    (fun written i =>
      if written.length < maxEntries then
        (s.contextHashTable i).foldl
          (fun written ctx =>
            if written.length < maxEntries ∧ ctx.isBlocked = true then
              written ++ [ctx.blockedEntry]
            else written)
          written
      else written)
    []

/-- `RsGetPidCounts`. -/
def rsGetPidCounts (s : DriverState) : UInt32 × UInt32 :=
  (s.trackedPidCount, (List.finRange rsHashTableSize).foldl
    (fun blocked i => (s.contextHashTable i).foldl
      (fun blocked ctx => if ctx.isBlocked then blocked + 1 else blocked) blocked) 0)

/-! ### Allowlist -/

/-- The names of the built-in allowlist. -/
def allowListNames : List (List UInt16) :=
  ["svchost.exe", "SearchIndexer.exe", "MsMpEng.exe", "TrustedInstaller.exe", "System",
    "smss.exe", "csrss.exe", "wininit.exe", "services.exe", "dwm.exe"].map wide

/-- `L'\\'`. -/
def backslash : UInt16 := 92

/-- The loop that looks for the last backslash: the position behind it, 0 if there is none. -/
def lastComponentStart (chars : List UInt16) : ℕ :=
  chars.zipIdx.foldl (fun start ci => if ci.1 = backslash then ci.2 + 1 else start) 0

theorem lastComponentStart_le (chars : List UInt16) : lastComponentStart chars ≤ chars.length := by
  have key : ∀ (l : List (UInt16 × ℕ)) (a : ℕ), a ≤ chars.length →
      (∀ ci ∈ l, ci.2 + 1 ≤ chars.length) →
      l.foldl (fun start ci => if ci.1 = backslash then ci.2 + 1 else start) a ≤ chars.length := by
    intro l
    induction l with
    | nil => intro a ha _; exact ha
    | cons ci l ih =>
      intro a ha hl
      rw [List.foldl_cons]
      -- the new start is behind a character of the list, or it is the old start
      refine ih _ ?_ fun c hc => hl c (List.mem_cons_of_mem _ hc)
      split
      · exact hl ci List.mem_cons_self
      · exact ha
  refine key _ 0 (Nat.zero_le _) ?_
  intro ci hci
  have := List.snd_lt_of_mem_zipIdx hci
  omega

/-- The `UNICODE_STRING` of the part behind the last backslash, whose length in bytes is a
difference of pointers cast to `USHORT`. -/
def processFileName (name : UnicodeString) (chars : List UInt16) (h : name.buffer = some chars) :
    UnicodeString where
  length := UInt16.ofNat (name.length.toNat - 2 * lastComponentStart chars)
  buffer := some (chars.drop (lastComponentStart chars))
  length_eq b hb := by
    cases hb
    have hlen := name.length_eq chars h
    have hlt := name.length.toNat_lt
    -- the rest is no longer than the name, so that the cast loses nothing
    rw [UInt16.toNat_ofNat', List.length_drop, Nat.mod_eq_of_lt (by omega)]
    omega

/-- `RsIsProcessAllowlisted`. -/
def rsIsProcessAllowlisted (upcase : UInt16 → UInt16) (s : DriverState)
    (processImageName : UnicodeString) : Bool :=
  match h : processImageName.buffer with
  | none => false
  | some chars =>
    if processImageName.length = 0 then false
    else
      let fileName := processFileName processImageName chars h
      (allowListNames.any fun name =>
        rtlEqualUnicodeString upcase fileName (rtlInitUnicodeString name)) ||
      (List.finRange rsMaxAllowlistEntries).any fun i =>
        decide (i.val < s.dynamicAllowlistCount.1.toNat) &&
          rtlEqualUnicodeString upcase fileName (rtlInitUnicodeString (wcs (s.dynamicAllowlist i)))

/-- `RsClearDynamicAllowlist`. -/
def rsClearDynamicAllowlist (s : DriverState) : DriverState :=
  { s with dynamicAllowlist := fun _ _ => 0, dynamicAllowlistCount := ⟨0, Nat.zero_le _⟩ }

/-- `RsAddDynamicAllowlistEntry`, on the `EntryLen` characters of an entry. -/
def rsAddDynamicAllowlistEntry (s : DriverState) (entry : List UInt16) : DriverState :=
  if entry.length = 0 then s
  else if h : s.dynamicAllowlistCount.1 < UInt32.ofNat rsMaxAllowlistEntries then
    let copyLen := min entry.length (rsMaxAllowlistNameLen - 1)
    { s with
      dynamicAllowlist := Function.update s.dynamicAllowlist
        ⟨s.dynamicAllowlistCount.1.toNat, UInt32.lt_iff_toNat_lt.1 h⟩
        fun j =>
          if j.val < copyLen then entry.getD j.val 0
          else if j.val = copyLen then 0
          -- behind the terminator the slot keeps what it held
          else s.dynamicAllowlist
            ⟨s.dynamicAllowlistCount.1.toNat, UInt32.lt_iff_toNat_lt.1 h⟩ j
      dynamicAllowlistCount := ⟨s.dynamicAllowlistCount.1 + 1, by
        have := UInt32.lt_iff_toNat_lt.1 h
        rw [UInt32.toNat_add]
        exact (Nat.mod_le _ _).trans this⟩ }
  else s

/-! ### Runtime configuration -/

/-- `RsApplyConfig`: zero leaves the threshold or the window as it is. -/
def rsApplyConfig (s : DriverState) (fileCountThreshold timeWindowSeconds : UInt32)
    (monitoringEnabled : UInt8) : DriverState :=
  { s with
    config :=
      { fileCountThreshold :=
          if 0 < fileCountThreshold then fileCountThreshold else s.config.fileCountThreshold
        timeWindowSeconds :=
          if 0 < timeWindowSeconds then timeWindowSeconds else s.config.timeWindowSeconds
        timeWindowTicks :=
          if 0 < timeWindowSeconds then windowTicks timeWindowSeconds
          else s.config.timeWindowTicks
        monitoringEnabled := monitoringEnabled } }

/-- `g_MonitoringEnabled = value`, under the lock. -/
def setMonitoringEnabled (s : DriverState) (value : UInt8) : DriverState :=
  { s with config := { s.config with monitoringEnabled := value } }

end RansomShield
