import RansomShield.Buffers.Handler
import RansomShield.Driver.Callbacks
import RansomShield.Lock.Discipline

/-!
# The driver and its lock, step by step

The entry points of the driver once more, with the steps that the rules about `g_ContextLock` speak
of (`Locking.KernelStep`): the acquisitions and releases, the calls that need `PASSIVE_LEVEL`, and
the accesses to memory that may be paged out.  Accesses to the same memory by one statement or loop,
without a step of another kind between them, are one step; what happens in memory that is not
pageable is no step.

Between two locked sections other threads run.  What the code finds when it has acquired the lock
is therefore given for each place (`Locking.Encounter`), and may be any state at each of them.
Undisturbed, the entry points return what they return in the other models
(`Locking.result_preOperation`, `Locking.result_rsMessageNotifyCallback`).
-/

namespace RansomShield

namespace Locking

/-! ### Steps -/

/-- Memory that may be paged out. -/
inductive PageableMemory
  /-- What `SeLocateProcessImageName` has allocated. -/
  | processImageName
  | inputBuffer
  | outputBuffer
  deriving DecidableEq

inductive KernelStep
  /-- `KeAcquireSpinLock(&g_ContextLock, &oldIrql)`. -/
  | acquireContextLock
  /-- `KeReleaseSpinLock(&g_ContextLock, oldIrql)`. -/
  | releaseContextLock
  | exAllocatePool2
  | seLocateProcessImageName
  | fltSendMessage
  /-- A read or write. -/
  | access (memory : PageableMemory)
  deriving DecidableEq

/-- What a step does to `g_ContextLock`. -/
def KernelStep.lockOp : KernelStep → LockOp
  | .acquireContextLock => .acquire
  | .releaseContextLock => .release
  | _ => .other

/-- Calls that need `PASSIVE_LEVEL`. -/
def KernelStep.IsCall (t : KernelStep) : Prop :=
  t = .exAllocatePool2 ∨ t = .seLocateProcessImageName ∨ t = .fltSendMessage

/-- Accesses to memory that may be paged out. -/
def KernelStep.IsAccess (t : KernelStep) : Prop := ∃ memory, t = .access memory

/-- Code of the driver. -/
abbrev Code := Traced KernelStep

def acquire : Code Unit := .step .acquireContextLock

def release : Code Unit := .step .releaseContextLock

def access (memory : PageableMemory) : Code Unit := .step (.access memory)

/-- What the code finds when it has acquired the lock. -/
structure Encounter where
  /-- In `RsIsProcessAllowlisted`. -/
  isProcessAllowlisted : DriverState
  /-- In the first section of `RsRecordOperation`. -/
  recordFirst : DriverState
  /-- In the second section of `RsRecordOperation`. -/
  recordSecond : DriverState
  /-- In `RsGetBlockedPids`. -/
  getBlockedPids : DriverState
  /-- In the case `RsQueryAllowlist`. -/
  queryAllowlist : DriverState
  /-- In the call of `RsAddDynamicAllowlistEntry` for the entry with an index. -/
  addDynamicAllowlistEntry : ℕ → DriverState
  /-- `g_ClientPort` when `RsSendBlockNotification` copies it. -/
  clientPort : Option PortHandle

/-- No other thread runs. -/
def Encounter.undisturbed (s : DriverState) : Encounter where
  isProcessAllowlisted := s
  recordFirst := s
  recordSecond := s
  getBlockedPids := s
  queryAllowlist := s
  addDynamicAllowlistEntry _ := s
  clientPort := s.clientPort

/-! ### The allowlist -/

section

variable (upcase : UInt16 → UInt16)

/-- `RtlEqualUnicodeString(&processFileName, &entry, TRUE)`: only strings of the same length are
compared character by character. -/
def rtlEqualUnicodeString (processFileName entry : UnicodeString) : Code Bool := do
  if processFileName.length = entry.length ∧ processFileName.length ≠ 0 then
    access .processImageName
  return RansomShield.rtlEqualUnicodeString upcase processFileName entry

/-- The loops over the entries of an allowlist, up to the first match. -/
def findEqual (processFileName : UnicodeString) : List UnicodeString → Code Bool
  | [] => return false
  | entry :: entries => do
    if ← rtlEqualUnicodeString upcase processFileName entry then return true
    else findEqual processFileName entries

/-- `g_Allowlist`. -/
def staticEntries : List UnicodeString := allowListNames.map rtlInitUnicodeString

/-- The entries of `g_DynamicAllowlist` below `g_DynamicAllowlistCount`. -/
def dynamicEntries (s : DriverState) : List UnicodeString :=
  ((List.finRange rsMaxAllowlistEntries).filter
    fun i => i.val < s.dynamicAllowlistCount.1.toNat).map
      fun i => rtlInitUnicodeString (wcs (s.dynamicAllowlist i))

/-- The comparisons of `RsIsProcessAllowlisted`, with the dynamic allowlist that it finds. -/
def isFileNameAllowlisted (s : DriverState) (processFileName : UnicodeString) : Code Bool := do
  if ← findEqual upcase processFileName staticEntries then
    -- `DbgPrint("... %wZ", &processFileName)`
    access .processImageName
    return true
  else
    acquire
    let found ← findEqual upcase processFileName (dynamicEntries s)
    release
    if found then
      access .processImageName
      return true
    else return false

/-- `RsIsProcessAllowlisted`. -/
def rsIsProcessAllowlisted (s : DriverState) (processImageName : UnicodeString) : Code Bool := do
  -- `Buffer` and `Length`
  access .processImageName
  match h : processImageName.buffer with
  | none => return false
  | some chars =>
    if processImageName.length = 0 then return false
    else
      -- the loop that looks for the last backslash
      access .processImageName
      isFileNameAllowlisted upcase s (processFileName processImageName chars h)

end

/-! ### Recording -/

/-- `RsSendBlockNotification`. -/
def rsSendBlockNotification (env : Encounter) : Code Unit := do
  if env.clientPort.isSome then
    acquire
    -- the sequence number goes into a local variable
    release
    .step .fltSendMessage

/-- The code of `RsRecordOperation` behind the threshold check, which begins under the lock. -/
def finishRecord (env : Encounter) (processImageName : Option UnicodeString) (e : Evaluation) :
    Code (NtStatus × Bool) := do
  if e.shouldBlock then
    -- `DbgPrint("... %wZ", ProcessImageName)`
    if processImageName.isSome then access .processImageName
  release
  if e.shouldBlock then rsSendBlockNotification env
  return (.success, e.shouldBlock)

/-- The rest of a locked section of `RsRecordOperation` that has a context. -/
def finishSection (env : Encounter) (processImageName : Option UnicodeString) :
    SectionResult → Code (NtStatus × Bool)
  | .evaluated e => finishRecord env processImageName e
  | _ => do
    release
    return (.success, true)

/-- `RsRecordOperation`: the status and `*ShouldBlock`. -/
def rsRecordOperation (env : Encounter) (processId : UInt32)
    (processImageName : Option UnicodeString) (currentTime : Int64) (allocates : Bool) :
    Code (NtStatus × Bool) := do
  acquire
  match (recordFirstSection env.recordFirst processId currentTime).2 with
  | .missing =>
    release
    -- `RsCreateProcessContext`
    .step .exAllocatePool2
    if allocates then
      if processImageName.isSome then access .processImageName
      acquire
      finishSection env processImageName (recordSecondSection env.recordSecond
        (rsCreateProcessContext processId processImageName) processId currentTime).2
    else return (.insufficientResources, false)
  | r => finishSection env processImageName r

/-! ### The callbacks -/

/-- `processImageName` after the attempt to obtain it. -/
def locateImageName (data : FltCallbackData) : Code (Option UnicodeString) :=
  if data.hasRequestorProcess then
    if data.irql = .passiveLevel then do
      .step .seLocateProcessImageName
      return data.locatedImageName
    else return none
  else return none

section

variable (upcase : UInt16 → UInt16) (env : Encounter)

/-- The allowlist check of both callbacks. -/
def imageAllowlisted : Option UnicodeString → Code Bool
  | none => return false
  | some name => rsIsProcessAllowlisted upcase env.isProcessAllowlisted name

/-- `RsPreOperationWrite`. -/
def rsPreOperationWrite (data : FltCallbackData) : Code PreopCompletion := do
  if data.iopb.irpFlags &&& irpPagingIo ≠ 0 then return .pass
  else if data.requestorProcessId = 0 ∨ data.requestorProcessId = 4 then return .pass
  else
    let processImageName ← locateImageName data
    if ← imageAllowlisted upcase env processImageName then return .pass
    else
      let r ← rsRecordOperation env data.requestorProcessId processImageName
        data.interruptTime.ticks data.allocates
      return completeWrite r.1 r.2

/-- `RsPreOperationSetInformation`. -/
def rsPreOperationSetInformation (data : FltCallbackData) : Code PreopCompletion := do
  match data.iopb.fileInformationClass with
  | .other _ => return .pass
  | .fileRenameInformation | .fileRenameInformationEx
  | .fileDispositionInformation | .fileDispositionInformationEx =>
    if data.requestorProcessId = 0 ∨ data.requestorProcessId = 4 then return .pass
    else
      let processImageName ← locateImageName data
      if ← imageAllowlisted upcase env processImageName then return .pass
      else
        let r ← rsRecordOperation env data.requestorProcessId processImageName
          data.interruptTime.ticks data.allocates
        return completeSetInformation r.1 r.2

/-- The callback that the filter manager calls for a request. -/
def preOperation (data : FltCallbackData) : Code PreopCompletion :=
  match data.iopb.majorFunction with
  | .irpMjWrite => rsPreOperationWrite upcase env data
  | .irpMjSetInformation => rsPreOperationSetInformation upcase env data

end

/-! ### The message handler -/

/-- `reply->Header.SequenceNumber = g_MessageSequence++`, under the lock. -/
def storeSequenceNumber : Code Unit := do
  acquire
  access .outputBuffer
  release

/-- `RsApplyConfig`, `RsClearDynamicAllowlist`, `RsUnblockProcess`, and the assignments to
`g_MonitoringEnabled`. -/
def changeState : Code Unit := do
  acquire
  release

/-- `if (OutputBuffer == NULL || OutputBufferLength < requiredSize)`, else go on. -/
def checkOutput (outputBuffer : Option Memory) (outputBufferLength requiredSize : ℕ)
    (go : Code NtStatus) : Code NtStatus :=
  if outputBuffer.isNone ∨ outputBufferLength < requiredSize then return .bufferTooSmall else go

/-- `RsGetBlockedPids`, on the entries and the count of the reply. -/
def rsGetBlockedPids (s : DriverState) : Code Unit := do
  access .outputBuffer
  acquire
  .each (RansomShield.rsGetBlockedPids s rsMaxReportBlocked) fun _ => access .outputBuffer
  access .outputBuffer
  release

/-- `RsGetPidCounts`, on two fields of the reply. -/
def rsGetPidCounts : Code Unit := do
  acquire
  access .outputBuffer
  release

/-- `RsAddDynamicAllowlistEntry`, on an entry of the request. -/
def rsAddDynamicAllowlistEntry (s : DriverState) (entry : List UInt16) : Code Unit := do
  if entry.length ≠ 0 then
    acquire
    if s.dynamicAllowlistCount.1 < UInt32.ofNat rsMaxAllowlistEntries then access .inputBuffer
    release

/-- The end of the cases that answer with `RS_REPLY_GENERIC`. -/
def genericReply : Code NtStatus := do
  access .outputBuffer
  storeSequenceNumber
  access .outputBuffer
  return .success

section

variable (env : Encounter) (input : Memory) (inputBufferLength : ℕ)
variable (outputBuffer : Option Memory) (outputBufferLength : ℕ)

/-- Case `RsQueryBlockedPids`. -/
def queryBlockedPids : Code NtStatus :=
  checkOutput outputBuffer outputBufferLength sizeofReplyBlockedPids do
    access .outputBuffer
    storeSequenceNumber
    access .outputBuffer
    rsGetBlockedPids env.getBlockedPids
    -- `DbgPrint`
    access .outputBuffer
    return .success

/-- Case `RsRequestUnblockPid`. -/
def requestUnblockPid : Code NtStatus :=
  if inputBufferLength < sizeofRequestUnblockPid then return .invalidParameter
  else
    checkOutput outputBuffer outputBufferLength sizeofReplyUnblockPid do
      access .outputBuffer
      storeSequenceNumber
      access .outputBuffer
      access .inputBuffer
      changeState
      access .outputBuffer
      -- `DbgPrint`
      access .inputBuffer
      return .success

/-- Case `RsQueryConfig`. -/
def queryConfig : Code NtStatus :=
  checkOutput outputBuffer outputBufferLength sizeofReplyConfig do
    access .outputBuffer
    -- the sequence number and three fields of the configuration
    storeSequenceNumber
    access .outputBuffer
    rsGetPidCounts
    return .success

/-- Case `RsQueryAllowlist`. -/
def queryAllowlist : Code NtStatus :=
  checkOutput outputBuffer outputBufferLength sizeofReplyAllowlist do
    access .outputBuffer
    acquire
    access .outputBuffer
    .each (dynamicEntries env.queryAllowlist) fun _ => access .outputBuffer
    release
    access .outputBuffer
    return .success

/-- Cases `RsRequestPause`, `RsRequestResume` and `RsClearAllowlist`. -/
def changeAndReply : Code NtStatus :=
  checkOutput outputBuffer outputBufferLength sizeofReplyGeneric do
    changeState
    genericReply

/-- Case `RsUpdateConfig`. -/
def updateConfig : Code NtStatus :=
  if inputBufferLength < sizeofRequestUpdateConfig then return .invalidParameter
  else
    checkOutput outputBuffer outputBufferLength sizeofReplyGeneric do
      access .inputBuffer
      changeState
      genericReply

/-- One round of the loop that adds entries. -/
def addEntry (countOffset i : ℕ) : Code Unit := do
  -- `i < request->EntryCount`, then the scan
  access .inputBuffer
  access .inputBuffer
  rsAddDynamicAllowlistEntry (env.addDynamicAllowlistEntry i)
    (Buffered.scan input (rsMaxAllowlistNameLen - 1) (countOffset + 4 + 520 * i))

/-- The cases that add allowlist entries: the request has `size` bytes, at most `maxEntries`
entries, their count at offset `countOffset` and the entries behind it. -/
def allowlistRequest (size maxEntries countOffset : ℕ) : Code NtStatus :=
  if inputBufferLength < size then return .invalidParameter
  else
    checkOutput outputBuffer outputBufferLength sizeofReplyGeneric do
      access .inputBuffer
      if maxEntries < (Buffered.ulong input countOffset).toNat then return .invalidParameter
      else
        .each (List.range (Buffered.ulong input countOffset).toNat)
          fun i => addEntry env input countOffset i
        access .inputBuffer
        genericReply

/-- The switch over `MessageType`. -/
def dispatch : Code NtStatus :=
  match requestTypes.find? fun t => t.code = Buffered.ulong input 0 with
  | some .queryBlockedPids => queryBlockedPids env outputBuffer outputBufferLength
  | some .requestUnblockPid =>
    requestUnblockPid inputBufferLength outputBuffer outputBufferLength
  | some .queryConfig => queryConfig outputBuffer outputBufferLength
  | some .queryAllowlist => queryAllowlist env outputBuffer outputBufferLength
  | some .requestPause => changeAndReply outputBuffer outputBufferLength
  | some .requestResume => changeAndReply outputBuffer outputBufferLength
  | some .updateConfig => updateConfig inputBufferLength outputBuffer outputBufferLength
  | some .clearAllowlist => changeAndReply outputBuffer outputBufferLength
  | some .updateAllowlistChunk =>
    allowlistRequest env input inputBufferLength outputBuffer outputBufferLength
      sizeofRequestUpdateAllowlistChunk rsMaxAllowlistChunk 24
  | some .updateAllowlistFull =>
    allowlistRequest env input inputBufferLength outputBuffer outputBufferLength
      sizeofRequestUpdateAllowlistFull rsMaxAllowlistEntries 16
  -- the default case prints the type
  | _ => do
    access .inputBuffer
    return .invalidParameter

end

/-- `RsMessageNotifyCallback`. -/
def rsMessageNotifyCallback (env : Encounter) (inputBuffer : Option Memory)
    (inputBufferLength : ℕ) (outputBuffer : Option Memory) (outputBufferLength : ℕ) :
    Code NtStatus :=
  match inputBuffer with
  | none => return .invalidParameter
  | some input =>
    if inputBufferLength < sizeofMessageHeader then return .invalidParameter
    else do
      -- `MessageSize`
      access .inputBuffer
      if inputBufferLength < (Buffered.ulong input 4).toNat then return .invalidParameter
      else
        access .inputBuffer
        dispatch env input inputBufferLength outputBuffer outputBufferLength

/-! ### The entry points -/

/-- A call of an entry point. -/
inductive EntryPoint
  /-- `RsPreOperationWrite` or `RsPreOperationSetInformation`. -/
  | preOperation (data : FltCallbackData)
  | messageNotify (inputBuffer : Option Memory) (inputBufferLength : ℕ)
    (outputBuffer : Option Memory) (outputBufferLength : ℕ)

/-- The steps of a call. -/
def EntryPoint.steps (upcase : UInt16 → UInt16) (env : Encounter) :
    EntryPoint → List KernelStep
  | .preOperation data => (Locking.preOperation upcase env data).steps
  | .messageNotify inputBuffer n outputBuffer m =>
    (rsMessageNotifyCallback env inputBuffer n outputBuffer m).steps

/-! ### The results -/

section

variable {upcase : UInt16 → UInt16} {s : DriverState}

@[simp] theorem result_rtlEqualUnicodeString (processFileName entry : UnicodeString) :
    (rtlEqualUnicodeString upcase processFileName entry).result =
      RansomShield.rtlEqualUnicodeString upcase processFileName entry := by
  unfold rtlEqualUnicodeString
  split_ifs <;> rfl

@[simp] theorem result_findEqual (processFileName : UnicodeString)
    (entries : List UnicodeString) : (findEqual upcase processFileName entries).result =
      entries.any (RansomShield.rtlEqualUnicodeString upcase processFileName) := by
  induction entries with
  | nil => rfl
  | cons entry entries ih =>
    rw [findEqual, Traced.result_bind, result_rtlEqualUnicodeString, List.any_cons, ← ih]
    cases RansomShield.rtlEqualUnicodeString upcase processFileName entry <;> rfl

theorem any_dynamicEntries (p : UnicodeString → Bool) : (dynamicEntries s).any p =
    (List.finRange rsMaxAllowlistEntries).any fun i =>
      decide (i.val < s.dynamicAllowlistCount.1.toNat) &&
        p (rtlInitUnicodeString (wcs (s.dynamicAllowlist i))) := by
  rw [dynamicEntries, List.any_map, List.any_filter]
  rfl

theorem result_isFileNameAllowlisted (fileName : UnicodeString) :
    (isFileNameAllowlisted upcase s fileName).result =
      (staticEntries.any (RansomShield.rtlEqualUnicodeString upcase fileName) ||
        (dynamicEntries s).any (RansomShield.rtlEqualUnicodeString upcase fileName)) := by
  rw [isFileNameAllowlisted, Traced.result_bind, result_findEqual]
  -- a match in the built-in allowlist, then in the dynamic one
  cases staticEntries.any (RansomShield.rtlEqualUnicodeString upcase fileName) with
  | true => rfl
  | false =>
    simp only [Bool.false_eq_true, if_false, Traced.result_bind, result_findEqual, Bool.false_or]
    split_ifs with hfound
    · exact hfound.symm
    · exact (Bool.eq_false_iff.2 hfound).symm

/-- **The allowlist check** gives the same answer. -/
theorem result_rsIsProcessAllowlisted (name : UnicodeString) :
    (rsIsProcessAllowlisted upcase s name).result =
      RansomShield.rsIsProcessAllowlisted upcase s name := by
  obtain ⟨length, buffer, hlength⟩ := name
  cases buffer with
  | none => rfl
  | some chars =>
    rw [rsIsProcessAllowlisted, RansomShield.rsIsProcessAllowlisted, Traced.result_bind]
    dsimp only
    by_cases hzero : length = 0
    · rw [if_pos hzero, if_pos hzero]
      rfl
    · rw [if_neg hzero, if_neg hzero, Traced.result_bind, result_isFileNameAllowlisted,
        staticEntries, List.any_map, any_dynamicEntries]
      rfl

theorem result_finishRecord (env : Encounter) (image : Option UnicodeString) (e : Evaluation) :
    (finishRecord env image e).result = (.success, e.shouldBlock) := by
  unfold finishRecord
  split_ifs <;> rfl

/-- **`RsRecordOperation`** ends in the same way when no other thread runs. -/
theorem result_rsRecordOperation (processId : UInt32) (image : Option UnicodeString) (t : Int64)
    (allocates : Bool) :
    (rsRecordOperation (.undisturbed s) processId image t allocates).result =
      ((recordSections s processId image t allocates).2.status,
        (recordSections s processId image t allocates).2.shouldBlock) := by
  unfold rsRecordOperation recordSections
  -- the lookup finds a context, which may be blocked, or none
  cases hlookup : rsLookupProcessContext s processId with
  | some ctx =>
    cases hblocked : ctx.isBlocked with
    | true =>
      simp [Encounter.undisturbed, recordFirstSection, hlookup, recordInContext, hblocked,
        finishSection, RecordResult.blocked]
    | false =>
      simp [Encounter.undisturbed, recordFirstSection, hlookup, recordInContext, hblocked,
        finishSection, result_finishRecord, Evaluation.result]
  | none =>
    cases allocates with
    | true =>
      simp only [Encounter.undisturbed, recordFirstSection, recordSecondSection, hlookup,
        Traced.result_bind, if_true]
      split_ifs <;> simp [finishSection, result_finishRecord, Evaluation.result]
    | false => simp [Encounter.undisturbed, recordFirstSection, hlookup, RecordResult.outOfMemory]

/-- Both callbacks behind their guards. -/
def monitored (upcase : UInt16 → UInt16) (env : Encounter) (data : FltCallbackData) :
    Code PreopCompletion := do
  let processImageName ← locateImageName data
  if ← imageAllowlisted upcase env processImageName then return .pass
  else
    let r ← rsRecordOperation env data.requestorProcessId processImageName
      data.interruptTime.ticks data.allocates
    return data.iopb.majorFunction.complete r.1 r.2

/-- **Both callbacks are one**, with different guards. -/
theorem preOperation_eq (env : Encounter) (data : FltCallbackData) :
    preOperation upcase env data =
      if data.skipped then return .pass else monitored upcase env data := by
  unfold preOperation FltCallbackData.skipped monitored MajorFunction.complete
  cases data.iopb.majorFunction with
  | irpMjWrite =>
    simp only [rsPreOperationWrite, Bool.or_eq_true, decide_eq_true_eq]
    split_ifs <;> first | rfl | simp_all
  | irpMjSetInformation =>
    simp only [rsPreOperationSetInformation, Bool.or_eq_true, decide_eq_true_eq]
    cases data.iopb.fileInformationClass <;>
      simp [FileInformationClass.monitored]

theorem result_locateImageName (data : FltCallbackData) :
    (locateImageName data).result = data.processImageName := by
  unfold locateImageName FltCallbackData.processImageName
  split_ifs <;> rfl

/-- **The callbacks** end in the same way when no other thread runs. -/
theorem result_preOperation (data : FltCallbackData) :
    (preOperation upcase (.undisturbed s) data).result =
      (RansomShield.preOperation upcase s data).completion := by
  have hallowlisted : (imageAllowlisted upcase (.undisturbed s) data.processImageName).result =
      RansomShield.imageAllowlisted upcase s data.processImageName := by
    cases data.processImageName with
    | none => rfl
    | some name => exact result_rsIsProcessAllowlisted name
  have hrecord : (RansomShield.rsRecordOperation s data.requestorProcessId data.processImageName
      data.interruptTime.ticks data.allocates).result = (recordSections s data.requestorProcessId
        data.processImageName data.interruptTime.ticks data.allocates).2 := by
    unfold RansomShield.rsRecordOperation
    dsimp only
    split <;> rfl
  rw [preOperation_eq, RansomShield.preOperation_eq, FltCallbackData.passes]
  cases data.skipped with
  | true => rfl
  | false =>
    rw [if_neg Bool.false_ne_true, monitored, Traced.result_bind, result_locateImageName,
      Traced.result_bind, hallowlisted, Bool.false_or]
    split_ifs
    · rfl
    · rw [Traced.result_bind, result_rsRecordOperation, ← hrecord]
      rfl

section

variable {env : Encounter} {input : Memory} {n : ℕ} {outputBuffer : Option Memory} {m : ℕ}

theorem result_checkOutput {size : ℕ} {go : Code NtStatus} {go' : Buffered.Outcome}
    (h : go.result = go'.status) : (checkOutput outputBuffer m size go).result =
      (Buffered.checkOutput s outputBuffer m size go').status := by
  unfold checkOutput Buffered.checkOutput
  split_ifs
  · rfl
  · exact h

theorem result_allowlistRequest (t : RsMessageType) (size maxEntries countOffset : ℕ) :
    (allowlistRequest env input n outputBuffer m size maxEntries countOffset).result =
      (Buffered.allowlistRequest s input n outputBuffer m t size maxEntries
        countOffset).status := by
  unfold allowlistRequest Buffered.allowlistRequest
  by_cases hsize : n < size
  · rw [if_pos hsize, if_pos hsize]
    rfl
  · rw [if_neg hsize, if_neg hsize]
    refine result_checkOutput ?_
    rw [Traced.result_bind]
    dsimp only
    split_ifs <;> rfl

theorem result_dispatch : (dispatch env input n outputBuffer m).result =
    (Buffered.dispatch s input n outputBuffer m).status := by
  unfold dispatch Buffered.dispatch
  generalize requestTypes.find? (fun t => t.code = Buffered.ulong input 0) = t
  cases t with
  | none => rfl
  | some t =>
    cases t with
    | queryBlockedPids => exact result_checkOutput rfl
    | requestUnblockPid =>
      simp only [requestUnblockPid, Buffered.requestUnblockPid]
      split_ifs
      · rfl
      · exact result_checkOutput rfl
    | queryConfig => exact result_checkOutput rfl
    | queryAllowlist => exact result_checkOutput rfl
    | requestPause => exact result_checkOutput rfl
    | requestResume => exact result_checkOutput rfl
    | updateConfig =>
      simp only [updateConfig, Buffered.updateConfig]
      split_ifs
      · rfl
      · exact result_checkOutput rfl
    | clearAllowlist => exact result_checkOutput rfl
    | updateAllowlistChunk => exact result_allowlistRequest _ _ _ _
    | updateAllowlistFull => exact result_allowlistRequest _ _ _ _
    | _ => rfl

end

/-- **The message handler** returns the same status, whatever it finds under the lock. -/
theorem result_rsMessageNotifyCallback (env : Encounter) (s : DriverState)
    (inputBuffer : Option Memory) (n : ℕ) (outputBuffer : Option Memory) (m : ℕ) :
    (rsMessageNotifyCallback env inputBuffer n outputBuffer m).result =
      (Buffered.rsMessageNotifyCallback s inputBuffer n outputBuffer m).status := by
  cases inputBuffer with
  | none => rfl
  | some input =>
    unfold rsMessageNotifyCallback Buffered.rsMessageNotifyCallback
    dsimp only
    by_cases hn : n < sizeofMessageHeader
    · rw [if_pos hn, if_pos hn]
      rfl
    · rw [if_neg hn, if_neg hn, Traced.result_bind]
      by_cases hsize : n < (Buffered.ulong input 4).toNat
      · rw [if_pos hsize, if_pos hsize]
        rfl
      · rw [if_neg hsize, if_neg hsize]
        exact result_dispatch

end

end Locking

end RansomShield
