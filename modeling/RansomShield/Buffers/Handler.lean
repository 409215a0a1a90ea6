import RansomShield.Memory.Stores
import RansomShield.System.Dispatch

/-!
# The message handler, byte by byte

`RsMessageNotifyCallback` once more, one case of the switch at a time, with the bytes it touches:
its `Buffered.Outcome` notes the offsets of the input it reads, and what it stores into the output,
both in the order of the source.  The input buffer is a pointer, behind which the memory goes on
beyond `InputBufferLength`; nothing in this model keeps the handler from reading or writing there.

Of the output buffer (`Buffered.Outcome.output`), the handler reads back only what it prints
(`DbgPrint`), which is left out.
-/

namespace RansomShield

/-- The memory from an address on. -/
abbrev Memory := ℕ → UInt8

namespace Buffered

/-! ### Reading the input -/

/-- The `ULONG` at an offset. -/
def ulong (m : Memory) (offset : ℕ) : UInt32 :=
  UInt32.ofNat ((m offset).toNat + 2 ^ 8 * (m (offset + 1)).toNat +
    2 ^ 16 * (m (offset + 2)).toNat + 2 ^ 24 * (m (offset + 3)).toNat)

/-- The `WCHAR` at an offset. -/
def wchar (m : Memory) (offset : ℕ) : UInt16 :=
  UInt16.ofNat ((m offset).toNat + 2 ^ 8 * (m (offset + 1)).toNat)

/-- The bytes from an offset on. -/
def bytesAt (offset size : ℕ) : List ℕ := (List.range size).map (offset + ·)

/-- `while (len < n && p[len] != L'\0') { len++; }` : the characters up to the NUL. -/
def scan (m : Memory) : ℕ → ℕ → List UInt16
  | 0, _ => []
  | n + 1, offset =>
    let c := wchar m offset
    if c = 0 then [] else c :: scan m n (offset + 2)

/-- The bytes that the loop reads. -/
def scanReads (m : Memory) : ℕ → ℕ → List ℕ
  | 0, _ => []
  | n + 1, offset =>
    bytesAt offset 2 ++ if wchar m offset = 0 then [] else scanReads m n (offset + 2)

/-! ### Writing the output -/

/-- `RtlZeroMemory(OutputBuffer, size)`. -/
def zeroMemory (size : ℕ) : Store UInt8 := ⟨0, List.replicate size 0⟩

/-- A `ULONG` field. -/
def ulongField (offset : ℕ) (value : UInt32) : Store UInt8 := ⟨offset, ulongBytes value⟩

/-- A `LONGLONG` field. -/
def longlongField (offset : ℕ) (value : Int64) : Store UInt8 :=
  ⟨offset, ulongBytes (UInt32.ofNat value.toUInt64.toNat) ++
    ulongBytes (UInt32.ofNat (value.toUInt64.toNat / 2 ^ 32))⟩

/-- `RtlCopyMemory` of an array of `WCHAR`s. -/
def wcharArray {n : ℕ} (offset : ℕ) (a : Fin n → UInt16) : Store UInt8 :=
  ⟨offset, (List.ofFn a).flatMap wcharBytes⟩

/-- `reply->Header.MessageType`, `MessageSize` and `ProtocolVersion`. -/
def headerFields (messageType : RsMessageType) (messageSize : ℕ) : List (Store UInt8) :=
  [ulongField 0 messageType.code, ulongField 4 (UInt32.ofNat messageSize),
    ulongField 12 rsProtocolVersion]

/-- `reply->Header.SequenceNumber = g_MessageSequence`. -/
def sequenceField (s : DriverState) : Store UInt8 := ulongField 8 s.messageSequence

/-- What `RsGetBlockedPids` writes for the entry with the given index. -/
def blockedEntryFields (entry : RsBlockedPidEntry) (index : ℕ) : List (Store UInt8) :=
  [ulongField (24 + 544 * index) entry.processId,
    longlongField (24 + 544 * index + 528) entry.blockedTimestamp,
    ulongField (24 + 544 * index + 536) entry.operationCount,
    wcharArray (24 + 544 * index + 4) entry.imageName]

/-! ### The handler -/

/-- What the handler does and returns. -/
structure Outcome where
  state : DriverState
  status : NtStatus
  /-- `*ReturnOutputBufferLength`. -/
  returnLength : ℕ
  /-- The offsets of the input bytes that are read. -/
  reads : List ℕ
  /-- What is stored into the output. -/
  writes : List (Store UInt8)

/-- The content of the output buffer afterwards. -/
def Outcome.output (o : Outcome) (outputBuffer : Option Memory) : Option Memory :=
  outputBuffer.map (stores o.writes)

/-- `return STATUS_INVALID_PARAMETER`, after reading some of the input. -/
def invalidParameter (s : DriverState) (reads : List ℕ) : Outcome :=
  { state := s, status := .invalidParameter, returnLength := 0, reads := reads, writes := [] }

/-- `return STATUS_BUFFER_TOO_SMALL`. -/
def bufferTooSmall (s : DriverState) (requiredSize : ℕ) : Outcome :=
  { state := s, status := .bufferTooSmall, returnLength := requiredSize, reads := []
    writes := [] }

/-- `if (OutputBuffer == NULL || OutputBufferLength < requiredSize)`, else go on. -/
def checkOutput (s : DriverState) (outputBuffer : Option Memory) (outputBufferLength : ℕ)
    (requiredSize : ℕ) (go : Outcome) : Outcome :=
  if outputBuffer.isNone ∨ outputBufferLength < requiredSize then bufferTooSmall s requiredSize
  else go

section

variable (s : DriverState) (input : Memory) (inputBufferLength : ℕ)
variable (outputBuffer : Option Memory) (outputBufferLength : ℕ)

/-- Case `RsQueryBlockedPids`. -/
def queryBlockedPids : Outcome :=
  checkOutput s outputBuffer outputBufferLength sizeofReplyBlockedPids
    (let entries := rsGetBlockedPids (drawSequence s) rsMaxReportBlocked
     { state := drawSequence s
       status := .success
       returnLength := sizeofReplyBlockedPids
       reads := []
       writes := zeroMemory sizeofReplyBlockedPids :: [sequenceField s] ++
         headerFields .replyBlockedPids sizeofReplyBlockedPids ++
         -- `*CountReturned` is written before and after the loop
         (ulongField 16 0 ::
           entries.zipIdx.flatMap (fun ei => blockedEntryFields ei.1 ei.2) ++
             [ulongField 16 (UInt32.ofNat entries.length)]) })

/-- Case `RsRequestUnblockPid`. -/
def requestUnblockPid : Outcome :=
  if inputBufferLength < sizeofRequestUnblockPid then invalidParameter s []
  else
    checkOutput s outputBuffer outputBufferLength sizeofReplyUnblockPid
      (let processId := ulong input 16
       { state := rsUnblockProcess (drawSequence s) processId
         status := .success
         returnLength := sizeofReplyUnblockPid
         -- for the reply, for the call and for `DbgPrint`
         reads := bytesAt 16 4 ++ bytesAt 16 4 ++ bytesAt 16 4
         writes := zeroMemory sizeofReplyUnblockPid :: [sequenceField s] ++
           headerFields .replyUnblockPid sizeofReplyUnblockPid ++
             [ulongField 20 processId, ulongField 16 0] })

/-- Case `RsQueryConfig`. -/
def queryConfig : Outcome :=
  checkOutput s outputBuffer outputBufferLength sizeofReplyConfig
    (let counts := rsGetPidCounts (drawSequence s)
     { state := drawSequence s
       status := .success
       returnLength := sizeofReplyConfig
       reads := []
       writes := zeroMemory sizeofReplyConfig :: [sequenceField s,
           ulongField 16 s.config.fileCountThreshold, ulongField 20 s.config.timeWindowSeconds,
           ⟨24, [s.config.monitoringEnabled]⟩] ++
         headerFields .queryConfig sizeofReplyConfig ++
           [ulongField 28 counts.1, ulongField 32 counts.2] })

/-- Case `RsQueryAllowlist`. -/
def queryAllowlist : Outcome :=
  checkOutput s outputBuffer outputBufferLength sizeofReplyAllowlist
    { state := drawSequence s
      status := .success
      returnLength := sizeofReplyAllowlist
      reads := []
      writes := zeroMemory sizeofReplyAllowlist ::
          (sequenceField s :: ((List.finRange rsMaxAllowlistEntries).filter
            fun i => i.val < s.dynamicAllowlistCount.1.toNat).map
              fun i => wcharArray (20 + 520 * i.val) (s.dynamicAllowlist i)) ++
        headerFields .queryAllowlist sizeofReplyAllowlist ++
          [ulongField 16 s.dynamicAllowlistCount.1] }

/-- The cases that change the state by `change`, reading `reads`, and answer with
`RS_REPLY_GENERIC`. -/
def genericRequest (messageType : RsMessageType) (reads : List ℕ)
    (change : DriverState → DriverState) : Outcome where
  state := drawSequence (change s)
  status := .success
  returnLength := sizeofReplyGeneric
  reads := reads
  writes := zeroMemory sizeofReplyGeneric :: [sequenceField (change s)] ++
    headerFields messageType sizeofReplyGeneric ++ [ulongField 16 0]

/-- Case `RsRequestPause`. -/
def requestPause : Outcome :=
  checkOutput s outputBuffer outputBufferLength sizeofReplyGeneric
    (genericRequest s .requestPause [] fun s => setMonitoringEnabled s 0)

/-- Case `RsRequestResume`. -/
def requestResume : Outcome :=
  checkOutput s outputBuffer outputBufferLength sizeofReplyGeneric
    (genericRequest s .requestResume [] fun s => setMonitoringEnabled s 1)

/-- Case `RsUpdateConfig`. -/
def updateConfig : Outcome :=
  if inputBufferLength < sizeofRequestUpdateConfig then invalidParameter s []
  else
    checkOutput s outputBuffer outputBufferLength sizeofReplyGeneric
      (genericRequest s .updateConfig (bytesAt 16 4 ++ bytesAt 20 4 ++ bytesAt 24 1) fun s =>
        rsApplyConfig s (ulong input 16) (ulong input 20) (input 24))

/-- Case `RsClearAllowlist`. -/
def clearAllowlist : Outcome :=
  checkOutput s outputBuffer outputBufferLength sizeofReplyGeneric
    (genericRequest s .clearAllowlist [] rsClearDynamicAllowlist)

/-- What `RsAddDynamicAllowlistEntry` copies from the entry at an offset. -/
def copyReads (offset length : ℕ) : List ℕ :=
  if length = 0 then []
  else if s.dynamicAllowlistCount.1 < UInt32.ofNat rsMaxAllowlistEntries then
    bytesAt offset (2 * min length (rsMaxAllowlistNameLen - 1))
  else []

/-- One round of the loop that adds entries: test the loop condition, which reads `EntryCount`
again, scan the entry at an offset, and add it. -/
def addEntry (countOffset offset : ℕ) (st : DriverState × List ℕ) : DriverState × List ℕ :=
  let entry := scan input (rsMaxAllowlistNameLen - 1) offset
  (rsAddDynamicAllowlistEntry st.1 entry,
    st.2 ++ bytesAt countOffset 4 ++ scanReads input (rsMaxAllowlistNameLen - 1) offset ++
      copyReads st.1 offset entry.length)

/-- The loop that adds `entryCount` entries, the first one at offset `base`. -/
def addEntries (countOffset base entryCount : ℕ) (st : DriverState × List ℕ) :
    DriverState × List ℕ :=
  (List.range entryCount).foldl
    (fun st i => addEntry input countOffset (base + 520 * i) st) st

/-- The cases that add allowlist entries: the request has `size` bytes, at most `maxEntries`
entries, their count at offset `countOffset` and the entries behind it. -/
def allowlistRequest (messageType : RsMessageType) (size maxEntries countOffset : ℕ) : Outcome :=
  if inputBufferLength < size then invalidParameter s []
  else
    checkOutput s outputBuffer outputBufferLength sizeofReplyGeneric
      (let entryCount := (ulong input countOffset).toNat
       if maxEntries < entryCount then invalidParameter s (bytesAt countOffset 4)
       else
        let added := addEntries input countOffset (countOffset + 4) entryCount
          (s, bytesAt countOffset 4)
        -- the last test of the loop condition
        genericRequest s messageType (added.2 ++ bytesAt countOffset 4) fun _ => added.1)

/-- Case `RsUpdateAllowlistChunk`. -/
def updateAllowlistChunk : Outcome :=
  allowlistRequest s input inputBufferLength outputBuffer outputBufferLength .updateAllowlistChunk
    sizeofRequestUpdateAllowlistChunk rsMaxAllowlistChunk 24

/-- Case `RsUpdateAllowlistFull`. -/
def updateAllowlistFull : Outcome :=
  allowlistRequest s input inputBufferLength outputBuffer outputBufferLength .updateAllowlistFull
    sizeofRequestUpdateAllowlistFull rsMaxAllowlistEntries 16

/-- The switch over `MessageType`. -/
def dispatch : Outcome :=
  match requestTypes.find? fun t => t.code = ulong input 0 with
  | some .queryBlockedPids => queryBlockedPids s outputBuffer outputBufferLength
  | some .requestUnblockPid =>
    requestUnblockPid s input inputBufferLength outputBuffer outputBufferLength
  | some .queryConfig => queryConfig s outputBuffer outputBufferLength
  | some .queryAllowlist => queryAllowlist s outputBuffer outputBufferLength
  | some .requestPause => requestPause s outputBuffer outputBufferLength
  | some .requestResume => requestResume s outputBuffer outputBufferLength
  | some .updateConfig => updateConfig s input inputBufferLength outputBuffer outputBufferLength
  | some .clearAllowlist => clearAllowlist s outputBuffer outputBufferLength
  | some .updateAllowlistChunk =>
    updateAllowlistChunk s input inputBufferLength outputBuffer outputBufferLength
  | some .updateAllowlistFull =>
    updateAllowlistFull s input inputBufferLength outputBuffer outputBufferLength
  -- the default case prints the type
  | _ => invalidParameter s (bytesAt 0 4)

end

/-- The outcome, after reading some of the input. -/
def Outcome.afterReading (o : Outcome) (reads : List ℕ) : Outcome :=
  { o with reads := reads ++ o.reads }

/-- `RsMessageNotifyCallback`.  A buffer is `none` when its pointer is `NULL`; the lengths are what
the caller passes. -/
def rsMessageNotifyCallback (s : DriverState) (inputBuffer : Option Memory)
    (inputBufferLength : ℕ) (outputBuffer : Option Memory) (outputBufferLength : ℕ) : Outcome :=
  match inputBuffer with
  | none => invalidParameter s []
  | some input =>
    if inputBufferLength < sizeofMessageHeader then invalidParameter s []
    -- `MessageSize`
    else if inputBufferLength < (ulong input 4).toNat then invalidParameter s (bytesAt 4 4)
    else
      (dispatch s input inputBufferLength outputBuffer outputBufferLength).afterReading
        (bytesAt 4 4 ++ bytesAt 0 4)

end Buffered

end RansomShield
