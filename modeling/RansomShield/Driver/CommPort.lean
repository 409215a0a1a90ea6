import RansomShield.Driver.Context

/-!
# The communication port

The functions of `kernel/RsCommPort.c`: block notifications to the client, and the handler of the
client's messages.  A message is the list of its bytes, read at the offsets of the C structures;
the fields are little-endian.

`RsRecordOperation` ends with the notification, so that a whole uninterrupted call,
`rsRecordOperation`, is defined here too.
-/

namespace RansomShield

/-! ### Message formats -/

/-- `RS_PROTOCOL_VERSION`. -/
def rsProtocolVersion : UInt32 := 2

/-- `RS_MESSAGE_TYPE`. -/
inductive RsMessageType
  | notifyBlockedPid
  | notifyConfigUpdated
  | notifyAllowlistUpdated
  | queryBlockedPids
  | replyBlockedPids
  | queryConfig
  | queryAllowlist
  | requestUnblockPid
  | replyUnblockPid
  | requestPause
  | requestResume
  | updateConfig
  | clearAllowlist
  | updateAllowlistChunk
  | updateAllowlistFull
  deriving DecidableEq, Repr

/-- The value of an `RS_MESSAGE_TYPE`. -/
def RsMessageType.code : RsMessageType → UInt32
  | .notifyBlockedPid => 1
  | .notifyConfigUpdated => 2
  | .notifyAllowlistUpdated => 3
  | .queryBlockedPids => 100
  | .replyBlockedPids => 101
  | .queryConfig => 110
  | .queryAllowlist => 120
  | .requestUnblockPid => 200
  | .replyUnblockPid => 201
  | .requestPause => 210
  | .requestResume => 211
  | .updateConfig => 300
  | .clearAllowlist => 310
  | .updateAllowlistChunk => 311
  | .updateAllowlistFull => 312

/-- The requests that `RsMessageNotifyCallback` switches over. -/
def requestTypes : List RsMessageType :=
  [.queryBlockedPids, .requestUnblockPid, .queryConfig, .queryAllowlist, .requestPause,
    .requestResume, .updateConfig, .clearAllowlist, .updateAllowlistChunk, .updateAllowlistFull]

/-- `RS_MESSAGE_HEADER`. -/
structure RsMessageHeader where
  messageType : RsMessageType
  messageSize : ℕ
  sequenceNumber : UInt32
  protocolVersion : UInt32
  deriving DecidableEq

/-- `sizeof(RS_MESSAGE_HEADER)`. -/
def sizeofMessageHeader : ℕ := 16

/-- `sizeof(RS_NOTIFICATION_BLOCKED_PID)`. -/
def sizeofNotificationBlockedPid : ℕ := 560

/-- `sizeof(RS_REQUEST_UNBLOCK_PID)`. -/
def sizeofRequestUnblockPid : ℕ := 20

/-- `sizeof(RS_REQUEST_UPDATE_CONFIG)`. -/
def sizeofRequestUpdateConfig : ℕ := 28

/-- `sizeof(RS_REQUEST_UPDATE_ALLOWLIST_CHUNK)`. -/
def sizeofRequestUpdateAllowlistChunk : ℕ := 28 + rsMaxAllowlistChunk * 520

/-- `sizeof(RS_REQUEST_UPDATE_ALLOWLIST_FULL)`. -/
def sizeofRequestUpdateAllowlistFull : ℕ := 20 + rsMaxAllowlistEntries * 520

/-- `sizeof(RS_REPLY_BLOCKED_PIDS)`. -/
def sizeofReplyBlockedPids : ℕ := 24 + rsMaxReportBlocked * 544

/-- `sizeof(RS_REPLY_UNBLOCK_PID)`. -/
def sizeofReplyUnblockPid : ℕ := 24

/-- `sizeof(RS_REPLY_CONFIG)`. -/
def sizeofReplyConfig : ℕ := 36

/-- `sizeof(RS_REPLY_ALLOWLIST)`. -/
def sizeofReplyAllowlist : ℕ := 20 + rsMaxAllowlistEntries * 520

/-- `sizeof(RS_REPLY_GENERIC)`. -/
def sizeofReplyGeneric : ℕ := 24

/-- The `ULONG` at an offset. -/
def readUlong (bytes : List UInt8) (offset : ℕ) : UInt32 :=
  UInt32.ofNat ((bytes.getD offset 0).toNat + 2 ^ 8 * (bytes.getD (offset + 1) 0).toNat +
    2 ^ 16 * (bytes.getD (offset + 2) 0).toNat + 2 ^ 24 * (bytes.getD (offset + 3) 0).toNat)

/-- The `WCHAR` at an offset. -/
def readWchar (bytes : List UInt8) (offset : ℕ) : UInt16 :=
  UInt16.ofNat ((bytes.getD offset 0).toNat + 2 ^ 8 * (bytes.getD (offset + 1) 0).toNat)

/-- `MessageType` of a request. -/
def requestType (bytes : List UInt8) : Option RsMessageType :=
  requestTypes.find? fun t => t.code = readUlong bytes 0

/-- `RS_NOTIFICATION_BLOCKED_PID`. -/
structure RsNotificationBlockedPid where
  header : RsMessageHeader
  processId : UInt32
  imageName : Fin rsMaxImageNameLen → UInt16
  blockedTimestamp : Int64
  operationCount : UInt32

/-- The replies, zero-filled where nothing is written. -/
inductive RsReply
  | blockedPids (header : RsMessageHeader) (count : UInt32) (entries : List RsBlockedPidEntry)
  | unblockPid (header : RsMessageHeader) (status : NtStatus) (processId : UInt32)
  | config (header : RsMessageHeader) (fileCountThreshold timeWindowSeconds : UInt32)
      (monitoringEnabled : UInt8) (trackedPidCount blockedPidCount : UInt32)
  | allowlist (header : RsMessageHeader) (count : UInt32) (entries : List AllowlistEntry)
  | generic (header : RsMessageHeader) (status : NtStatus)

/-! ### Notifications -/

/-- `g_MessageSequence++`, under the lock. -/
def drawSequence (s : DriverState) : DriverState :=
  { s with messageSequence := s.messageSequence + 1 }

/-- The message that `RsSendBlockNotification` builds. -/
def BlockNotification.message (n : BlockNotification) (sequenceNumber : UInt32) :
    RsNotificationBlockedPid where
  header :=
    { messageType := .notifyBlockedPid
      messageSize := sizeofNotificationBlockedPid
      sequenceNumber := sequenceNumber
      protocolVersion := rsProtocolVersion }
  processId := n.processId
  imageName := n.imageName
  blockedTimestamp := n.blockedTimestamp
  operationCount := n.operationCount

/-- `RsSendBlockNotification`, with the message passed to `FltSendMessage`. -/
def rsSendBlockNotification (s : DriverState) (n : BlockNotification) :
    DriverState × Option RsNotificationBlockedPid :=
  match s.clientPort with
  | none => (s, none)
  | some _ => (drawSequence s, some (n.message s.messageSequence))

/-- The outcome of a whole call of `RsRecordOperation`. -/
structure RecordOutcome where
  state : DriverState
  result : RecordResult
  sent : Option RsNotificationBlockedPid

/-- `RsRecordOperation`, without interruption. -/
def rsRecordOperation (s : DriverState) (processId : UInt32)
    (processImageName : Option UnicodeString) (currentTime : Int64) (allocates : Bool) :
    RecordOutcome :=
  let (s', result) := recordSections s processId processImageName currentTime allocates
  match result.notification with
  | none => { state := s', result := result, sent := none }
  | some n =>
    let (s'', sent) := rsSendBlockNotification s' n
    { state := s'', result := result, sent := sent }

/-- `RsConnectNotifyCallback`. -/
def rsConnectNotifyCallback (s : DriverState) (clientPort : PortHandle) : DriverState :=
  { s with clientPort := some clientPort }

/-- `RsDisconnectNotifyCallback`. -/
def rsDisconnectNotifyCallback (s : DriverState) : DriverState := { s with clientPort := none }

/-! ### Message handlers -/

/-- The outcome of `RsMessageNotifyCallback`. -/
structure MessageOutcome where
  state : DriverState
  status : NtStatus
  /-- `*ReturnOutputBufferLength`. -/
  returnLength : ℕ
  /-- What is written to the output buffer. -/
  reply : Option RsReply

/-- `STATUS_INVALID_PARAMETER`, with nothing done. -/
def invalidParameter (s : DriverState) : MessageOutcome :=
  { state := s, status := .invalidParameter, returnLength := 0, reply := none }

/-- Check the output buffer, whose length is given unless it is `NULL`, and go on. -/
def withOutputBuffer (s : DriverState) (output : Option ℕ) (requiredSize : ℕ)
    (go : MessageOutcome) : MessageOutcome :=
  match output with
  | none =>
    { state := s, status := .bufferTooSmall, returnLength := requiredSize, reply := none }
  | some length =>
    if length < requiredSize then
      { state := s, status := .bufferTooSmall, returnLength := requiredSize, reply := none }
    else go

theorem withOutputBuffer_of_le {s : DriverState} {size length : ℕ} {go : MessageOutcome}
    (h : size ≤ length) : withOutputBuffer s (some length) size go = go :=
  if_neg (not_lt.2 h)

/-- The header of a reply that draws the next sequence number. -/
def replyHeader (s : DriverState) (messageType : RsMessageType) (messageSize : ℕ) :
    RsMessageHeader where
  messageType := messageType
  messageSize := messageSize
  sequenceNumber := s.messageSequence
  protocolVersion := rsProtocolVersion

/-- Case `RsQueryBlockedPids`. -/
def queryBlockedPids (s : DriverState) (output : Option ℕ) : MessageOutcome :=
  withOutputBuffer s output sizeofReplyBlockedPids
    (let entries := rsGetBlockedPids (drawSequence s) rsMaxReportBlocked
     { state := drawSequence s
       status := .success
       returnLength := sizeofReplyBlockedPids
       reply := some (.blockedPids (replyHeader s .replyBlockedPids sizeofReplyBlockedPids)
         (UInt32.ofNat entries.length) entries) })

/-- Case `RsRequestUnblockPid`. -/
def requestUnblockPid (s : DriverState) (bytes : List UInt8) (output : Option ℕ) :
    MessageOutcome :=
  if bytes.length < sizeofRequestUnblockPid then invalidParameter s
  else
    withOutputBuffer s output sizeofReplyUnblockPid
      (let processId := readUlong bytes 16
       { state := rsUnblockProcess (drawSequence s) processId
         status := .success
         returnLength := sizeofReplyUnblockPid
         reply := some (.unblockPid (replyHeader s .replyUnblockPid sizeofReplyUnblockPid)
           .success processId) })

/-- Case `RsQueryConfig`. -/
def queryConfig (s : DriverState) (output : Option ℕ) : MessageOutcome :=
  withOutputBuffer s output sizeofReplyConfig
    (let counts := rsGetPidCounts (drawSequence s)
     { state := drawSequence s
       status := .success
       returnLength := sizeofReplyConfig
       reply := some (.config (replyHeader s .queryConfig sizeofReplyConfig)
         s.config.fileCountThreshold s.config.timeWindowSeconds s.config.monitoringEnabled
         counts.1 counts.2) })

/-- Case `RsQueryAllowlist`. -/
def queryAllowlist (s : DriverState) (output : Option ℕ) : MessageOutcome :=
  withOutputBuffer s output sizeofReplyAllowlist
    { state := drawSequence s
      status := .success
      returnLength := sizeofReplyAllowlist
      reply := some (.allowlist (replyHeader s .queryAllowlist sizeofReplyAllowlist)
        s.dynamicAllowlistCount.1
        ((List.finRange rsMaxAllowlistEntries).filterMap fun i =>
          if i.val < s.dynamicAllowlistCount.1.toNat then some (s.dynamicAllowlist i)
          else none)) }

/-- The cases that change the state by `change` and answer with `RS_REPLY_GENERIC`: the output
buffer is checked first, and the sequence number is drawn after the change. -/
def genericRequest (s : DriverState) (messageType : RsMessageType) (output : Option ℕ)
    (change : DriverState → DriverState) : MessageOutcome :=
  withOutputBuffer s output sizeofReplyGeneric
    { state := drawSequence (change s)
      status := .success
      returnLength := sizeofReplyGeneric
      reply := some (.generic (replyHeader (change s) messageType sizeofReplyGeneric) .success) }

/-- Case `RsRequestPause`. -/
def requestPause (s : DriverState) (output : Option ℕ) : MessageOutcome :=
  genericRequest s .requestPause output fun s => setMonitoringEnabled s 0

/-- Case `RsRequestResume`. -/
def requestResume (s : DriverState) (output : Option ℕ) : MessageOutcome :=
  genericRequest s .requestResume output fun s => setMonitoringEnabled s 1

/-- Case `RsUpdateConfig`. -/
def updateConfig (s : DriverState) (bytes : List UInt8) (output : Option ℕ) : MessageOutcome :=
  if bytes.length < sizeofRequestUpdateConfig then invalidParameter s
  else
    genericRequest s .updateConfig output fun s =>
      rsApplyConfig s (readUlong bytes 16) (readUlong bytes 20) (bytes.getD 24 0)

/-- Case `RsClearAllowlist`. -/
def clearAllowlist (s : DriverState) (output : Option ℕ) : MessageOutcome :=
  genericRequest s .clearAllowlist output rsClearDynamicAllowlist

/-- The characters of the entry at an offset up to its NUL, at most `n` of them. -/
def scanEntry (bytes : List UInt8) : ℕ → ℕ → List UInt16
  | 0, _ => []
  | n + 1, offset =>
    let c := readWchar bytes offset
    if c = 0 then [] else c :: scanEntry bytes n (offset + 2)

/-- The loop that adds `entryCount` entries, the first one at offset `base`. -/
def addEntries (bytes : List UInt8) (base entryCount : ℕ) (s : DriverState) : DriverState :=
  (List.range entryCount).foldl
    (fun s i => rsAddDynamicAllowlistEntry s
      (scanEntry bytes (rsMaxAllowlistNameLen - 1) (base + 520 * i)))
    s

/-- The cases that add allowlist entries: the request has `size` bytes, at most `maxEntries`
entries, their count at offset `countOffset` and the entries behind it. -/
def allowlistRequest (s : DriverState) (messageType : RsMessageType)
    (size maxEntries countOffset : ℕ) (bytes : List UInt8) (output : Option ℕ) :
    MessageOutcome :=
  if bytes.length < size then invalidParameter s
  else
    withOutputBuffer s output sizeofReplyGeneric
      (let entryCount := (readUlong bytes countOffset).toNat
       -- the buffer is checked before the number of entries
       if maxEntries < entryCount then invalidParameter s
       else genericRequest s messageType output (addEntries bytes (countOffset + 4) entryCount))

/-- Case `RsUpdateAllowlistChunk`. -/
def updateAllowlistChunk (s : DriverState) (bytes : List UInt8) (output : Option ℕ) :
    MessageOutcome :=
  allowlistRequest s .updateAllowlistChunk sizeofRequestUpdateAllowlistChunk rsMaxAllowlistChunk 24
    bytes output

/-- Case `RsUpdateAllowlistFull`. -/
def updateAllowlistFull (s : DriverState) (bytes : List UInt8) (output : Option ℕ) :
    MessageOutcome :=
  allowlistRequest s .updateAllowlistFull sizeofRequestUpdateAllowlistFull rsMaxAllowlistEntries 16
    bytes output

/-- `RsMessageNotifyCallback`.  The input is `none` for a `NULL` buffer. -/
def rsMessageNotifyCallback (s : DriverState) (input : Option (List UInt8)) (output : Option ℕ) :
    MessageOutcome :=
  match input with
  | none => invalidParameter s
  | some bytes =>
    if bytes.length < sizeofMessageHeader then invalidParameter s
    else if bytes.length < (readUlong bytes 4).toNat then invalidParameter s
    else
      match requestType bytes with
      | some .queryBlockedPids => queryBlockedPids s output
      | some .requestUnblockPid => requestUnblockPid s bytes output
      | some .queryConfig => queryConfig s output
      | some .queryAllowlist => queryAllowlist s output
      | some .requestPause => requestPause s output
      | some .requestResume => requestResume s output
      | some .updateConfig => updateConfig s bytes output
      | some .clearAllowlist => clearAllowlist s output
      | some .updateAllowlistChunk => updateAllowlistChunk s bytes output
      | some .updateAllowlistFull => updateAllowlistFull s bytes output
      -- the default case: unknown types, and those that only the driver sends
      | _ => invalidParameter s

end RansomShield
