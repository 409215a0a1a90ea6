import RansomShield.Buffers.Wire

/-!
# Notifications as they arrive

`RsSendBlockNotification` fills in a record on its stack (`notificationBytes`), the filter manager
puts its own header in front of it (`filterGetMessage`), and the listener of the client hands the
bytes behind that header to a callback (`appData`), always with the size of the largest
notification.  `ListenerCallback` of the tray agent and `EventLogger::HandleNotification` look at
the type, and at the size that the record of this type has.

Neither reads anything beyond the data (`listenerCallback_congr`, `handleNotification_congr`), a
notification arrives as it was sent (`listenerCallback_filterGetMessage`), and the two callbacks
agree about it (`handleNotification_of_listenerCallback`).
-/

namespace RansomShield

/-- `sizeof(RS_NOTIFICATION_CONFIG_UPDATED)`. -/
def sizeofNotificationConfigUpdated : ℕ := 28

/-- `sizeof(RS_NOTIFICATION_ALLOWLIST_UPDATED)`. -/
def sizeofNotificationAllowlistUpdated : ℕ := 20

/-- `sizeof(FILTER_MESSAGE_HEADER)`. -/
def sizeofFilterMessageHeader : ℕ := 16

namespace Buffered

/-! ### Sending -/

/-- What `RsSendBlockNotification` stores into `notification`. -/
def notificationFields (n : RsNotificationBlockedPid) : List (Store UInt8) :=
  zeroMemory sizeofNotificationBlockedPid :: [ulongField 8 n.header.sequenceNumber,
    ulongField 0 n.header.messageType.code, ulongField 4 (UInt32.ofNat n.header.messageSize),
    ulongField 12 n.header.protocolVersion, ulongField 16 n.processId,
    longlongField 544 n.blockedTimestamp, ulongField 552 n.operationCount,
    wcharArray 20 n.imageName]

/-- The bytes that `FltSendMessage` is given, for what the stack held before. -/
def notificationBytes (n : RsNotificationBlockedPid) (stack : Memory) : List UInt8 :=
  (List.range sizeofNotificationBlockedPid).map (stores (notificationFields n) stack)

/-! ### Receiving -/

/-- The buffer of the listener: cleared, and filled in by the filter manager. -/
def filterGetMessage (header message : List UInt8) (buffer : Memory) : Memory :=
  stores [zeroMemory (sizeofFilterMessageHeader + sizeofNotificationBlockedPid), ⟨0, header⟩,
    ⟨sizeofFilterMessageHeader, message⟩] buffer

/-- `buffer + sizeof(FILTER_MESSAGE_HEADER)`. -/
def appData (buffer : Memory) : Memory := fun i => buffer (sizeofFilterMessageHeader + i)

/-- `appDataSize`. -/
def appDataSize : ℕ := sizeofNotificationBlockedPid

/-- What a callback makes of a message. -/
inductive ListenerEvent
  | blockedPid (processId : UInt32) (imageName : Fin rsMaxImageNameLen → UInt16)
      (operationCount : UInt32)
  | configUpdated (fileCountThreshold timeWindowSeconds : UInt32) (monitoringEnabled : UInt8)
  | allowlistUpdated (entryCount : UInt32)
  | unknown (messageType : UInt32) (dataSize : ℕ)
  deriving DecidableEq

/-- `RS_NOTIFICATION_BLOCKED_PID`. -/
def readBlockedPid (data : Memory) : ListenerEvent :=
  .blockedPid (ulong data 16) (wchars data rsMaxImageNameLen 20) (ulong data 552)

/-- `RS_NOTIFICATION_CONFIG_UPDATED`. -/
def readConfigUpdated (data : Memory) : ListenerEvent :=
  .configUpdated (ulong data 16) (ulong data 20) (data 24)

/-- `ListenerCallback` of the tray agent. -/
def listenerCallback (data : Memory) (dataSize : ℕ) : Option ListenerEvent :=
  if dataSize < sizeofMessageHeader then none
  else if ulong data 0 = RsMessageType.notifyBlockedPid.code ∧
      sizeofNotificationBlockedPid ≤ dataSize then some (readBlockedPid data)
  else if ulong data 0 = RsMessageType.notifyConfigUpdated.code ∧
      sizeofNotificationConfigUpdated ≤ dataSize then some (readConfigUpdated data)
  else none

/-- `EventLogger::HandleNotification`. -/
def handleNotification (data : Memory) (dataSize : ℕ) : Option ListenerEvent :=
  if dataSize < sizeofMessageHeader then none
  else if ulong data 0 = RsMessageType.notifyBlockedPid.code then
    if sizeofNotificationBlockedPid ≤ dataSize then some (readBlockedPid data) else none
  else if ulong data 0 = RsMessageType.notifyConfigUpdated.code then
    if sizeofNotificationConfigUpdated ≤ dataSize then some (readConfigUpdated data) else none
  else if ulong data 0 = RsMessageType.notifyAllowlistUpdated.code then
    if sizeofNotificationAllowlistUpdated ≤ dataSize then some (.allowlistUpdated (ulong data 16))
    else none
  else some (.unknown (ulong data 0) dataSize)

/-! ### Bounds -/

section

variable {data data' : Memory} {dataSize : ℕ}

theorem ulong_congr {offset : ℕ} (h : ∀ i < dataSize, data' i = data i)
    (hoffset : offset + 4 ≤ dataSize) : ulong data' offset = ulong data offset := by
  unfold ulong
  rw [h offset (by omega), h (offset + 1) (by omega), h (offset + 2) (by omega),
    h (offset + 3) (by omega)]

theorem readBlockedPid_congr (h : ∀ i < dataSize, data' i = data i)
    (hsize : sizeofNotificationBlockedPid ≤ dataSize) :
    readBlockedPid data' = readBlockedPid data := by
  have hsize' : 560 ≤ dataSize := hsize
  have hname : wchars data' rsMaxImageNameLen 20 = wchars data rsMaxImageNameLen 20 := by
    funext i
    have hi : i.val < 260 := i.isLt
    unfold wchars wchar
    rw [h (20 + 2 * i.val) (by omega), h (20 + 2 * i.val + 1) (by omega)]
  unfold readBlockedPid
  rw [hname, ulong_congr h (by omega), ulong_congr h (by omega)]

theorem readConfigUpdated_congr (h : ∀ i < dataSize, data' i = data i)
    (hsize : sizeofNotificationConfigUpdated ≤ dataSize) :
    readConfigUpdated data' = readConfigUpdated data := by
  have hsize' : 28 ≤ dataSize := hsize
  unfold readConfigUpdated
  rw [ulong_congr h (by omega), ulong_congr h (by omega), h 24 (by omega)]

/-- **The tray agent reads nothing beyond the data.** -/
theorem listenerCallback_congr (h : ∀ i < dataSize, data' i = data i) :
    listenerCallback data' dataSize = listenerCallback data dataSize := by
  unfold listenerCallback
  by_cases hn : dataSize < sizeofMessageHeader
  · rw [if_pos hn, if_pos hn]
  · have hsize : 16 ≤ dataSize := not_lt.1 hn
    have htype : ulong data' 0 = ulong data 0 := ulong_congr h (by omega)
    rw [if_neg hn, if_neg hn, htype]
    split_ifs with hblocked hconfig
    · rw [readBlockedPid_congr h hblocked.2]
    · rw [readConfigUpdated_congr h hconfig.2]
    · rfl

/-- **The event logger reads nothing beyond the data.** -/
theorem handleNotification_congr (h : ∀ i < dataSize, data' i = data i) :
    handleNotification data' dataSize = handleNotification data dataSize := by
  unfold handleNotification
  by_cases hn : dataSize < sizeofMessageHeader
  · rw [if_pos hn, if_pos hn]
  · have hsize : 16 ≤ dataSize := not_lt.1 hn
    have htype : ulong data' 0 = ulong data 0 := ulong_congr h (by omega)
    rw [if_neg hn, if_neg hn, htype]
    split_ifs with _ hblocked _ hconfig _ hallowlist
    · rw [readBlockedPid_congr h hblocked]
    · rfl
    · rw [readConfigUpdated_congr h hconfig]
    · rfl
    · have hsize' : 20 ≤ dataSize := hallowlist
      have hcount : ulong data' 16 = ulong data 16 := ulong_congr h (by omega)
      rw [hcount]
    · rfl
    · rfl

/-! ### The callbacks -/

/-- **What the tray agent reacts to, the event logger understands in the same way.** -/
theorem handleNotification_of_listenerCallback {event : ListenerEvent}
    (h : listenerCallback data dataSize = some event) :
    handleNotification data dataSize = some event := by
  unfold listenerCallback at h
  unfold handleNotification
  split_ifs at h with hn hblocked hconfig
  · cases h
    rw [if_neg hn, if_pos hblocked.1, if_pos hblocked.2]
  · cases h
    have hne : ulong data 0 ≠ RsMessageType.notifyBlockedPid.code := by
      rw [hconfig.1]
      decide
    rw [if_neg hn, if_neg hne, if_pos hconfig.1, if_pos hconfig.2]

end

/-! ### Round trip -/

theorem pairwise_notificationFields (n : RsNotificationBlockedPid) :
    (notificationFields n).tail.Pairwise Store.Disjoint := by
  simp [notificationFields, Store.Disjoint, rsMaxImageNameLen]

theorem holds_notificationFields (n : RsNotificationBlockedPid) (stack : Memory)
    {w : Store UInt8} (hw : w ∈ (notificationFields n).tail) :
    w.Holds (stores (notificationFields n) stack) :=
  holds_stores (pairwise_notificationFields n) hw _

/-- What the callback gets of a message that has the size of the largest notification. -/
theorem appData_filterGetMessage {header message : List UInt8}
    (hheader : header.length = sizeofFilterMessageHeader) (buffer : Memory) {i : ℕ}
    (hi : i < message.length) :
    appData (filterGetMessage header message buffer) i = message[i] := by
  have hdisjoint : ([⟨0, header⟩, ⟨sizeofFilterMessageHeader, message⟩] :
      List (Store UInt8)).Pairwise Store.Disjoint := by
    simp [Store.Disjoint, hheader]
  exact holds_stores hdisjoint (w := ⟨sizeofFilterMessageHeader, message⟩) (by simp) _ i hi

/-- **A notification arrives as it was sent**, whatever was on the stack of the driver and in the
buffer of the listener, and whatever header the filter manager adds. -/
theorem listenerCallback_filterGetMessage {n : RsNotificationBlockedPid}
    (htype : n.header.messageType = .notifyBlockedPid) {header : List UInt8}
    (hheader : header.length = sizeofFilterMessageHeader) (stack buffer : Memory) :
    listenerCallback (appData (filterGetMessage header (notificationBytes n stack) buffer))
        appDataSize =
      some (.blockedPid n.processId n.imageName n.operationCount) := by
  have hlen : (notificationBytes n stack).length = appDataSize := by
    rw [notificationBytes, List.length_map, List.length_range]
    rfl
  have hbytes : ∀ i < appDataSize,
      appData (filterGetMessage header (notificationBytes n stack) buffer) i =
        stores (notificationFields n) stack i := by
    intro i hi
    rw [appData_filterGetMessage hheader buffer (hlen ▸ hi)]
    simp only [notificationBytes, List.getElem_map, List.getElem_range]
  have hholds := fun (w : Store UInt8) => holds_notificationFields n stack (w := w)
  rw [listenerCallback_congr hbytes, listenerCallback,
    ulong_of_holds (hholds (ulongField 0 n.header.messageType.code) (by simp [notificationFields])),
    htype, if_neg (by decide), if_pos ⟨rfl, le_rfl⟩, readBlockedPid,
    ulong_of_holds (hholds (ulongField 16 n.processId) (by simp [notificationFields])),
    ulong_of_holds (hholds (ulongField 552 n.operationCount) (by simp [notificationFields])),
    wchars_of_holds (hholds (wcharArray 20 n.imageName) (by simp [notificationFields]))]

end Buffered

end RansomShield
