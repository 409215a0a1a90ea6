import RansomShield.Buffers.Notification
import RansomShield.Client.Session

/-!
# The client in a header

The functions of `usermode/cli/RansomShieldClient.h`, for programs that do without `CommManager`.
Their requests are zeroed before the header is filled in, so that they carry neither a sequence
number nor a protocol version, and the structures of the caller are handed to the filter manager as
they are (`filterSendMessage`).  A notification still arrives with all its fields
(`readNotification_get`).
-/

namespace RansomShield

open Buffered (readHeader ulong longlong wchars ofBytes notificationFields notificationBytes
  ulongField longlongField wcharArray)

/-! ### Requests -/

/-- `FilterSendMessage`: what becomes of the driver, the result, and the reply structure. -/
def filterSendMessage (delivery : Delivery) (driver : Option DriverState) (request : List UInt8)
    (reply : Memory) (replySize : ℕ) : Option DriverState × HResult × Memory :=
  match driver with
  | none => (none, delivery.code.1, reply)
  | some s =>
    let o := Buffered.rsMessageNotifyCallback s (some (ofBytes request)) request.length (some reply)
      replySize
    if delivery.succeeds then (some o.state, .ofStatus o.status, stores o.writes reply)
    else (some (if delivery.handled then o.state else s), delivery.code.1, reply)

/-- The header of a request that was zeroed. -/
def zeroedHeader (messageType : RsMessageType) (messageSize : ℕ) : List UInt8 :=
  ulongBytes messageType.code ++ (ulongBytes (UInt32.ofNat messageSize) ++
    (ulongBytes 0 ++ ulongBytes 0))

/-- `RansomShieldQueryBlockedPids`. -/
def ransomShieldQueryBlockedPids (delivery : Delivery) (driver : Option DriverState)
    (reply : Memory) : Option DriverState × HResult × Memory :=
  filterSendMessage delivery driver (zeroedHeader .queryBlockedPids sizeofMessageHeader) reply
    sizeofReplyBlockedPids

/-- `RansomShieldUnblockPid`: the reply stays on the stack. -/
def ransomShieldUnblockPid (delivery : Delivery) (driver : Option DriverState)
    (processId : UInt32) (stack : Memory) : Option DriverState × HResult :=
  let (driver, hr, _) := filterSendMessage delivery driver
    (zeroedHeader .requestUnblockPid sizeofRequestUnblockPid ++ ulongBytes processId) stack
    sizeofReplyUnblockPid
  (driver, hr)

/-! ### Notifications -/

/-- `RansomShieldGetNotification`, when `FilterGetMessage` succeeds: the buffer is not cleared, and
as many bytes as the record has are copied from behind the header. -/
def ransomShieldGetNotification (header message : List UInt8) (stack notification : Memory) :
    Memory :=
  let buffer := stores [⟨0, header⟩, ⟨sizeofFilterMessageHeader, message⟩] stack
  stores [⟨0, (List.range sizeofNotificationBlockedPid).map fun i =>
    buffer (sizeofFilterMessageHeader + i)⟩] notification

/-- The `RS_NOTIFICATION_BLOCKED_PID` in a memory. -/
def readNotification (m : Memory) : Option RsNotificationBlockedPid :=
  (readHeader m).map fun header =>
    { header := header
      processId := ulong m 16
      imageName := wchars m rsMaxImageNameLen 20
      blockedTimestamp := longlong m 544
      operationCount := ulong m 552 }

theorem ransomShieldGetNotification_getElem {header message : List UInt8}
    (hheader : header.length = sizeofFilterMessageHeader)
    (hmessage : message.length = sizeofNotificationBlockedPid) (stack notification : Memory)
    {i : ℕ} (hi : i < message.length) :
    ransomShieldGetNotification header message stack notification i = message[i] := by
  have hdisjoint : ([⟨0, header⟩, ⟨sizeofFilterMessageHeader, message⟩] :
      List (Store UInt8)).Pairwise Store.Disjoint := by
    simp [Store.Disjoint, hheader]
  -- the filter manager puts the message behind its header, and the copy leaves the header out
  have hbuffer := holds_stores hdisjoint (w := ⟨sizeofFilterMessageHeader, message⟩) (by simp)
    stack i hi
  unfold ransomShieldGetNotification
  rw [← hmessage, stores_cons, stores, List.foldl_nil, Store.apply, if_pos (Nat.zero_le i),
    Nat.sub_zero, List.getD_eq_getElem _ _ (by rw [List.length_map, List.length_range]; exact hi),
    List.getElem_map, List.getElem_range]
  exact hbuffer

theorem ransomShieldGetNotification_apply (n : RsNotificationBlockedPid) {header : List UInt8}
    (hheader : header.length = sizeofFilterMessageHeader)
    (driverStack stack notification : Memory) {i : ℕ} (hi : i < sizeofNotificationBlockedPid) :
    ransomShieldGetNotification header (notificationBytes n driverStack) stack notification i =
      stores (notificationFields n) driverStack i := by
  have hlength : (notificationBytes n driverStack).length = sizeofNotificationBlockedPid := by
    rw [notificationBytes, List.length_map, List.length_range]
  rw [ransomShieldGetNotification_getElem hheader hlength stack notification (hlength ▸ hi)]
  simp only [notificationBytes, List.getElem_map, List.getElem_range]

/-- **A notification arrives with all its fields**, whatever was in the buffer, in the record and on
the stack of the driver. -/
theorem readNotification_get (n : BlockNotification) (sequenceNumber : UInt32)
    {header : List UInt8} (hheader : header.length = sizeofFilterMessageHeader)
    (driverStack stack notification : Memory) :
    readNotification (ransomShieldGetNotification header
        (notificationBytes (n.message sequenceNumber) driverStack) stack notification) =
      some (n.message sequenceNumber) := by
  have hholds : ∀ w ∈ (notificationFields (n.message sequenceNumber)).tail,
      w.Holds (ransomShieldGetNotification header
        (notificationBytes (n.message sequenceNumber) driverStack) stack notification) := by
    intro w hw
    have hwithin : ∀ w ∈ (notificationFields (n.message sequenceNumber)).tail,
        w.Within 0 sizeofNotificationBlockedPid := by
      simp [notificationFields, Store.Within, rsMaxImageNameLen, sizeofNotificationBlockedPid]
    exact (Buffered.holds_notificationFields (n.message sequenceNumber) driverStack hw).congr
      (hwithin w hw) fun i _ hi =>
        ransomShieldGetNotification_apply _ hheader driverStack stack notification hi
  simp only [notificationFields, List.tail_cons, List.forall_mem_cons] at hholds
  obtain ⟨hsequence, htype, hsize, hversion, hprocess, htime, hcount, hname, -⟩ := hholds
  have hheader' := Buffered.readHeader_of_holds (t := .notifyBlockedPid)
    (show sizeofNotificationBlockedPid < 2 ^ 32 by decide) hsequence
    (by simp only [Buffered.headerFields, List.forall_mem_cons]
        exact ⟨htype, hsize, hversion, fun _ h => absurd h List.not_mem_nil⟩)
  rw [readNotification, hheader', Buffered.ulong_of_holds hprocess,
    Buffered.wchars_of_holds hname, Buffered.longlong_of_holds htime,
    Buffered.ulong_of_holds hcount]
  rfl

end RansomShield
