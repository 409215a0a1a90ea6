import RansomShield.Client.EventTexts
import RansomShield.Guarantees.ImageNames

/-!
# Bytes from the port

The listener of the client gets bytes, and believes the type in their header.  A notification of the
driver arrives as it was sent, from the fields of the driver to the alert and the log
(`notification_on_the_wire`).  Any other bytes do no harm either: nothing is read beyond the data,
and the process goes on, with at most one more line in its log, unless an image name without a
terminator is to be formatted (`any_bytes_logged_iff`).
-/

namespace RansomShield

open Buffered (ListenerEvent listenerCallback appData filterGetMessage notificationBytes
  appDataSize)

variable {data : Memory} {dataSize : ℕ}

/-- The data is a block notification whose image name has no terminator. -/
def unterminatedName (data : Memory) (dataSize : ℕ) : Bool :=
  decide (Buffered.ulong data 0 = RsMessageType.notifyBlockedPid.code) &&
    decide (sizeofNotificationBlockedPid ≤ dataSize) &&
    !(List.ofFn (Buffered.wchars data rsMaxImageNameLen 20)).contains 0

/-! ### Any bytes -/

theorem eventText_blockedPid {imageName : Fin rsMaxImageNameLen → UInt16}
    (h : 0 ∈ List.ofFn imageName) (processId operationCount : UInt32) :
    eventText (.blockedPid processId imageName operationCount) =
      some (wide "ALERT", detectedText processId (some (wcs imageName)) operationCount) := by
  rw [eventText, terminatedString, if_pos h]
  rfl

theorem dataSize_of_unknown {messageType : UInt32} {size : ℕ}
    (h : Buffered.handleNotification data dataSize = some (.unknown messageType size)) :
    size = dataSize := by
  unfold Buffered.handleNotification at h
  split_ifs at h <;> cases h
  rfl

/-- **A message is formatted unless its image name has no terminator.** -/
theorem eventText_eq_none_iff :
    (∃ event, Buffered.handleNotification data dataSize = some event ∧ eventText event = none) ↔
      unterminatedName data dataSize = true := by
  have hmax : sizeofMessageHeader ≤ sizeofNotificationBlockedPid := by decide
  simp only [unterminatedName, Bool.and_eq_true, decide_eq_true_eq, Bool.not_eq_true',
    List.contains_eq_mem, decide_eq_false_iff_not]
  constructor
  · rintro ⟨event, hevent, hnone⟩
    unfold Buffered.handleNotification at hevent
    split_ifs at hevent with hn htype hsize
    · cases hevent
      refine ⟨⟨htype, hsize⟩, fun hmem => ?_⟩
      rw [Buffered.readBlockedPid, eventText_blockedPid hmem] at hnone
      cases hnone
    all_goals
      cases hevent
      cases hnone
  · rintro ⟨⟨htype, hsize⟩, hname⟩
    refine ⟨Buffered.readBlockedPid data, ?_, ?_⟩
    · rw [Buffered.handleNotification, if_neg (not_lt.2 (hmax.trans hsize)), if_pos htype,
        if_pos hsize]
    · rw [Buffered.readBlockedPid, eventText, terminatedString, if_neg hname]
      rfl

theorem handleNotification_cases (data : Memory) (logger : EventLogger) (st : SystemTime)
    (hsize : dataSize < 2 ^ 32) :
    (unterminatedName data dataSize = false ∧
      (logger.handleNotification st (some data) dataSize = some logger ∨
        ∃ level text, text.length < 512 ∧ (logLine st level text).length < 2048 ∧
          logger.handleNotification st (some data) dataSize =
            some (logger.withLine st level text))) ∨
    unterminatedName data dataSize = true ∧
      logger.handleNotification st (some data) dataSize = none := by
  rw [EventLogger.handleNotification, Option.bind_some]
  cases hevent : Buffered.handleNotification data dataSize with
  | none =>
    refine .inl ⟨?_, .inl rfl⟩
    rw [← Bool.not_eq_true, ← eventText_eq_none_iff]
    rintro ⟨event, hsome, -⟩
    cases hevent.symm.trans hsome
  | some event =>
    cases htext : eventText event with
    | none =>
      exact .inr ⟨eventText_eq_none_iff.1 ⟨event, hevent, htext⟩,
        EventLogger.logEvent_eq_none htext⟩
    | some levelText =>
      obtain ⟨level, text⟩ := levelText
      have hlog : text.length < 512 ∧
          logger.logEvent st event = some (logger.withLine st level text) :=
        EventLogger.logEvent_eq htext fun messageType size hunknown => by
          subst hunknown
          rw [dataSize_of_unknown hevent]
          exact hsize
      have hline : (logLine st level text).length ≤ text.length + 52 :=
        length_logLine_le st (length_level_le htext)
      refine .inl ⟨?_, .inr ⟨level, text, hlog.1, by have := hlog.1; omega, hlog.2⟩⟩
      rw [← Bool.not_eq_true, ← eventText_eq_none_iff]
      rintro ⟨event', hsome, hnone⟩
      cases hevent.symm.trans hsome
      cases htext.symm.trans hnone

/-- **Any bytes are logged**, except an image name without a terminator: for every data and every
state of the logger, `HandleNotification` returns unless the data is a block notification whose
image name goes on behind the end of the array; when it returns, the log is as before, or has one
more line, whose text and line fit their buffers; and bytes beyond the data do not matter. -/
theorem any_bytes_logged_iff (logger : EventLogger) (st : SystemTime) (data : Memory)
    (dataSize : ℕ) (hsize : dataSize < 2 ^ 32) :
    ((logger.handleNotification st (some data) dataSize).isSome = true ↔
      unterminatedName data dataSize = false) ∧
    (∀ logger', logger.handleNotification st (some data) dataSize = some logger' →
      logger' = logger ∨ ∃ level text, text.length < 512 ∧ (logLine st level text).length < 2048 ∧
        logger' = logger.withLine st level text) ∧
    ∀ data', (∀ i < dataSize, data' i = data i) →
      logger.handleNotification st (some data') dataSize =
        logger.handleNotification st (some data) dataSize := by
  refine ⟨?_, ?_, fun data' hdata => ?_⟩
  · rcases handleNotification_cases data logger st hsize with
      ⟨hname, h | ⟨level, text, -, -, h⟩⟩ | ⟨hname, h⟩ <;> simp [h, hname]
  · intro logger' hlogger'
    rcases handleNotification_cases data logger st hsize with
      ⟨-, h | ⟨level, text, htext, hline, h⟩⟩ | ⟨-, h⟩
    · exact .inl (Option.some.inj (hlogger'.symm.trans h))
    · exact .inr ⟨level, text, htext, hline, Option.some.inj (hlogger'.symm.trans h)⟩
    · cases hlogger'.symm.trans h
  · unfold EventLogger.handleNotification
    rw [Option.bind_some, Option.bind_some, Buffered.handleNotification_congr hdata]

/-- Data that is all zeros has an unknown type. -/
theorem any_bytes_logged_iff_zeros :
    ((EventLogger.handleNotification ⟨true, true, [], []⟩ ⟨2026, 1, 2, 3, 4, 5⟩
      (some fun _ => 0) 560).isSome = true ↔ unterminatedName (fun _ => 0) 560 = false) ∧
      unterminatedName (fun _ => 0) 560 = false :=
  ⟨(any_bytes_logged_iff ⟨true, true, [], []⟩ ⟨2026, 1, 2, 3, 4, 5⟩ (fun _ => 0) 560
    (by decide)).1, by decide⟩

/-! ### A notification of the driver -/

/-- **A notification arrives as it was sent**, whatever was on the stack of the driver and in the
buffer of the listener, and whatever header the filter manager adds: both callbacks read the
process, the name and the count that the driver has put in.  If the name is that of an image path,
the alert is logged. -/
theorem notification_on_the_wire (n : BlockNotification) (sequenceNumber : UInt32)
    (header : List UInt8) (hheader : header.length = sizeofFilterMessageHeader)
    (stack buffer : Memory) :
    let data := appData (filterGetMessage header
      (notificationBytes (n.message sequenceNumber) stack) buffer)
    listenerCallback data appDataSize =
      some (.blockedPid n.processId n.imageName n.operationCount) ∧
    Buffered.handleNotification data appDataSize =
      some (.blockedPid n.processId n.imageName n.operationCount) ∧
    ∀ path, HoldsPath n.imageName path → ∀ (logger : EventLogger) (st : SystemTime),
      logger.handleNotification st (some data) appDataSize =
        some (logger.withLine st (wide "ALERT") (alertText (n.message sequenceNumber))) := by
  intro data
  have hevent : listenerCallback data appDataSize =
      some (.blockedPid n.processId n.imageName n.operationCount) :=
    Buffered.listenerCallback_filterGetMessage rfl hheader stack buffer
  have hevent' := Buffered.handleNotification_of_listenerCallback hevent
  refine ⟨hevent, hevent', ?_⟩
  intro path hpath logger st
  rw [EventLogger.handleNotification, Option.bind_some, hevent']
  exact (EventLogger.logEvent_eq (eventText_blockedPid hpath.zero_mem _ _) (by simp)).2

/-- The notification of a process without an image path. -/
theorem notification_on_the_wire_unnamed :
    listenerCallback (appData (filterGetMessage (List.replicate 16 7)
      (notificationBytes (BlockNotification.message ⟨8, fun _ => 0, 5, 1⟩ 3) fun _ => 255)
        fun _ => 9)) appDataSize = some (.blockedPid 8 (fun _ => 0) 1) :=
  (notification_on_the_wire ⟨8, fun _ => 0, 5, 1⟩ 3 (List.replicate 16 7) (by decide)
    (fun _ => 255) fun _ => 9).1

end RansomShield
