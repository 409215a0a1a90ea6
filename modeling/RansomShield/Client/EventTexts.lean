import RansomShield.Buffers.Notification
import RansomShield.Client.EventLogger

/-!
# Messages in the log

What `usermode/common/EventLogger.cpp` writes about the messages of the driver
(`EventLogger.logEvent`), and `HandleNotification`, from the bytes to the log.  Every text goes
through a buffer of fixed size, with `swprintf_s` or `vswprintf_s`, which end the process where it
does not fit: a message of the driver adds one line if its strings are terminated
(`EventLogger.logEvent_eq`), while a name may be too long for the text about a change of the
allowlist (`EventLogger.logAllowlistChanged_eq`).
-/

namespace RansomShield

open Buffered (ListenerEvent)

/-! ### Texts -/

/-- `%d`. -/
def signedDecimal (n : UInt32) : List UInt16 :=
  if n.toNat < 2 ^ 31 then decimal n.toNat else wide "-" ++ decimal (2 ^ 32 - n.toNat)

/-- The message of `LogPidUnblocked`; `imageName` is `none` for `NULL`. -/
def unblockedText (pid : UInt32) (imageName : Option (List UInt16)) : List UInt16 :=
  wide "PID " ++ decimal pid.toNat ++ wide " (" ++ imageName.getD (wide "unknown") ++
    wide ") has been unblocked by administrator action. " ++
    wide "Write operations will be allowed."

/-- The message of `LogConfigChanged`. -/
def configText (threshold timeWindow : UInt32) (monitoringEnabled : Bool) : List UInt16 :=
  wide "Configuration updated: Threshold=" ++ decimal threshold.toNat ++
    wide " files, TimeWindow=" ++ decimal timeWindow.toNat ++ wide " seconds, Monitoring=" ++
    if monitoringEnabled then wide "Enabled" else wide "Disabled"

/-- The message of `LogAllowlistChanged`. -/
def allowlistText (action imageName : List UInt16) : List UInt16 :=
  wide "Allowlist " ++ action ++ wide ": " ++ imageName

/-- The message about a new allowlist of the driver. -/
def entriesText (entryCount : UInt32) : List UInt16 :=
  wide "Driver allowlist updated: " ++ decimal entryCount.toNat ++ wide " entries"

/-- The message about a notification of another type. -/
def unknownText (messageType : UInt32) (dataSize : ℕ) : List UInt16 :=
  wide "Unknown notification type: " ++ signedDecimal messageType ++ wide " (size=" ++
    decimal dataSize ++ wide ")"

/-! ### Lengths -/

theorem length_signedDecimal_le (n : UInt32) : (signedDecimal n).length ≤ 11 := by
  unfold signedDecimal
  split_ifs with h
  · exact (length_decimal_ulong_le n).trans (by decide)
  · have hlt : 2 ^ 32 - n.toNat < 10 ^ 10 := (Nat.sub_le _ _).trans_lt (by decide)
    have hle := length_decimal_le (by decide) hlt
    have hsign : (wide "-").length = 1 := by decide
    rw [List.length_append]
    omega

theorem length_unblockedText_lt (pid : UInt32) {imageName : Option (List UInt16)}
    (hname : ∀ name ∈ imageName, name.length < rsMaxImageNameLen) :
    (unblockedText pid imageName).length < 512 := by
  have hpid := length_decimal_ulong_le pid
  have hlength := length_getD_unknown_lt hname
  have htexts : (wide "PID ").length + (wide " (").length +
      (wide ") has been unblocked by administrator action. ").length +
      (wide "Write operations will be allowed.").length = 85 := by decide
  have hmax : rsMaxImageNameLen = 260 := rfl
  simp only [unblockedText, List.length_append]
  omega

theorem length_allowlistText (action imageName : List UInt16) :
    (allowlistText action imageName).length = action.length + imageName.length + 12 := by
  have htexts : (wide "Allowlist ").length = 10 ∧ (wide ": ").length = 2 := by decide
  simp only [allowlistText, List.length_append]
  omega

theorem length_configText_lt (threshold timeWindow : UInt32) (monitoringEnabled : Bool) :
    (configText threshold timeWindow monitoringEnabled).length < 512 := by
  have hthreshold := length_decimal_ulong_le threshold
  have hwindow := length_decimal_ulong_le timeWindow
  have hmonitoring :
      (if monitoringEnabled then wide "Enabled" else wide "Disabled").length ≤ 8 := by
    cases monitoringEnabled <;> decide
  have htexts : (wide "Configuration updated: Threshold=").length +
      (wide " files, TimeWindow=").length + (wide " seconds, Monitoring=").length = 73 := by
    decide
  simp only [configText, List.length_append]
  omega

theorem length_entriesText_lt (entryCount : UInt32) : (entriesText entryCount).length < 512 := by
  have hcount := length_decimal_ulong_le entryCount
  have htexts : (wide "Driver allowlist updated: ").length + (wide " entries").length = 34 := by
    decide
  simp only [entriesText, List.length_append]
  omega

theorem length_unknownText_lt (messageType : UInt32) {dataSize : ℕ} (hsize : dataSize < 2 ^ 32) :
    (unknownText messageType dataSize).length < 512 := by
  have htype := length_signedDecimal_le messageType
  have hdigits := length_decimal_le (k := 10) (by decide)
    (hsize.trans (by decide : 2 ^ 32 < 10 ^ 10))
  have htexts : (wide "Unknown notification type: ").length + (wide " (size=").length +
      (wide ")").length = 35 := by decide
  simp only [unknownText, List.length_append]
  omega

/-! ### Messages -/

/-- What is written about a message: the level and the text. -/
def eventText : ListenerEvent → Option (List UInt16 × List UInt16)
  | .blockedPid processId imageName operationCount =>
    (terminatedString imageName).map fun name =>
      (wide "ALERT", detectedText processId (some name) operationCount)
  | .configUpdated threshold timeWindow monitoringEnabled =>
    some (wide "CONFIG", configText threshold timeWindow (decide (monitoringEnabled ≠ 0)))
  | .allowlistUpdated entryCount => some (wide "INFO", entriesText entryCount)
  | .unknown messageType dataSize => some (wide "WARN", unknownText messageType dataSize)

namespace EventLogger

variable (logger : EventLogger) (st : SystemTime)

/-- `LogPidUnblocked`. -/
def logPidUnblocked (pid : UInt32) (imageName : Option (List UInt16)) : Option EventLogger :=
  logger.writeMessage st 512 (wide "INFO") (unblockedText pid imageName)

/-- `LogConfigChanged`. -/
def logConfigChanged (threshold timeWindow : UInt32) (monitoringEnabled : Bool) :
    Option EventLogger :=
  logger.writeMessage st 512 (wide "CONFIG") (configText threshold timeWindow monitoringEnabled)

/-- `LogAllowlistChanged`. -/
def logAllowlistChanged (action imageName : List UInt16) : Option EventLogger :=
  logger.writeMessage st 512 (wide "CONFIG") (allowlistText action imageName)

/-- `LogInfo`, with the formatted text. -/
def logInfo (text : List UInt16) : Option EventLogger :=
  logger.writeMessage st 1024 (wide "INFO") text

/-- `LogWarning`, with the formatted text. -/
def logWarning (text : List UInt16) : Option EventLogger :=
  logger.writeMessage st 1024 (wide "WARN") text

/-- What is written about a message, `none` when the process ends, or reads behind the end of an
array. -/
def logEvent : ListenerEvent → Option EventLogger
  | .blockedPid processId imageName operationCount =>
    (terminatedString imageName).bind fun name =>
      logger.logRansomwareDetected st processId (some name) operationCount
  | .configUpdated threshold timeWindow monitoringEnabled =>
    logger.logConfigChanged st threshold timeWindow (decide (monitoringEnabled ≠ 0))
  | .allowlistUpdated entryCount => logger.logInfo st (entriesText entryCount)
  | .unknown messageType dataSize => logger.logWarning st (unknownText messageType dataSize)

/-- `HandleNotification`.  The data is `none` for a `NULL` pointer. -/
def handleNotification (data : Option Memory) (dataSize : ℕ) : Option EventLogger :=
  match data.bind fun data => Buffered.handleNotification data dataSize with
  | none => some logger
  | some event => logger.logEvent st event

variable {logger st}

/-- **An unblocked process is logged**, whose name is at most 259 characters long. -/
theorem logPidUnblocked_of_lt {pid : UInt32} {imageName : Option (List UInt16)}
    (hname : ∀ name ∈ imageName, name.length < rsMaxImageNameLen) :
    logger.logPidUnblocked st pid imageName =
      some (logger.withLine st (wide "INFO") (unblockedText pid imageName)) :=
  writeMessage_of_lt (by decide) (length_unblockedText_lt pid hname) (by decide)

/-- **A change of the allowlist ends the process** when the name is too long for the text. -/
theorem logAllowlistChanged_eq (action imageName : List UInt16) :
    logger.logAllowlistChanged st action imageName =
      if action.length + imageName.length < 500 then
        some (logger.withLine st (wide "CONFIG") (allowlistText action imageName))
      else none := by
  have hlength := length_allowlistText action imageName
  rw [logAllowlistChanged, writeMessage_eq (by decide) (by decide)]
  exact if_congr (by omega) rfl rfl

/-- **A message with terminated strings adds one line.** -/
theorem logEvent_eq {event : ListenerEvent} {level text : List UInt16}
    (hevent : eventText event = some (level, text))
    (hsize : ∀ messageType dataSize, event = .unknown messageType dataSize → dataSize < 2 ^ 32) :
    text.length < 512 ∧ logger.logEvent st event = some (logger.withLine st level text) := by
  cases event with
  | blockedPid processId imageName operationCount =>
    obtain ⟨name, hname, htext⟩ := Option.map_eq_some_iff.1 hevent
    cases htext
    have hlt := @length_detectedText_lt processId (some name) operationCount
      (by rintro _ ⟨⟩; exact length_of_terminatedString hname)
    refine ⟨hlt, ?_⟩
    rw [logEvent, hname, Option.bind_some]
    exact writeMessage_of_lt (by decide) hlt (by decide)
  | configUpdated threshold timeWindow monitoringEnabled =>
    cases hevent
    have hlt := length_configText_lt threshold timeWindow (decide (monitoringEnabled ≠ 0))
    exact ⟨hlt, writeMessage_of_lt (by decide) hlt (by decide)⟩
  | allowlistUpdated entryCount =>
    cases hevent
    have hlt := length_entriesText_lt entryCount
    exact ⟨hlt, writeMessage_of_lt (by decide) (hlt.trans (by decide)) (by decide)⟩
  | unknown messageType dataSize =>
    cases hevent
    have hlt := length_unknownText_lt messageType (hsize messageType dataSize rfl)
    exact ⟨hlt, writeMessage_of_lt (by decide) (hlt.trans (by decide)) (by decide)⟩

/-- A string without a terminator is not written. -/
theorem logEvent_eq_none {event : ListenerEvent} (hevent : eventText event = none) :
    logger.logEvent st event = none := by
  cases event with
  | blockedPid processId imageName operationCount =>
    rw [logEvent, Option.map_eq_none_iff.1 hevent, Option.bind_none]
  | _ => cases hevent

end EventLogger

theorem length_level_le {event : ListenerEvent} {level text : List UInt16}
    (h : eventText event = some (level, text)) : level.length ≤ 6 := by
  cases event with
  | blockedPid processId imageName operationCount =>
    obtain ⟨name, -, htext⟩ := Option.map_eq_some_iff.1 h
    cases htext
    decide
  | _ => cases h; decide

end RansomShield
