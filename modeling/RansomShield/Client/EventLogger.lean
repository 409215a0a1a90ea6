import RansomShield.Tracker.Slots

/-!
# The log

How `usermode/common/EventLogger.cpp` formats a message and its line in the log file, in buffers of
a fixed size, at the example of the alert about a blocked process.  Where a text does not fit with
its terminator, `swprintf_s` calls the invalid parameter handler, which ends the process
(`swprintfS`).  `ReportEventW` and `WriteFile` succeed.

The text of an alert with a name of at most 259 characters fits its buffer
(`length_detectedText_lt`), and a text that fits its own buffer always fits that of the line, so it
adds one line to the log (`EventLogger.writeMessage_eq`).
-/

namespace RansomShield

/-! ### Formats -/

/-- `%lu`, and `%d` for a number that is not negative. -/
def decimal (n : ℕ) : List UInt16 := (Nat.toDigits 10 n).map fun c => UInt16.ofNat c.toNat

/-- `%0*d`. -/
def zeroPadded (width n : ℕ) : List UInt16 :=
  List.replicate (width - (decimal n).length) 48 ++ decimal n

/-- `%-*s`. -/
def leftJustified (width : ℕ) (string : List UInt16) : List UInt16 :=
  string ++ List.replicate (width - string.length) 32

/-- `swprintf_s` with a buffer of `size` characters: `none` when the text does not fit with its
terminator. -/
def swprintfS (size : ℕ) (text : List UInt16) : Option (List UInt16) :=
  if text.length < size then some text else none

theorem length_decimal_le {n k : ℕ} (hk : 0 < k) (h : n < 10 ^ k) : (decimal n).length ≤ k := by
  rw [decimal, List.length_map]
  exact (Nat.length_toDigits_le_iff (by decide) hk).2 h

theorem length_decimal_ulong_le (n : UInt32) : (decimal n.toNat).length ≤ 10 :=
  length_decimal_le (by decide) (n.toNat_lt.trans (by decide : 2 ^ 32 < 10 ^ 10))

theorem length_zeroPadded_le {n k width : ℕ} (hwidth : width ≤ k) (hk : 0 < k) (h : n < 10 ^ k) :
    (zeroPadded width n).length ≤ k := by
  have hle := length_decimal_le hk h
  rw [zeroPadded, List.length_append, List.length_replicate]
  omega

/-! ### The texts -/

/-- The message of `LogRansomwareDetected`; `imageName` is `none` for `NULL`. -/
def detectedText (pid : UInt32) (imageName : Option (List UInt16)) (operationCount : UInt32) :
    List UInt16 :=
  wide "Ransomware behavior detected: PID " ++ decimal pid.toNat ++ wide " (" ++
    imageName.getD (wide "unknown") ++ wide ") modified " ++ decimal operationCount.toNat ++
    wide " files within the detection window. " ++
    wide "All write operations from this process have been blocked."

/-- `SYSTEMTIME`, as far as it is read. -/
structure SystemTime where
  wYear : UInt16
  wMonth : UInt16
  wDay : UInt16
  wHour : UInt16
  wMinute : UInt16
  wSecond : UInt16

/-- The line of `WriteLogFile`. -/
def logLine (st : SystemTime) (level message : List UInt16) : List UInt16 :=
  wide "[" ++ zeroPadded 4 st.wYear.toNat ++ wide "-" ++ zeroPadded 2 st.wMonth.toNat ++
    wide "-" ++ zeroPadded 2 st.wDay.toNat ++ wide " " ++ zeroPadded 2 st.wHour.toNat ++
    wide ":" ++ zeroPadded 2 st.wMinute.toNat ++ wide ":" ++ zeroPadded 2 st.wSecond.toNat ++
    wide "] [" ++ leftJustified 6 level ++ wide "] " ++ message ++ wide "\r\n"

theorem length_getD_unknown_lt {imageName : Option (List UInt16)}
    (hname : ∀ name ∈ imageName, name.length < rsMaxImageNameLen) :
    (imageName.getD (wide "unknown")).length < rsMaxImageNameLen := by
  cases imageName with
  | none => decide
  | some name => exact hname name rfl

theorem length_detectedText_lt (pid : UInt32) {imageName : Option (List UInt16)}
    (operationCount : UInt32)
    (hname : ∀ name ∈ imageName, name.length < rsMaxImageNameLen) :
    (detectedText pid imageName operationCount).length < 512 := by
  have hpid := length_decimal_ulong_le pid
  have hcount := length_decimal_ulong_le operationCount
  have hlength := length_getD_unknown_lt hname
  have htexts : (wide "Ransomware behavior detected: PID ").length + (wide " (").length +
      (wide ") modified ").length + (wide " files within the detection window. ").length +
      (wide "All write operations from this process have been blocked.").length = 140 := by
    decide
  have hmax : rsMaxImageNameLen = 260 := rfl
  simp only [detectedText, List.length_append]
  omega

theorem length_zeroPadded_word_le (width : ℕ) (hwidth : width ≤ 5) (n : UInt16) :
    (zeroPadded width n.toNat).length ≤ 5 :=
  length_zeroPadded_le hwidth (by decide) (n.toNat_lt.trans (by decide))

/-- The line of a message is at most 52 characters longer than the message. -/
theorem length_logLine_le (st : SystemTime) {level message : List UInt16}
    (hlevel : level.length ≤ 6) : (logLine st level message).length ≤ message.length + 52 := by
  have hyear := length_zeroPadded_word_le 4 (by decide) st.wYear
  have hmonth := length_zeroPadded_word_le 2 (by decide) st.wMonth
  have hday := length_zeroPadded_word_le 2 (by decide) st.wDay
  have hhour := length_zeroPadded_word_le 2 (by decide) st.wHour
  have hminute := length_zeroPadded_word_le 2 (by decide) st.wMinute
  have hsecond := length_zeroPadded_word_le 2 (by decide) st.wSecond
  have hjustified : (leftJustified 6 level).length ≤ 6 := by
    rw [leftJustified, List.length_append, List.length_replicate]
    omega
  have htexts : (wide "[").length = 1 ∧ (wide "-").length = 1 ∧ (wide " ").length = 1 ∧
      (wide ":").length = 1 ∧ (wide "] [").length = 3 ∧ (wide "] ").length = 2 ∧
      (wide "\r\n").length = 2 := by decide
  simp only [logLine, List.length_append]
  omega

/-- The string in an array, `none` when it goes on behind the end of the array. -/
def terminatedString {n : ℕ} (a : Fin n → UInt16) : Option (List UInt16) :=
  if 0 ∈ List.ofFn a then some (wcs a) else none

theorem length_of_terminatedString {n : ℕ} {a : Fin n → UInt16} {chars : List UInt16}
    (h : terminatedString a = some chars) : chars.length < n := by
  unfold terminatedString at h
  split_ifs at h with hmem
  cases h
  exact (length_takeWhile_lt hmem).trans_eq (List.length_ofFn ..)

/-! ### The logger -/

/-- The logger, the event log and the log file. -/
structure EventLogger where
  /-- `m_hEventLog` is open. -/
  hEventLog : Bool
  /-- `m_hLogFile` is open. -/
  hLogFile : Bool
  eventLog : List (List UInt16)
  logFile : List UInt16

namespace EventLogger

variable (logger : EventLogger)

/-- `WriteEventLog`. -/
def writeEventLog (message : List UInt16) : EventLogger :=
  if logger.hEventLog then { logger with eventLog := logger.eventLog ++ [message] } else logger

/-- `WriteLogFile`, `none` when the process ends. -/
def writeLogFile (st : SystemTime) (level message : List UInt16) : Option EventLogger :=
  if logger.hLogFile then
    (swprintfS 2048 (logLine st level message)).map fun line =>
      { logger with logFile := logger.logFile ++ line }
  else some logger

/-- A text in a buffer of `size` characters, in the event log and in the log file; `none` when the
process ends. -/
def writeMessage (st : SystemTime) (size : ℕ) (level text : List UInt16) : Option EventLogger :=
  (swprintfS size text).bind fun message =>
    (logger.writeEventLog message).writeLogFile st level message

/-- `LogRansomwareDetected`. -/
def logRansomwareDetected (st : SystemTime) (pid : UInt32) (imageName : Option (List UInt16))
    (operationCount : UInt32) : Option EventLogger :=
  logger.writeMessage st 512 (wide "ALERT") (detectedText pid imageName operationCount)

/-- The logger after a line. -/
def withLine (st : SystemTime) (level text : List UInt16) : EventLogger where
  hEventLog := logger.hEventLog
  hLogFile := logger.hLogFile
  eventLog := if logger.hEventLog then logger.eventLog ++ [text] else logger.eventLog
  logFile := if logger.hLogFile then logger.logFile ++ logLine st level text else logger.logFile

variable {logger} {st : SystemTime}

/-- **A text adds one line if it fits its buffer**, and ends the process otherwise. -/
theorem writeMessage_eq {size : ℕ} {level text : List UInt16} (hlevel : level.length ≤ 6)
    (hsize : size ≤ 1024) :
    logger.writeMessage st size level text =
      if text.length < size then some (logger.withLine st level text) else none := by
  unfold writeMessage swprintfS
  split_ifs with htext
  · have hline : (logLine st level text).length ≤ text.length + 52 := length_logLine_le st hlevel
    have hfits : (logLine st level text).length < 2048 := by omega
    rw [Option.bind_some, writeLogFile, swprintfS, if_pos hfits]
    obtain ⟨hEventLog, hLogFile, eventLog, logFile⟩ := logger
    cases hEventLog <;> cases hLogFile <;> rfl
  · rfl

theorem writeMessage_of_lt {size : ℕ} {level text : List UInt16} (hlevel : level.length ≤ 6)
    (htext : text.length < size) (hsize : size ≤ 1024) :
    logger.writeMessage st size level text = some (logger.withLine st level text) := by
  rw [writeMessage_eq hlevel hsize, if_pos htext]

end EventLogger

end RansomShield
