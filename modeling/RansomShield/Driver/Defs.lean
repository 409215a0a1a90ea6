import Mathlib.Algebra.Group.Nat.Defs
import Mathlib.Data.Fin.Basic
import Mathlib.Data.List.OfFn
import Mathlib.Tactic.Common

/-!
# Data of the minifilter driver

The constants and structures of `kernel/RansomShield.h` and `usermode/common/SharedDefs.h` that
the driver works on.  The C types are kept: `ULONG` is `UInt32`, `LONGLONG` is `Int64`, `USHORT`
and `WCHAR` are `UInt16`, `UCHAR` and `BOOLEAN` fields of messages are `UInt8`; an array is a
function from its indices.

* `RsProcessContext` : what the driver tracks about one process.  Its ring indices are subtypes,
  so that they are in bounds by construction.
* `RsConfig` : the runtime heuristic parameters.
* `DriverState` : the driver's globals.
* `UnicodeString`, `rtlInitUnicodeString`, `rtlEqualUnicodeString` : counted strings.
* `InterruptTime` : the values of `KeQueryInterruptTime`.
-/

namespace RansomShield

/-! ### Constants -/

/-- `RS_HASH_TABLE_SIZE`. -/
abbrev rsHashTableSize : ℕ := 1021

/-- `RS_MAX_OPERATIONS_PER_PID`. -/
abbrev rsMaxOperationsPerPid : ℕ := 256

/-- `RS_MAX_IMAGE_NAME_LEN`, in `WCHAR`s, including the terminator. -/
abbrev rsMaxImageNameLen : ℕ := 260

/-- `RS_MAX_ALLOWLIST_ENTRIES`. -/
abbrev rsMaxAllowlistEntries : ℕ := 128

/-- `RS_MAX_ALLOWLIST_NAME_LEN`, in `WCHAR`s, including the terminator. -/
abbrev rsMaxAllowlistNameLen : ℕ := 260

/-- `RS_MAX_REPORT_BLOCKED`. -/
abbrev rsMaxReportBlocked : ℕ := 256

/-- `RS_MAX_ALLOWLIST_CHUNK`. -/
abbrev rsMaxAllowlistChunk : ℕ := 32

/-- `RS_DEFAULT_FILE_COUNT_THRESHOLD`. -/
def rsDefaultFileCountThreshold : UInt32 := 50

/-- `RS_DEFAULT_TIME_WINDOW_SECONDS`. -/
def rsDefaultTimeWindowSeconds : UInt32 := 10

/-- `RS_DEFAULT_MONITORING_ENABLED`. -/
def rsDefaultMonitoringEnabled : UInt8 := 1

/-- The `NTSTATUS` values the driver returns. -/
inductive NtStatus
  | success
  | accessDenied
  | insufficientResources
  | invalidParameter
  | bufferTooSmall
  deriving DecidableEq, Repr

/-! ### Time -/

/-- A value of `KeQueryInterruptTime`: 100 ns ticks since boot, which stay below `2 ^ 63`. -/
structure InterruptTime where
  /-- The value as the `LONGLONG` it is stored in. -/
  ticks : Int64
  nonneg : 0 ≤ ticks
  deriving DecidableEq

/-- The value after some number of ticks. -/
def InterruptTime.ofTicks (n : ℕ) : InterruptTime where
  ticks := Int64.ofNat (n % 2 ^ 63)
  nonneg := by
    have hlt : n % 2 ^ 63 < 2 ^ 63 := Nat.mod_lt _ (by decide)
    rw [Int64.le_iff_toInt_le, Int64.toInt_ofNat_of_lt hlt]
    exact Int.natCast_nonneg _

/-! ### Strings -/

/-- A `UNICODE_STRING`: its length in bytes covers the characters of its buffer. -/
structure UnicodeString where
  /-- Length in bytes. -/
  length : UInt16
  /-- The characters, `none` for a `NULL` buffer. -/
  buffer : Option (List UInt16)
  length_eq : ∀ b ∈ buffer, length.toNat = 2 * b.length
  deriving DecidableEq

/-- The characters of a C string literal. -/
def wide (str : String) : List UInt16 := str.toList.map fun c => UInt16.ofNat c.toNat

/-- The characters of a fixed-size array up to its first NUL. -/
def wcs {n : ℕ} (a : Fin n → UInt16) : List UInt16 := (List.ofFn a).takeWhile (· ≠ 0)

/-- The string of the given characters. -/
def UnicodeString.ofChars (cs : List UInt16) (h : 2 * cs.length < 65536) : UnicodeString where
  length := UInt16.ofNat (2 * cs.length)
  buffer := some cs
  length_eq b hb := by
    cases hb
    rw [UInt16.toNat_ofNat', Nat.mod_eq_of_lt h]

/-- `RtlInitUnicodeString` on a string without embedded NULs: at most 65532 bytes are covered. -/
def rtlInitUnicodeString (cs : List UInt16) : UnicodeString :=
  UnicodeString.ofChars (cs.take 32766) (by have := List.length_take_le 32766 cs; omega)

/-- The characters of a string. -/
def UnicodeString.chars (u : UnicodeString) : List UInt16 := u.buffer.getD []

/-- `RtlEqualUnicodeString(a, b, TRUE)`, for the upcase table of the system. -/
def rtlEqualUnicodeString (upcase : UInt16 → UInt16) (a b : UnicodeString) : Bool :=
  a.length == b.length && a.chars.map upcase == b.chars.map upcase

/-! ### Per-process tracking -/

/-- An index into `Operations`. -/
abbrev OperationIndex := { i : UInt32 // i.toNat < rsMaxOperationsPerPid }

/-- The number of valid entries of `Operations`. -/
abbrev OperationTotal := { c : UInt32 // c.toNat ≤ rsMaxOperationsPerPid }

/-- `RS_PROCESS_CONTEXT`, without its hash table link. -/
structure RsProcessContext where
  processId : UInt32
  imageName : Fin rsMaxImageNameLen → UInt16
  /-- Ring buffer of operation timestamps. -/
  operations : Fin rsMaxOperationsPerPid → Int64
  /-- Next write position. -/
  operationHead : OperationIndex
  /-- Number of valid entries. -/
  operationCount : OperationTotal
  isBlocked : Bool
  blockedTimestamp : Int64
  lastActivityTime : Int64

/-- The runtime-configurable heuristic parameters. -/
structure RsConfig where
  fileCountThreshold : UInt32
  timeWindowSeconds : UInt32
  timeWindowTicks : Int64
  monitoringEnabled : UInt8
  deriving DecidableEq

/-- `(LONGLONG)TimeWindowSeconds * 10000000`. -/
def windowTicks (seconds : UInt32) : Int64 := Int64.ofNat seconds.toNat * 10000000

/-- The parameters before the first configuration message. -/
def RsConfig.default : RsConfig where
  fileCountThreshold := rsDefaultFileCountThreshold
  timeWindowSeconds := rsDefaultTimeWindowSeconds
  timeWindowTicks := windowTicks rsDefaultTimeWindowSeconds
  monitoringEnabled := rsDefaultMonitoringEnabled

/-- An entry of the dynamic allowlist. -/
abbrev AllowlistEntry := Fin rsMaxAllowlistNameLen → UInt16

/-- The handle of a client port. -/
abbrev PortHandle := ℕ

/-- The globals of the driver, all but the ports protected by `g_ContextLock`. -/
structure DriverState where
  contextHashTable : Fin rsHashTableSize → List RsProcessContext
  trackedPidCount : UInt32
  messageSequence : UInt32
  config : RsConfig
  dynamicAllowlist : Fin rsMaxAllowlistEntries → AllowlistEntry
  dynamicAllowlistCount : { c : UInt32 // c.toNat ≤ rsMaxAllowlistEntries }
  clientPort : Option PortHandle

/-- The globals after `RsInitializeContextTracking`. -/
def DriverState.init : DriverState where
  contextHashTable := fun _ => []
  trackedPidCount := 0
  messageSequence := 0
  config := RsConfig.default
  dynamicAllowlist := fun _ _ => 0
  dynamicAllowlistCount := ⟨0, Nat.zero_le _⟩
  clientPort := none

/-! ### Window arithmetic -/

/-- The window never overflows a `LONGLONG`. -/
theorem toInt_windowTicks (seconds : UInt32) :
    (windowTicks seconds).toInt = seconds.toNat * 10000000 := by
  have hlt : seconds.toNat < 2 ^ 32 := seconds.toNat_lt
  have hnat : (Int64.ofNat seconds.toNat).toInt = seconds.toNat :=
    Int64.toInt_ofNat_of_lt (by omega)
  have hsize : (10000000 : Int64).toInt = 10000000 := by decide
  rw [windowTicks, Int64.toInt_mul, hnat, hsize, Int.bmod_eq_of_le (by omega) (by omega)]

/-- The age of an operation never overflows a `LONGLONG`. -/
theorem toInt_sub_of_nonneg {a b : Int64} (ha : 0 ≤ a) (hb : 0 ≤ b) :
    (a - b).toInt = a.toInt - b.toInt := by
  have ha' : 0 ≤ a.toInt := Int64.le_iff_toInt_le.1 ha
  have hb' : 0 ≤ b.toInt := Int64.le_iff_toInt_le.1 hb
  have := a.toInt_lt
  have := b.toInt_lt
  rw [Int64.toInt_sub, Int.bmod_eq_of_le (by omega) (by omega)]

theorem age_le_iff {a b w : Int64} (ha : 0 ≤ a) (hb : 0 ≤ b) :
    a - b ≤ w ↔ a.toInt - w.toInt ≤ b.toInt := by
  rw [Int64.le_iff_toInt_le, toInt_sub_of_nonneg ha hb]
  omega

end RansomShield
