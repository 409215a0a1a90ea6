import RansomShield.Driver.Defs

/-!
# Result codes of the client

The `HRESULT`s that `usermode/common/CommManager.cpp` returns and tests.
-/

namespace RansomShield

/-- An `HRESULT`. -/
abbrev HResult := Int32

namespace HResult

/-- `S_OK`. -/
def sOk : HResult := 0

/-- `E_FAIL`. -/
def eFail : HResult := Int32.ofNat 0x80004005

/-- `FAILED`. -/
def failed (hr : HResult) : Bool := hr < 0

/-- `HRESULT_FROM_WIN32`. -/
def fromWin32 (x : HResult) : HResult :=
  if x ≤ 0 then x else (x &&& 0xFFFF) ||| Int32.ofNat 0x80070000

/-- `HRESULT_FROM_WIN32(ERROR_INVALID_HANDLE)`. -/
def invalidHandle : HResult := fromWin32 6

/-- `HRESULT_FROM_WIN32(ERROR_BROKEN_PIPE)`. -/
def brokenPipe : HResult := fromWin32 109

/-- `HRESULT_FROM_WIN32(ERROR_NOT_CONNECTED)`. -/
def notConnected : HResult := fromWin32 2250

/-- `HRESULT_FROM_WIN32(ERROR_FLT_INTERNAL_ERROR)`. -/
def fltInternalError : HResult := fromWin32 (Int32.ofNat 0x801F000A)

/-- The errors that mean that the driver is gone or the port was closed. -/
def isDisconnect (hr : HResult) : Bool :=
  hr = fltInternalError || hr = invalidHandle || hr = brokenPipe

/-- The result of `FilterSendMessage` when the driver's handler has returned a status. -/
def ofStatus : NtStatus → HResult
  | .success => sOk
  | .accessDenied => fromWin32 5
  | .insufficientResources => fromWin32 1450
  | .invalidParameter => fromWin32 87
  | .bufferTooSmall => fromWin32 122

theorem failed_of_isDisconnect {hr : HResult} (h : hr.isDisconnect = true) :
    hr.failed = true := by
  simp only [isDisconnect, Bool.or_eq_true, decide_eq_true_eq] at h
  obtain (rfl | rfl) | rfl := h <;> decide

end HResult

end RansomShield
