import RansomShield.Driver.CommPort

/-!
# The pre-operation callbacks

The functions of `kernel/RansomShield.c` that the filter manager calls before a write, a rename or
a delete.  A callback skips the requests it does not monitor, lets allowlisted processes pass,
records the operation, and completes the request with `STATUS_ACCESS_DENIED` when
`RsRecordOperation` says so.

What the callbacks obtain from the system is part of the request (`FltCallbackData`): the PID, the
IRQL, whether there is a process and whether its image can be located, the time that
`RsRecordOperation` will read, and whether its allocation succeeds.
-/

namespace RansomShield

/-! ### Requests -/

/-- The IRQLs at which pre-operation callbacks run. -/
inductive Irql
  | passiveLevel
  | apcLevel
  deriving DecidableEq, Repr

/-- `FILE_INFORMATION_CLASS`: the monitored classes, and the others by number. -/
inductive FileInformationClass
  | fileRenameInformation
  | fileRenameInformationEx
  | fileDispositionInformation
  | fileDispositionInformationEx
  | other (value : UInt32)
  deriving DecidableEq, Repr

/-- The major functions the driver is registered for. -/
inductive MajorFunction
  | irpMjWrite
  | irpMjSetInformation
  deriving DecidableEq, Repr

/-- `FLT_IO_PARAMETER_BLOCK`, the part that the callbacks read. -/
structure FltIoParameterBlock where
  majorFunction : MajorFunction
  irpFlags : UInt32
  /-- `Parameters.SetFileInformation.FileInformationClass`. -/
  fileInformationClass : FileInformationClass
  deriving DecidableEq, Repr

/-- `IRP_PAGING_IO`. -/
def irpPagingIo : UInt32 := 0x00000002

/-- A request, with everything the system answers while it is handled. -/
structure FltCallbackData where
  iopb : FltIoParameterBlock
  /-- `FltGetRequestorProcessId`. -/
  requestorProcessId : UInt32
  /-- Whether `FltGetRequestorProcess` returns a process. -/
  hasRequestorProcess : Bool
  /-- `KeGetCurrentIrql`. -/
  irql : Irql
  /-- What `SeLocateProcessImageName` returns, `none` when it fails. -/
  locatedImageName : Option UnicodeString
  /-- `KeQueryInterruptTime`, as read by `RsRecordOperation`. -/
  interruptTime : InterruptTime
  /-- Whether `ExAllocatePool2` succeeds. -/
  allocates : Bool

/-- A write of a process, whose image can be located. -/
def writeRequest (processId : UInt32) (irql : Irql) (image : UnicodeString) (t : InterruptTime)
    (allocates : Bool) : FltCallbackData where
  iopb := { majorFunction := .irpMjWrite, irpFlags := 0, fileInformationClass := .other 0 }
  requestorProcessId := processId
  hasRequestorProcess := true
  irql := irql
  locatedImageName := some image
  interruptTime := t
  allocates := allocates

/-- `processImageName` after the attempt to obtain it. -/
def FltCallbackData.processImageName (data : FltCallbackData) : Option UnicodeString :=
  if data.hasRequestorProcess then
    if data.irql = .passiveLevel then data.locatedImageName else none
  else none

theorem processImageName_writeRequest (processId : UInt32) (image : UnicodeString)
    (t : InterruptTime) (allocates : Bool) :
    (writeRequest processId .passiveLevel image t allocates).processImageName = some image := rfl

/-! ### Outcomes -/

/-- The callback statuses returned. -/
inductive FltPreopCallbackStatus
  | successNoCallback
  | successWithCallback
  | complete
  deriving DecidableEq, Repr

/-- How a callback ends: its return value, and `IoStatus.Status` if it is set. -/
structure PreopCompletion where
  callbackStatus : FltPreopCallbackStatus
  ioStatus : Option NtStatus
  deriving DecidableEq, Repr

/-- The request goes on to the file system. -/
def PreopCompletion.pass : PreopCompletion := ⟨.successNoCallback, none⟩

/-- The request is completed with `STATUS_ACCESS_DENIED`. -/
def PreopCompletion.denied : PreopCompletion := ⟨.complete, some .accessDenied⟩

/-- The end of `RsPreOperationWrite`, after `RsRecordOperation`. -/
def completeWrite (status : NtStatus) (shouldBlock : Bool) : PreopCompletion :=
  if status ≠ .success then ⟨.successNoCallback, none⟩
  else if shouldBlock then ⟨.complete, some .accessDenied⟩
  else ⟨.successNoCallback, none⟩

/-- The end of `RsPreOperationSetInformation`, after `RsRecordOperation`. -/
def completeSetInformation (status : NtStatus) (shouldBlock : Bool) : PreopCompletion :=
  if status ≠ .success then ⟨.successNoCallback, none⟩
  else if shouldBlock then ⟨.complete, some .accessDenied⟩
  else ⟨.successWithCallback, none⟩

/-- The outcome of a callback that is not interrupted. -/
structure PreopOutcome where
  state : DriverState
  completion : PreopCompletion
  /-- The call of `RsRecordOperation`, if the callback comes that far. -/
  recorded : Option RecordOutcome

/-- A callback that returns before `RsRecordOperation`. -/
def PreopOutcome.passed (s : DriverState) : PreopOutcome :=
  { state := s, completion := .pass, recorded := none }

/-! ### The callbacks -/

section

variable (upcase : UInt16 → UInt16)

/-- The allowlist check of both callbacks. -/
def imageAllowlisted (s : DriverState) (processImageName : Option UnicodeString) : Bool :=
  match processImageName with
  | none => false
  | some name => rsIsProcessAllowlisted upcase s name

/-- `RsPreOperationWrite`. -/
def rsPreOperationWrite (s : DriverState) (data : FltCallbackData) : PreopOutcome :=
  if data.iopb.irpFlags &&& irpPagingIo ≠ 0 then .passed s
  else if data.requestorProcessId = 0 ∨ data.requestorProcessId = 4 then .passed s
  else if imageAllowlisted upcase s data.processImageName then .passed s
  else
    let r := rsRecordOperation s data.requestorProcessId data.processImageName
      data.interruptTime.ticks data.allocates
    { state := r.state
      completion := completeWrite r.result.status r.result.shouldBlock
      recorded := some r }

/-- `RsPreOperationSetInformation`. -/
def rsPreOperationSetInformation (s : DriverState) (data : FltCallbackData) : PreopOutcome :=
  match data.iopb.fileInformationClass with
  | .other _ => .passed s
  | .fileRenameInformation | .fileRenameInformationEx
  | .fileDispositionInformation | .fileDispositionInformationEx =>
    if data.requestorProcessId = 0 ∨ data.requestorProcessId = 4 then .passed s
    else if imageAllowlisted upcase s data.processImageName then .passed s
    else
      let r := rsRecordOperation s data.requestorProcessId data.processImageName
        data.interruptTime.ticks data.allocates
      { state := r.state
        completion := completeSetInformation r.result.status r.result.shouldBlock
        recorded := some r }

/-- The callback that the filter manager calls for a request. -/
def preOperation (s : DriverState) (data : FltCallbackData) : PreopOutcome :=
  match data.iopb.majorFunction with
  | .irpMjWrite => rsPreOperationWrite upcase s data
  | .irpMjSetInformation => rsPreOperationSetInformation upcase s data

end

/-! ### What the callbacks have in common -/

/-- The class is one of those that `RsPreOperationSetInformation` monitors. -/
def FileInformationClass.monitored : FileInformationClass → Bool
  | .other _ => false
  | _ => true

/-- The request is of a kind, or from a process, that its callback does not look at. -/
def FltCallbackData.skipped (data : FltCallbackData) : Bool :=
  (match data.iopb.majorFunction with
    | .irpMjWrite => decide (data.iopb.irpFlags &&& irpPagingIo ≠ 0)
    | .irpMjSetInformation => !data.iopb.fileInformationClass.monitored) ||
  decide (data.requestorProcessId = 0 ∨ data.requestorProcessId = 4)

/-- How the callback for a request ends after `RsRecordOperation`. -/
def MajorFunction.complete : MajorFunction → NtStatus → Bool → PreopCompletion
  | .irpMjWrite => completeWrite
  | .irpMjSetInformation => completeSetInformation

/-- A request is denied exactly when the operation was recorded and is to be blocked. -/
theorem complete_eq_denied {m : MajorFunction} {status : NtStatus} {shouldBlock : Bool} :
    m.complete status shouldBlock = .denied ↔ status = .success ∧ shouldBlock = true := by
  cases m <;> cases status <;> cases shouldBlock <;> decide

variable (upcase : UInt16 → UInt16)

/-- The callback returns before `RsRecordOperation`. -/
def FltCallbackData.passes (s : DriverState) (data : FltCallbackData) : Bool :=
  data.skipped || imageAllowlisted upcase s data.processImageName

/-- **Both callbacks are one**: guards, then `RsRecordOperation`, then an end that depends on the
kind of the request. -/
theorem preOperation_eq (s : DriverState) (data : FltCallbackData) :
    preOperation upcase s data =
      if data.passes upcase s then .passed s
      else
        let r := rsRecordOperation s data.requestorProcessId data.processImageName
          data.interruptTime.ticks data.allocates
        { state := r.state
          completion := data.iopb.majorFunction.complete r.result.status r.result.shouldBlock
          recorded := some r } := by
  unfold preOperation FltCallbackData.passes FltCallbackData.skipped MajorFunction.complete
  -- the guards of the two callbacks differ, what follows them is the same
  cases data.iopb.majorFunction with
  | irpMjWrite =>
    simp only [rsPreOperationWrite, Bool.or_eq_true, decide_eq_true_eq, or_assoc]
    split_ifs <;> simp_all
  | irpMjSetInformation =>
    simp only [rsPreOperationSetInformation, Bool.or_eq_true, decide_eq_true_eq]
    cases data.iopb.fileInformationClass <;>
      simp only [FileInformationClass.monitored] <;> split_ifs <;> simp_all

end RansomShield
