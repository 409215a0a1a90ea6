import RansomShield.System.Events

/-!
# The two callbacks agree

Writes go through `RsPreOperationWrite`, renames and deletes through
`RsPreOperationSetInformation`.  What counts is whether the callback of a request monitors it: two
monitored requests of the same process in the same circumstances
(`FltCallbackData.Exchangeable`) change the driver in the same way, send the same notification and
are decided alike, whichever callback handles them (`preOperation_of_exchangeable`).  So are whole
histories of them, with the requests that both callbacks skip (`paths_agree`).
-/

namespace RansomShield

/-! ### Decisions -/

/-- What becomes of a request: it goes on to the file system, with or without a post-operation
callback, or it is completed with a status. -/
inductive Decision
  | allow
  | complete (ioStatus : Option NtStatus)
  deriving DecidableEq, Repr

/-- The decision of a callback. -/
def PreopCompletion.decision (c : PreopCompletion) : Decision :=
  match c.callbackStatus with
  | .successNoCallback | .successWithCallback => .allow
  | .complete => .complete c.ioStatus

theorem decision_complete (m : MajorFunction) (status : NtStatus) (shouldBlock : Bool) :
    (m.complete status shouldBlock).decision =
      if status = .success ∧ shouldBlock = true then .complete (some .accessDenied)
      else .allow := by
  cases m <;> cases status <;> cases shouldBlock <;> rfl

/-! ### Requests that can be exchanged -/

/-- The callback for the request monitors it: it is not a paging write, or it is a rename or a
delete. -/
def FltIoParameterBlock.monitored (iopb : FltIoParameterBlock) : Bool :=
  match iopb.majorFunction with
  | .irpMjWrite => decide (iopb.irpFlags &&& irpPagingIo = 0)
  | .irpMjSetInformation => iopb.fileInformationClass.monitored

/-- The requests come from the same process in the same circumstances. -/
structure FltCallbackData.SameCircumstances (data data' : FltCallbackData) : Prop where
  requestorProcessId : data.requestorProcessId = data'.requestorProcessId
  hasRequestorProcess : data.hasRequestorProcess = data'.hasRequestorProcess
  irql : data.irql = data'.irql
  locatedImageName : data.locatedImageName = data'.locatedImageName
  interruptTime : data.interruptTime = data'.interruptTime
  allocates : data.allocates = data'.allocates

/-- Two monitored requests in the same circumstances. -/
structure FltCallbackData.Exchangeable (data data' : FltCallbackData) : Prop extends
    data.SameCircumstances data' where
  monitored : data.iopb.monitored = true
  monitored' : data'.iopb.monitored = true

variable {upcase : UInt16 → UInt16} {data data' : FltCallbackData} {s : DriverState}

theorem skipped_eq (data : FltCallbackData) :
    data.skipped = (!data.iopb.monitored ||
      decide (data.requestorProcessId = 0 ∨ data.requestorProcessId = 4)) := by
  unfold FltCallbackData.skipped FltIoParameterBlock.monitored
  cases data.iopb.majorFunction <;> simp

namespace FltCallbackData.Exchangeable

theorem processImageName_eq (h : data.Exchangeable data') :
    data.processImageName = data'.processImageName := by
  unfold FltCallbackData.processImageName
  rw [h.hasRequestorProcess, h.irql, h.locatedImageName]

theorem passes_eq (h : data.Exchangeable data') (s : DriverState) :
    data.passes upcase s = data'.passes upcase s := by
  unfold FltCallbackData.passes
  rw [skipped_eq, skipped_eq, h.monitored, h.monitored', h.requestorProcessId,
    h.processImageName_eq]

end FltCallbackData.Exchangeable

/-- **Two monitored requests in the same circumstances** lead to the same state, record the same
operation, send the same notification, and are decided alike. -/
theorem preOperation_of_exchangeable (upcase : UInt16 → UInt16) (h : data.Exchangeable data')
    (s : DriverState) :
    (preOperation upcase s data).state = (preOperation upcase s data').state ∧
    (preOperation upcase s data).recorded = (preOperation upcase s data').recorded ∧
    (preOperation upcase s data).completion.decision =
      (preOperation upcase s data').completion.decision := by
  rw [preOperation_eq, preOperation_eq, h.passes_eq s, h.requestorProcessId, h.processImageName_eq,
    h.interruptTime, h.allocates]
  split_ifs
  · exact ⟨rfl, rfl, rfl⟩
  · refine ⟨rfl, rfl, ?_⟩
    -- what is left of the difference is the status of a request that goes on
    simp only [decision_complete]

/-! ### Histories -/

/-- The decision on an event, when it is a request. -/
def DriverEvent.decision (upcase : UInt16 → UInt16) (s : DriverState) :
    DriverEvent → Option Decision
  | .request data => some (preOperation upcase s data).completion.decision
  | _ => none

/-- The decisions on the requests of a history, in order. -/
def decisions (upcase : UInt16 → UInt16) : DriverState → List DriverEvent → List Decision
  | _, [] => []
  | s, e :: es => (e.decision upcase s).toList ++ decisions upcase (e.apply upcase s) es

/-- The same event, or two requests that can be exchanged. -/
inductive DriverEvent.Exchanged : DriverEvent → DriverEvent → Prop
  | same (e : DriverEvent) : Exchanged e e
  | exchanged (data data' : FltCallbackData) (h : data.Exchangeable data') :
    Exchanged (.request data) (.request data')

theorem DriverEvent.Exchanged.apply_eq {e e' : DriverEvent} (h : e.Exchanged e')
    (upcase : UInt16 → UInt16) (s : DriverState) :
    e.apply upcase s = e'.apply upcase s ∧ e.decision upcase s = e'.decision upcase s := by
  cases h with
  | same => exact ⟨rfl, rfl⟩
  | exchanged data data' h =>
    obtain ⟨hstate, -, hdecision⟩ := preOperation_of_exchangeable upcase h s
    exact ⟨hstate, congrArg some hdecision⟩

/-- **Exchanging requests** in a history changes neither a decision nor the state it ends in. -/
theorem decisions_of_exchanged {es es' : List DriverEvent}
    (h : List.Forall₂ DriverEvent.Exchanged es es') (s : DriverState) :
    decisions upcase s es = decisions upcase s es' ∧
      exec (DriverEvent.apply upcase) s es = exec (DriverEvent.apply upcase) s es' := by
  induction h generalizing s with
  | nil => exact ⟨rfl, rfl⟩
  | cons he _ ih =>
    obtain ⟨happly, hdecision⟩ := he.apply_eq upcase s
    simp only [decisions, exec_cons, happly, hdecision, ih]
    exact ⟨trivial, trivial⟩

/-- A request that its callback skips, or whose image is allowlisted, goes on, and nothing
changes. -/
theorem preOperation_of_skipped
    (h : data.iopb.monitored = false ∨
      (data.requestorProcessId = 0 ∨ data.requestorProcessId = 4) ∨
      imageAllowlisted upcase s data.processImageName = true) :
    preOperation upcase s data = .passed s := by
  refine preOperation_of_passes ?_
  rw [FltCallbackData.passes, skipped_eq]
  rcases h with h | h | h <;> simp [h]

/-- **Both callbacks agree.**  In every state, a write that is not a paging write and a rename or
delete in the same circumstances lead to the same state, the same notification and the same
decision, which is to go on or `STATUS_ACCESS_DENIED`.  Requests that are skipped go on, without a
notification, and leave the state as it is.  So, in every history of requests and other events,
exchanging monitored requests changes no decision. -/
theorem paths_agree (upcase : UInt16 → UInt16) :
    (∀ s write setInformation, write.SameCircumstances setInformation →
      write.iopb.majorFunction = .irpMjWrite → write.iopb.irpFlags &&& irpPagingIo = 0 →
      setInformation.iopb.majorFunction = .irpMjSetInformation →
      setInformation.iopb.fileInformationClass.monitored = true →
      (rsPreOperationWrite upcase s write).state =
        (rsPreOperationSetInformation upcase s setInformation).state ∧
      (rsPreOperationWrite upcase s write).recorded =
        (rsPreOperationSetInformation upcase s setInformation).recorded ∧
      (rsPreOperationWrite upcase s write).completion.decision =
        (rsPreOperationSetInformation upcase s setInformation).completion.decision) ∧
    (∀ s data, (preOperation upcase s data).completion.decision = .allow ∨
      (preOperation upcase s data).completion.decision = .complete (some .accessDenied)) ∧
    (∀ s data, data.iopb.monitored = false ∨
        (data.requestorProcessId = 0 ∨ data.requestorProcessId = 4) ∨
        imageAllowlisted upcase s data.processImageName = true →
      (preOperation upcase s data).completion.decision = .allow ∧
      (preOperation upcase s data).recorded = none ∧ (preOperation upcase s data).state = s) ∧
    ∀ s es es', List.Forall₂ DriverEvent.Exchanged es es' →
      decisions upcase s es = decisions upcase s es' := by
  refine ⟨?_, ?_, ?_, ?_⟩
  · intro s write setInformation hsame hwrite hpaging hset hclass
    have h : write.Exchangeable setInformation :=
      { hsame with
        monitored := by rw [FltIoParameterBlock.monitored, hwrite]; exact decide_eq_true hpaging
        monitored' := by rw [FltIoParameterBlock.monitored, hset]; exact hclass }
    have hagree := preOperation_of_exchangeable upcase h s
    simp only [preOperation, hwrite, hset] at hagree
    exact hagree
  · intro s data
    rw [preOperation_eq]
    split_ifs
    · exact .inl rfl
    · simp only [decision_complete]
      split_ifs
      · exact .inr rfl
      · exact .inl rfl
  · intro s data h
    rw [preOperation_of_skipped h]
    exact ⟨rfl, rfl, rfl⟩
  · intro s es es' h
    exact (decisions_of_exchanged h s).1

/-- The same process renames a file instead of writing it. -/
def renameRequest (data : FltCallbackData) : FltCallbackData :=
  { data with
    iopb :=
      { majorFunction := .irpMjSetInformation
        irpFlags := 0
        fileInformationClass := .fileRenameInformation } }

/-- A write of a process that can be located. -/
def someWrite : FltCallbackData :=
  writeRequest 8 .passiveLevel (rtlInitUnicodeString (wide "a.exe")) (.ofTicks 5) true

/-- A write and a rename of one process, a write of the system, and an exchange in a history. -/
theorem paths_agree_once :
    (rsPreOperationWrite id DriverState.init someWrite).completion.decision =
      (rsPreOperationSetInformation id DriverState.init
        (renameRequest someWrite)).completion.decision ∧
    (preOperation id DriverState.init { someWrite with requestorProcessId := 4 }).state =
      DriverState.init ∧
    decisions id DriverState.init [.request someWrite, .disconnect] =
      decisions id DriverState.init [.request (renameRequest someWrite), .disconnect] := by
  obtain ⟨hagree, -, hskipped, hexchanged⟩ := paths_agree id
  have hsame : someWrite.SameCircumstances (renameRequest someWrite) :=
    ⟨rfl, rfl, rfl, rfl, rfl, rfl⟩
  refine ⟨?_, ?_, ?_⟩
  · exact (hagree DriverState.init _ _ hsame rfl (by decide) rfl rfl).2.2
  · exact (hskipped DriverState.init _ (.inr (.inl (.inr rfl)))).2.2
  · have hexchange : someWrite.Exchangeable (renameRequest someWrite) :=
      ⟨hsame, by decide, by decide⟩
    exact hexchanged _ _ _ (.cons (.exchanged _ _ hexchange) (.cons (.same _) .nil))

end RansomShield
