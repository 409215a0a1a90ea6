import RansomShield.System.Basic
import RansomShield.Tracker.Lookup

/-!
# One process seen alone

`Process.machine p` is the tracker as the process with PID `p` sees it: the configuration, the one
context, the calls of `p`, and the operations its context has recorded.  It knows no hash table and
no other process.  `Process.view p` is the state of the driver as `p` sees it, and
`Action.ofProcess p` an action, `none` when `p` does not see it.

`System/View.lean` shows that a run of the driver, seen from `p`, is a run of this machine.
-/

namespace RansomShield

namespace Process

/-- How far a call of the process has come.  An allocated context is determined by the call, and
sending a notification is not distinguished from having returned. -/
inductive Phase
  | entered
  | allocating
  | allocated
  | decided (result : RecordResult)

/-- The outcome of a call, once it is decided. -/
def Phase.result : Phase → Option RecordResult
  | .decided result => some result
  | _ => none

/-- A call of the process. -/
structure Call where
  processImageName : Option UnicodeString
  currentTime : InterruptTime
  phase : Phase

/-- The tracker as one process sees it. -/
@[ext]
structure State where
  config : RsConfig
  context : Option RsProcessContext
  calls : ℕ → Option Call
  /-- The operations that the context has recorded. -/
  log : List Operation

/-- The outcome of a call, once it is decided. -/
def State.result (s : State) (i : ℕ) : Option RecordResult :=
  (s.calls i).bind fun call => call.phase.result

/-- The actions that a process sees. -/
inductive Action
  | enter (serial : ℕ) (processImageName : Option UnicodeString) (currentTime : InterruptTime)
  | firstSection (serial : ℕ)
  | allocate (serial : ℕ) (succeeds : Bool)
  | secondSection (serial : ℕ)
  | applyConfig (fileCountThreshold timeWindowSeconds : UInt32) (monitoringEnabled : UInt8)
  | setMonitoring (value : UInt8)
  | remove

/-- The phase of a call after a locked section. -/
def phaseAfter (p : UInt32) (r : SectionResult) : Phase :=
  match r.result p with
  | none => .allocating
  | some result => .decided result

/-- The operations that a locked section records. -/
def recordedBy (c : CallId) (currentTime : InterruptTime) : SectionResult → List Operation
  | .evaluated e =>
    [{ call := c, time := currentTime, recentCount := e.recentCount
       shouldBlock := e.shouldBlock }]
  | _ => []

namespace State

/-- A call in its next phase. -/
def setPhase (s : State) (i : ℕ) (call : Call) (phase : Phase) : State :=
  { s with calls := Function.update s.calls i (some { call with phase := phase }) }

/-- The state after a locked section of a call. -/
def endSection (s : State) (p : UInt32) (i : ℕ) (call : Call)
    (outcome : Option RsProcessContext × SectionResult) : State where
  config := s.config
  context := outcome.1
  calls := Function.update s.calls i (some { call with phase := phaseAfter p outcome.2 })
  log := s.log ++ recordedBy ⟨p, i⟩ call.currentTime outcome.2

end State

/-- The parameters after `RsApplyConfig`. -/
def configAfter (cfg : RsConfig) (fileCountThreshold timeWindowSeconds : UInt32)
    (monitoringEnabled : UInt8) : RsConfig where
  fileCountThreshold :=
    if 0 < fileCountThreshold then fileCountThreshold else cfg.fileCountThreshold
  timeWindowSeconds := if 0 < timeWindowSeconds then timeWindowSeconds else cfg.timeWindowSeconds
  timeWindowTicks :=
    if 0 < timeWindowSeconds then windowTicks timeWindowSeconds else cfg.timeWindowTicks
  monitoringEnabled := monitoringEnabled

/-- A step of a call of the process. -/
def callStep (p : UInt32) (s : State) (i : ℕ) (call : Call) (step : CallStep) : Option State :=
  match step, call.phase with
  | .firstSection, .entered =>
    some (s.endSection p i call (firstSection s.config s.context call.currentTime.ticks))
  | .allocate true, .allocating => some (s.setPhase i call .allocated)
  | .allocate false, .allocating => some (s.setPhase i call (.decided RecordResult.outOfMemory))
  | .secondSection, .allocated =>
    some (s.endSection p i call
      (secondSection s.config s.context (rsCreateProcessContext p call.processImageName)
        call.currentTime.ticks))
  | _, _ => none

/-- The tracker as one process sees it. -/
def machine (p : UInt32) : Machine State Action where
  step s
    -- a process makes each of its calls once
    | .enter i processImageName currentTime =>
      if (s.calls i).isNone then
        some { s with
          calls := Function.update s.calls i (some ⟨processImageName, currentTime, .entered⟩) }
      else none
    | .firstSection i => (s.calls i).bind fun call => callStep p s i call .firstSection
    | .allocate i succeeds => (s.calls i).bind fun call => callStep p s i call (.allocate succeeds)
    | .secondSection i => (s.calls i).bind fun call => callStep p s i call .secondSection
    | .applyConfig threshold seconds monitoring =>
      some { s with config := configAfter s.config threshold seconds monitoring }
    | .setMonitoring value => some { s with config := { s.config with monitoringEnabled := value } }
    | .remove => some { s with context := none, log := [] }

/-! ### The view of a process -/

/-- The phase of a call as its process sees it. -/
def viewPhase : CallPhase → Option Phase
  | .passed => none
  | .entered => some .entered
  | .allocating => some .allocating
  | .allocated _ => some .allocated
  | .notifying result _ => some (.decided result)
  | .drawing result _ _ => some (.decided result)
  | .sending result _ _ => some (.decided result)
  | .returned result => some (.decided result)

/-- A call as its process sees it. -/
def viewCall (call : RansomShield.Call) : Option Call :=
  (viewPhase call.phase).map fun phase => ⟨call.processImageName, call.currentTime, phase⟩

/-- The state of the driver as a process sees it. -/
def view (p : UInt32) (s : SystemState) : State where
  config := s.driver.config
  context := rsLookupProcessContext s.driver p
  calls i := (s.calls ⟨p, i⟩).bind viewCall
  log := operationsOf p s.history

/-- A step of a call, as its process sees it. -/
def ofCallStep (i : ℕ) : CallStep → Option Action
  | .firstSection => some (.firstSection i)
  | .allocate succeeds => some (.allocate i succeeds)
  | .secondSection => some (.secondSection i)
  | .snapshotPort => none
  | .drawSequence => none
  | .sendMessage => none

/-- A control action, as a process sees it. -/
def ofControl (p : UInt32) : Control → Option Action
  | .applyConfig threshold seconds monitoring => some (.applyConfig threshold seconds monitoring)
  | .setMonitoring value => some (.setMonitoring value)
  | .removeProcessContext q => if q = p then some .remove else none
  | .clearDynamicAllowlist => none
  | .addDynamicAllowlistEntry _ => none
  | .drawSequence => none
  | .getBlockedPids => none
  | .getPidCounts => none
  | .connect _ => none
  | .disconnect => none

end Process

/-- An action, as a process sees it. -/
def Action.ofProcess (p : UInt32) : Action → Option Process.Action
  | .pass _ _ => none
  | .track c data =>
    if c.processId = p then some (.enter c.serial data.processImageName data.interruptTime)
    else none
  | .call c processImageName currentTime =>
    if c.processId = p then some (.enter c.serial processImageName currentTime) else none
  | .advance c step => if c.processId = p then Process.ofCallStep c.serial step else none
  | .control k => Process.ofControl p k

end RansomShield
