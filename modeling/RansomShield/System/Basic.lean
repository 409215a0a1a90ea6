import RansomShield.Driver.Callbacks
import RansomShield.Machine.Basic

/-!
# The driver with concurrent calls

The driver as a machine (`system`): any number of calls of `RsRecordOperation` are in flight, each
made by a pre-operation callback or directly, and one action is one step of one call that runs
under `g_ContextLock` or touches no shared data, or one locked section of another driver function
(`Control`).  A run is an interleaving.

A call reads the time when it starts, before its first lock acquisition; nothing is assumed about
the times of different calls.

The state carries the `history` of the tracker: which operations were recorded and which contexts
were removed, in the order of the locked sections.  No step reads it.
-/

namespace RansomShield

/-! ### Calls -/

/-- The calls are numbered, for each process that issues requests. -/
structure CallId where
  processId : UInt32
  serial : ℕ
  deriving DecidableEq

/-- How far a call has come. -/
inductive CallPhase
  /-- The callback has let the request pass, without recording it. -/
  | passed
  /-- The time is read, the lock not yet acquired. -/
  | entered
  /-- The first lookup found no context, and the lock is released. -/
  | allocating
  /-- The new context is allocated and initialised. -/
  | allocated (newContext : RsProcessContext)
  /-- The lock is released, `RsSendBlockNotification` is called. -/
  | notifying (result : RecordResult) (n : BlockNotification)
  /-- The client port is copied, the sequence number not yet drawn. -/
  | drawing (result : RecordResult) (n : BlockNotification) (localClientPort : PortHandle)
  /-- The message is built, and not yet sent. -/
  | sending (result : RecordResult) (localClientPort : PortHandle)
      (notification : RsNotificationBlockedPid)
  /-- `RsRecordOperation` has returned. -/
  | returned (result : RecordResult)

/-- The outcome of a call, which is decided when its last locked section ends. -/
def CallPhase.result : CallPhase → Option RecordResult
  | .notifying result _ => some result
  | .drawing result _ _ => some result
  | .sending result _ _ => some result
  | .returned result => some result
  | _ => none

/-- A call of `RsRecordOperation`. -/
structure Call where
  /-- The request, when the caller is a pre-operation callback. -/
  request : Option FltIoParameterBlock
  processImageName : Option UnicodeString
  currentTime : InterruptTime
  phase : CallPhase

/-- How the callback that made a call ends, once it has ended. -/
def Call.completion (call : Call) : Option PreopCompletion :=
  match call.request, call.phase with
  | some _, .passed => some .pass
  | some iopb, .returned r => some (iopb.majorFunction.complete r.status r.shouldBlock)
  | _, _ => none

/-- A callback that denies its request has been told so. -/
theorem Call.shouldBlock_of_denied {call : Call} (h : call.completion = some .denied) :
    ∃ r, call.phase.result = some r ∧ r.shouldBlock = true := by
  unfold Call.completion at h
  split at h
  · cases h
  · next iopb r _ hphase =>
    rw [hphase]
    exact ⟨r, rfl, (complete_eq_denied.1 (Option.some.inj h)).2⟩
  · cases h

/-! ### States -/

/-- An operation that was recorded in the ring of its process. -/
structure Operation where
  call : CallId
  time : InterruptTime
  recentCount : UInt32
  shouldBlock : Bool
  deriving DecidableEq

/-- What happens to the contexts. -/
inductive TrackerEvent
  | recorded (op : Operation)
  | removed (processId : UInt32)
  deriving DecidableEq

/-- The state of the driver and of the calls in it. -/
structure SystemState where
  driver : DriverState
  calls : CallId → Option Call
  /-- The messages passed to `FltSendMessage`. -/
  sent : List (PortHandle × RsNotificationBlockedPid)
  history : List TrackerEvent

/-- The driver is loaded, and no call has been made. -/
def SystemState.init : SystemState where
  driver := DriverState.init
  calls := fun _ => none
  sent := []
  history := []

/-- The outcome of a call, once it is decided. -/
def SystemState.result (s : SystemState) (c : CallId) : Option RecordResult :=
  (s.calls c).bind fun call => call.phase.result

/-- The operations of a process that its context has recorded: since the context was created, all
of them. -/
def operationsOf (p : UInt32) (history : List TrackerEvent) : List Operation :=
  history.foldl
    (fun ops event =>
      match event with
      | .recorded op => if op.call.processId = p then ops ++ [op] else ops
      | .removed q => if q = p then [] else ops)
    []

/-! ### Actions -/

/-- The steps of a call. -/
inductive CallStep
  | firstSection
  | allocate (succeeds : Bool)
  | secondSection
  | snapshotPort
  | drawSequence
  | sendMessage
  deriving DecidableEq

/-- The locked sections of the message handler, and the port callbacks. -/
inductive Control
  | applyConfig (fileCountThreshold timeWindowSeconds : UInt32) (monitoringEnabled : UInt8)
  | setMonitoring (value : UInt8)
  | removeProcessContext (processId : UInt32)
  | clearDynamicAllowlist
  | addDynamicAllowlistEntry (entry : List UInt16)
  | drawSequence
  | getBlockedPids
  | getPidCounts
  | connect (clientPort : PortHandle)
  | disconnect

/-- The state after a control action. -/
def Control.apply (s : DriverState) : Control → DriverState
  | .applyConfig fileCountThreshold timeWindowSeconds monitoringEnabled =>
    rsApplyConfig s fileCountThreshold timeWindowSeconds monitoringEnabled
  | .setMonitoring value => setMonitoringEnabled s value
  | .removeProcessContext processId => rsRemoveProcessContext s processId
  | .clearDynamicAllowlist => rsClearDynamicAllowlist s
  | .addDynamicAllowlistEntry entry => rsAddDynamicAllowlistEntry s entry
  | .drawSequence => RansomShield.drawSequence s
  | .getBlockedPids => s
  | .getPidCounts => s
  | .connect clientPort => rsConnectNotifyCallback s clientPort
  | .disconnect => rsDisconnectNotifyCallback s

/-- What a control action adds to the history. -/
def Control.events : Control → List TrackerEvent
  | .removeProcessContext processId => [.removed processId]
  | _ => []

inductive Action
  /-- A callback lets its request pass. -/
  | pass (c : CallId) (data : FltCallbackData)
  /-- A callback calls `RsRecordOperation`. -/
  | track (c : CallId) (data : FltCallbackData)
  /-- `RsRecordOperation` is called otherwise. -/
  | call (c : CallId) (processImageName : Option UnicodeString) (currentTime : InterruptTime)
  | advance (c : CallId) (step : CallStep)
  | control (k : Control)

/-! ### Steps -/

namespace SystemState

/-- A new call. -/
def start (s : SystemState) (c : CallId) (call : Call) : SystemState :=
  { s with calls := Function.update s.calls c (some call) }

/-- A call in its next phase. -/
def setPhase (s : SystemState) (c : CallId) (call : Call) (phase : CallPhase) : SystemState :=
  { s with calls := Function.update s.calls c (some { call with phase := phase }) }

end SystemState

/-- The phase of a call after a locked section. -/
def SectionResult.phase (processId : UInt32) (r : SectionResult) : CallPhase :=
  match r.result processId with
  | none => .allocating
  | some result =>
    match result.notification with
    | none => .returned result
    | some n => .notifying result n

/-- What a locked section adds to the history. -/
def SectionResult.events (c : CallId) (currentTime : InterruptTime) :
    SectionResult → List TrackerEvent
  | .evaluated e =>
    [.recorded
      { call := c, time := currentTime, recentCount := e.recentCount
        shouldBlock := e.shouldBlock }]
  | _ => []

/-- The state after a locked section of a call. -/
def SystemState.endSection (s : SystemState) (c : CallId) (call : Call)
    (outcome : DriverState × SectionResult) : SystemState where
  driver := outcome.1
  calls := Function.update s.calls c (some { call with phase := outcome.2.phase c.processId })
  sent := s.sent
  history := s.history ++ outcome.2.events c call.currentTime

/-- A step of a call. -/
def callStep (s : SystemState) (c : CallId) (call : Call) (step : CallStep) :
    Option SystemState :=
  match step, call.phase with
  | .firstSection, .entered =>
    some (s.endSection c call (recordFirstSection s.driver c.processId call.currentTime.ticks))
  | .allocate true, .allocating =>
    some (s.setPhase c call
      (.allocated (rsCreateProcessContext c.processId call.processImageName)))
  -- fail open: the request is let through, unrecorded
  | .allocate false, .allocating => some (s.setPhase c call (.returned RecordResult.outOfMemory))
  | .secondSection, .allocated newContext =>
    some (s.endSection c call
      (recordSecondSection s.driver newContext c.processId call.currentTime.ticks))
  -- the notification takes the lock for the port and for the sequence number only
  | .snapshotPort, .notifying result n =>
    match s.driver.clientPort with
    | none => some (s.setPhase c call (.returned result))
    | some port => some (s.setPhase c call (.drawing result n port))
  | .drawSequence, .drawing result n port =>
    some
      { s.setPhase c call (.sending result port (n.message s.driver.messageSequence)) with
        driver := RansomShield.drawSequence s.driver }
  | .sendMessage, .sending result port notification =>
    some
      { s.setPhase c call (.returned result) with sent := s.sent ++ [(port, notification)] }
  | _, _ => none

/-- The call of a callback. -/
def FltCallbackData.newCall (data : FltCallbackData) (phase : CallPhase) : Call where
  request := some data.iopb
  processImageName := data.processImageName
  currentTime := data.interruptTime
  phase := phase

/-- The request belongs to the call, and the call is new. -/
def SystemState.accepts (s : SystemState) (c : CallId) (data : FltCallbackData) : Bool :=
  (s.calls c).isNone && data.requestorProcessId == c.processId

/-- The driver with concurrent calls. -/
def system (upcase : UInt16 → UInt16) : Machine SystemState Action where
  step s
    | .pass c data =>
      if s.accepts c data && data.passes upcase s.driver then
        some (s.start c (data.newCall .passed))
      else none
    | .track c data =>
      if s.accepts c data && !data.passes upcase s.driver then
        some (s.start c (data.newCall .entered))
      else none
    | .call c processImageName currentTime =>
      if (s.calls c).isNone then
        some (s.start c
          { request := none
            processImageName := processImageName
            currentTime := currentTime
            phase := .entered })
      else none
    | .advance c step => (s.calls c).bind fun call => callStep s c call step
    | .control k =>
      some { s with driver := k.apply s.driver, history := s.history ++ k.events }

/-- The states that some interleaving leads to. -/
def Reachable (upcase : UInt16 → UInt16) (s : SystemState) : Prop :=
  ∃ as, (system upcase).run SystemState.init as = some s

theorem bind_update {I A B : Type*} [DecidableEq I] {f f' : I → Option A} {i : I} {x : A}
    (h : f' = Function.update f i (some x)) (g : A → Option B) (j : I) :
    (f' j).bind g = if j = i then g x else (f j).bind g := by
  rw [h]
  by_cases hj : j = i
  · rw [if_pos hj, hj, Function.update_self, Option.bind_some]
  · rw [if_neg hj, Function.update_of_ne hj]

namespace SystemState

variable (s : SystemState) (c : CallId) (call : Call)

@[simp] theorem start_calls : (s.start c call).calls = Function.update s.calls c (some call) := rfl

@[simp] theorem setPhase_calls (phase : CallPhase) :
    (s.setPhase c call phase).calls =
      Function.update s.calls c (some { call with phase := phase }) := rfl

@[simp] theorem endSection_calls (outcome : DriverState × SectionResult) :
    (s.endSection c call outcome).calls =
      Function.update s.calls c (some { call with phase := outcome.2.phase c.processId }) := rfl

end SystemState

/-! ### What a step can do -/

/-- **The steps of a call**: a locked section, or a step that changes neither the contexts nor the
history. -/
theorem callStep_cases {s s' : SystemState} {c : CallId} {call : Call} {step : CallStep}
    (h : callStep s c call step = some s') :
    (step = .firstSection ∧ call.phase = .entered ∧
      s' = s.endSection c call
        (recordFirstSection s.driver c.processId call.currentTime.ticks)) ∨
    (∃ newContext, step = .secondSection ∧ call.phase = .allocated newContext ∧
      s' = s.endSection c call
        (recordSecondSection s.driver newContext c.processId call.currentTime.ticks)) ∨
    (∃ phase driver' sent', (driver' = s.driver ∨ driver' = RansomShield.drawSequence s.driver) ∧
      (∀ newContext, phase = .allocated newContext →
        newContext = rsCreateProcessContext c.processId call.processImageName) ∧
      s' = { s.setPhase c call phase with driver := driver', sent := sent' }) := by
  unfold callStep at h
  split at h
  · next hphase => exact .inl ⟨rfl, hphase, (Option.some.inj h).symm⟩
  · cases h
    exact .inr (.inr ⟨_, _, _, .inl rfl, fun _ he => (CallPhase.allocated.inj he).symm, rfl⟩)
  · cases h
    refine .inr (.inr ⟨_, _, _, .inl rfl, ?_, rfl⟩)
    rintro _ ⟨⟩
  · next newContext hphase =>
    exact .inr (.inl ⟨newContext, rfl, hphase, (Option.some.inj h).symm⟩)
  · split at h
    · cases h
      refine .inr (.inr ⟨_, _, _, .inl rfl, ?_, rfl⟩)
      rintro _ ⟨⟩
    · cases h
      refine .inr (.inr ⟨_, _, _, .inl rfl, ?_, rfl⟩)
      rintro _ ⟨⟩
  · cases h
    refine .inr (.inr ⟨_, _, _, .inr rfl, ?_, rfl⟩)
    rintro _ ⟨⟩
  · cases h
    refine .inr (.inr ⟨_, _, _, .inl rfl, ?_, rfl⟩)
    rintro _ ⟨⟩
  · cases h

theorem callStep_calls {s s' : SystemState} {c : CallId} {call : Call} {step : CallStep}
    (h : callStep s c call step = some s') :
    ∃ phase, s'.calls = Function.update s.calls c (some { call with phase := phase }) := by
  obtain ⟨-, -, rfl⟩ | ⟨_, -, -, rfl⟩ | ⟨phase, _, _, -, -, rfl⟩ := callStep_cases h
  · exact ⟨_, rfl⟩
  · exact ⟨_, rfl⟩
  · exact ⟨phase, rfl⟩

/-- **The actions**: a call starts, a call advances, or a control action. -/
theorem system_step_cases {upcase : UInt16 → UInt16} {s s' : SystemState} {a : Action}
    (h : (system upcase).step s a = some s') :
    (∃ c call, s.calls c = none ∧ (call.phase = .passed ∨ call.phase = .entered) ∧
      s' = s.start c call) ∨
    (∃ c step call, a = .advance c step ∧ s.calls c = some call ∧
      callStep s c call step = some s') ∨
    (∃ k, a = .control k ∧
      s' = { s with driver := k.apply s.driver, history := s.history ++ k.events }) := by
  cases a with
  | pass c data =>
    simp only [system, Option.ite_none_right_eq_some, Option.some.injEq, Bool.and_eq_true,
      SystemState.accepts, Option.isNone_iff_eq_none] at h
    exact .inl ⟨c, _, h.1.1.1, .inl rfl, h.2.symm⟩
  | track c data =>
    simp only [system, Option.ite_none_right_eq_some, Option.some.injEq, Bool.and_eq_true,
      SystemState.accepts, Option.isNone_iff_eq_none] at h
    exact .inl ⟨c, _, h.1.1.1, .inr rfl, h.2.symm⟩
  | call c processImageName currentTime =>
    simp only [system, Option.ite_none_right_eq_some, Option.some.injEq,
      Option.isNone_iff_eq_none] at h
    exact .inl ⟨c, _, h.1, .inr rfl, h.2.symm⟩
  | advance c step =>
    obtain ⟨call, hcall, hstep⟩ := Option.bind_eq_some_iff.1 h
    exact .inr (.inl ⟨c, step, call, rfl, hcall, hstep⟩)
  | control k => exact .inr (.inr ⟨k, rfl, (Option.some.inj h).symm⟩)

end RansomShield
