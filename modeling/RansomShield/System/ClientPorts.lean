import RansomShield.System.Basic
import RansomShield.Tracker.Lookup

/-!
# The client ports of the driver

The driver together with the filter manager's side of its communication port, `portSystem`: clients
connect and disconnect, and `RsDestroyCommPort` tears the port down while calls of
`RsSendBlockNotification` are in flight.  The filter manager counts a client port against
`MaxConnections` until the driver passes it to `FltCloseClientPort`, and calls the disconnect
callback once for each connection.

Client ports are numbered in the order in which they are handed to the connect callback, so that a
number stands for one connection.  `RsDestroyCommPort` takes no lock; each access to `g_ClientPort`
is a step of its own.  A step of a call copies `g_ClientPort`, keeps its copy, or sends
(`localClientPort_of_step`); what the other steps do is the relation `PortStep`.
-/

namespace RansomShield

/-! ### The machine -/

/-- `MaxConnections` of `FltCreateCommunicationPort`. -/
def maxConnections : ℕ := 1

/-- Where the call of `RsDestroyCommPort` is. -/
inductive TeardownPhase
  /-- Not called yet. -/
  | idle
  /-- `g_ClientPort` was not `NULL`, and is to be read again. -/
  | reading
  /-- Before `g_ClientPort` is reset. -/
  | clearing (clientPort : Option PortHandle)
  /-- Before `FltCloseClientPort`. -/
  | closing (clientPort : Option PortHandle)
  /-- Before `FltCloseCommunicationPort`. -/
  | closingServer
  | returned
  deriving DecidableEq

/-- The driver, and what the filter manager knows of its ports. -/
structure PortState where
  system : SystemState
  /-- `g_ServerPort` is not `NULL`. -/
  serverPort : Bool
  /-- The number of client ports handed to the connect callback. -/
  issued : ℕ
  /-- The client ports passed to `FltCloseClientPort`. -/
  closed : List PortHandle
  /-- The client ports whose disconnect callback has returned. -/
  disconnected : List PortHandle
  teardown : TeardownPhase

/-- `RsInitializeCommPort` has succeeded. -/
def PortState.init : PortState where
  system := SystemState.init
  serverPort := true
  issued := 0
  closed := []
  disconnected := []
  teardown := .idle

inductive PortAction
  /-- The filter manager accepts a client and calls `RsConnectNotifyCallback`. -/
  | connect
  /-- The filter manager calls `RsDisconnectNotifyCallback` for a client port. -/
  | disconnect (clientPort : PortHandle)
  /-- The next step of `RsDestroyCommPort`. -/
  | destroy
  /-- Another action of the driver. -/
  | other (a : Action)

/-- The action is a callback of the communication port. -/
def Action.isPortCallback : Action → Bool
  | .control (.connect _) => true
  | .control .disconnect => true
  | _ => false

namespace PortState

variable (s : PortState)

/-- The client ports that count against `MaxConnections`. -/
def openPorts : List PortHandle := (List.range s.issued).filter fun p => p ∉ s.closed

/-- The filter manager accepts another client. -/
def accepts : Bool := s.serverPort && decide (s.openPorts.length < maxConnections)

/-- `RsDestroyCommPort`, step by step. -/
def rsDestroyCommPort : Option PortState :=
  match s.teardown with
  | .idle =>
    some { s with
      teardown := if s.system.driver.clientPort.isSome then .reading else .closingServer }
  | .reading => some { s with teardown := .clearing s.system.driver.clientPort }
  | .clearing clientPort =>
    some { s with
      system := { s.system with driver := { s.system.driver with clientPort := none } }
      teardown := .closing clientPort }
  | .closing clientPort =>
    some { s with closed := s.closed ++ clientPort.toList, teardown := .closingServer }
  | .closingServer => some { s with serverPort := false, teardown := .returned }
  | .returned => none

end PortState

/-- The driver and the filter manager. -/
def portSystem (upcase : UInt16 → UInt16) : Machine PortState PortAction where
  step s
    | .connect =>
      if s.accepts then
        ((system upcase).step s.system (.control (.connect s.issued))).map fun system =>
          { s with system := system, issued := s.issued + 1 }
      else none
    | .disconnect p =>
      if p < s.issued ∧ p ∉ s.disconnected then
        ((system upcase).step s.system (.control .disconnect)).map fun system =>
          { s with system := system, disconnected := s.disconnected ++ [p] }
      else none
    | .destroy => s.rsDestroyCommPort
    | .other a =>
      if a.isPortCallback then none
      else ((system upcase).step s.system a).map fun system => { s with system := system }

/-! ### Copies of the client port -/

/-- The port that a call has copied from `g_ClientPort`, and has yet to send on. -/
def CallPhase.localClientPort : CallPhase → Option PortHandle
  | .drawing _ _ localClientPort => some localClientPort
  | .sending _ localClientPort _ => some localClientPort
  | _ => none

/-- The port that a call has copied from `g_ClientPort`, and has yet to send on. -/
def SystemState.localClientPort (s : SystemState) (c : CallId) : Option PortHandle :=
  (s.calls c).bind fun call => call.phase.localClientPort

theorem localClientPort_update {s s' : SystemState} {c : CallId} {call : Call}
    (h : s'.calls = Function.update s.calls c (some call)) (d : CallId) :
    s'.localClientPort d =
      if d = c then call.phase.localClientPort else s.localClientPort d :=
  bind_update h _ d

theorem SectionResult.localClientPort_phase (p : UInt32) (r : SectionResult) :
    (r.phase p).localClientPort = none := by
  unfold SectionResult.phase
  cases r.result p with
  | none => rfl
  | some result => cases hn : result.notification <;> simp [hn, CallPhase.localClientPort]

/-- A step of a call: it copies `g_ClientPort`, keeps its copy, or sends. -/
theorem callStep_localClientPort {s s' : SystemState} {c : CallId} {call : Call}
    {step : CallStep} (h : callStep s c call step = some s') :
    ∃ phase, s'.calls = Function.update s.calls c (some { call with phase := phase }) ∧
      (phase.localClientPort = call.phase.localClientPort ∨
        (step = .sendMessage ∧ phase.localClientPort = none) ∨
        (call.phase.localClientPort = none ∧
          phase.localClientPort = s.driver.clientPort)) := by
  unfold callStep at h
  split at h
  · next hphase =>
    cases h
    refine ⟨_, rfl, .inl ?_⟩
    rw [SectionResult.localClientPort_phase, hphase]
    rfl
  · next hphase =>
    cases h
    exact ⟨_, rfl, .inl (by rw [hphase]; rfl)⟩
  · next hphase =>
    cases h
    exact ⟨_, rfl, .inl (by rw [hphase]; rfl)⟩
  · next newContext hphase =>
    cases h
    refine ⟨_, rfl, .inl ?_⟩
    rw [SectionResult.localClientPort_phase, hphase]
    rfl
  · next hphase =>
    split at h
    · cases h
      exact ⟨_, rfl, .inl (by rw [hphase]; rfl)⟩
    · next port hport =>
      cases h
      exact ⟨_, rfl, .inr (.inr ⟨by rw [hphase]; rfl, hport.symm⟩)⟩
  · next hphase =>
    cases h
    exact ⟨_, rfl, .inl (by rw [hphase]; rfl)⟩
  · cases h
    exact ⟨_, rfl, .inr (.inl ⟨rfl, rfl⟩)⟩
  · cases h

/-- **The copies of the client port** after a step that is no callback of the port. -/
theorem localClientPort_of_step {upcase : UInt16 → UInt16} {s s' : SystemState} {a : Action}
    (h : (system upcase).step s a = some s') (c : CallId) :
    s'.localClientPort c = s.localClientPort c ∨
      (a = .advance c .sendMessage ∧ s'.localClientPort c = none) ∨
      (s.localClientPort c = none ∧ s'.localClientPort c = s.driver.clientPort) := by
  obtain ⟨d, call, hd, hphase, rfl⟩ | ⟨d, step, call, rfl, hcall, hcs⟩ | ⟨k, rfl, rfl⟩ :=
    system_step_cases h
  · refine .inl ?_
    rw [localClientPort_update (SystemState.start_calls s d call)]
    split_ifs with hc
    · subst hc
      rw [SystemState.localClientPort, hd]
      rcases hphase with hphase | hphase
      · rw [hphase]
        rfl
      · rw [hphase]
        rfl
    · rfl
  · obtain ⟨phase, hcalls, hport⟩ := callStep_localClientPort hcs
    rw [localClientPort_update hcalls]
    split_ifs with hc
    · subst hc
      have hold : s.localClientPort c = call.phase.localClientPort := by
        rw [SystemState.localClientPort, hcall, Option.bind_some]
      rw [hold]
      rcases hport with hkeep | ⟨rfl, hnone⟩ | hcopy
      · exact .inl hkeep
      · exact .inr (.inl ⟨rfl, hnone⟩)
      · exact .inr (.inr hcopy)
    · exact .inl rfl
  · exact .inl rfl

theorem clientPort_of_step {upcase : UInt16 → UInt16} {s s' : SystemState} {a : Action}
    (ha : a.isPortCallback = false) (h : (system upcase).step s a = some s') :
    s'.driver.clientPort = s.driver.clientPort := by
  obtain ⟨d, call, -, -, rfl⟩ | ⟨d, step, call, rfl, -, hcs⟩ | ⟨k, rfl, rfl⟩ :=
    system_step_cases h
  · rfl
  · obtain ⟨-, -, rfl⟩ | ⟨newContext, -, -, rfl⟩ | ⟨_, _, _, hdriver, -, rfl⟩ :=
      callStep_cases hcs
    · exact (sameGlobals_recordFirstSection s.driver d.processId _).clientPort
    · exact (sameGlobals_recordSecondSection s.driver newContext d.processId _).clientPort
    · rcases hdriver with rfl | rfl
      · rfl
      · rfl
  · cases k with
    | connect | disconnect => cases ha
    | removeProcessContext p => exact (sameGlobals_removeProcessContext s.driver p).clientPort
    | addDynamicAllowlistEntry entry =>
      simp only [Control.apply, rsAddDynamicAllowlistEntry]
      split_ifs <;> rfl
    | applyConfig | setMonitoring | clearDynamicAllowlist | drawSequence | getBlockedPids
    | getPidCounts => rfl

/-! ### What a step can do -/

/-- What a step does to the ports, one case for each branch of the source. -/
inductive PortStep (s : PortState) : PortAction → PortState → Prop
  | connects {system} (h : s.accepts = true)
    (hport : system.driver.clientPort = some s.issued)
    (hcopies : ∀ c, system.localClientPort c = s.system.localClientPort c) :
    PortStep s .connect { s with system := system, issued := s.issued + 1 }
  | disconnects {p system} (hp : p < s.issued) (hfirst : p ∉ s.disconnected)
    (hport : system.driver.clientPort = none)
    (hcopies : ∀ c, system.localClientPort c = s.system.localClientPort c) :
    PortStep s (.disconnect p)
      { s with system := system, disconnected := s.disconnected ++ [p] }
  | findsClient (ht : s.teardown = .idle) (h : s.system.driver.clientPort.isSome = true) :
    PortStep s .destroy { s with teardown := .reading }
  | findsNone (ht : s.teardown = .idle) (h : s.system.driver.clientPort = none) :
    PortStep s .destroy { s with teardown := .closingServer }
  | readsPort (ht : s.teardown = .reading) :
    PortStep s .destroy { s with teardown := .clearing s.system.driver.clientPort }
  | clearsPort {clientPort system} (ht : s.teardown = .clearing clientPort)
    (hport : system.driver.clientPort = none)
    (hcopies : ∀ c, system.localClientPort c = s.system.localClientPort c) :
    PortStep s .destroy { s with system := system, teardown := .closing clientPort }
  | closesPort {clientPort} (ht : s.teardown = .closing clientPort) :
    PortStep s .destroy
      { s with closed := s.closed ++ clientPort.toList, teardown := .closingServer }
  | closesServer (ht : s.teardown = .closingServer) :
    PortStep s .destroy { s with serverPort := false, teardown := .returned }
  | other {a system} (hport : system.driver.clientPort = s.system.driver.clientPort)
    (hcopies : ∀ c, system.localClientPort c = s.system.localClientPort c ∨
      (a = .advance c .sendMessage ∧ system.localClientPort c = none) ∨
      (s.system.localClientPort c = none ∧
        system.localClientPort c = s.system.driver.clientPort)) :
    PortStep s (.other a) { s with system := system }

/-- **What a step can do.** -/
theorem portStep_of_step {upcase : UInt16 → UInt16} {s s' : PortState} {a : PortAction}
    (h : (portSystem upcase).step s a = some s') : PortStep s a s' := by
  cases a with
  | connect =>
    simp only [portSystem, Option.ite_none_right_eq_some, Option.map_eq_some_iff] at h
    obtain ⟨haccepts, system, hsystem, rfl⟩ := h
    cases hsystem
    exact .connects haccepts rfl fun _ => rfl
  | disconnect p =>
    simp only [portSystem, Option.ite_none_right_eq_some, Option.map_eq_some_iff] at h
    obtain ⟨⟨hp, hfirst⟩, system, hsystem, rfl⟩ := h
    cases hsystem
    exact .disconnects hp hfirst rfl fun _ => rfl
  | destroy =>
    simp only [portSystem, PortState.rsDestroyCommPort] at h
    split at h
    · next ht =>
      cases h
      split_ifs with hport
      · exact .findsClient ht hport
      · exact .findsNone ht (by simpa using hport)
    · next ht =>
      cases h
      exact .readsPort ht
    · next clientPort ht =>
      cases h
      exact .clearsPort ht rfl fun _ => rfl
    · next clientPort ht =>
      cases h
      exact .closesPort ht
    · next ht =>
      cases h
      exact .closesServer ht
    · cases h
  | other a =>
    simp only [portSystem, Option.ite_none_left_eq_some, Option.map_eq_some_iff,
      Bool.not_eq_true] at h
    obtain ⟨ha, system, hsystem, rfl⟩ := h
    exact .other (clientPort_of_step ha hsystem) (localClientPort_of_step hsystem)

end RansomShield
