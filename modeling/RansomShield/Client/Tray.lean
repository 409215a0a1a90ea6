import RansomShield.Client.Session

/-!
# The tray agent

The event handlers of `usermode/tray/TrayMain.cpp` with the status that
`NotificationManager::SetStatus` shows, as a machine over the events of the window and of its
surroundings: the listener may see the connection go, and the driver may be loaded, run and be
unloaded between any two events.  What becomes of the requests is given by a `TrayEnvironment`.

A connection belongs to the driver that opened it.  While the client has not noticed that this
driver is gone, its handle is *stale*: every request on it fails.
-/

namespace RansomShield

/-- What the icon shows. -/
inductive TrayTip
  | driverOffline
  | monitoringPaused
  | monitoringActive
  deriving DecidableEq, Repr

/-- The status in the `NotificationManager`. -/
structure TrayStatus where
  /-- `m_connected`. -/
  connected : Bool
  /-- `m_paused`. -/
  paused : Bool
  deriving DecidableEq, Repr

/-- The text that `SetStatus` chooses. -/
def TrayStatus.tip (t : TrayStatus) : TrayTip :=
  if !t.connected then .driverOffline
  else if t.paused then .monitoringPaused
  else .monitoringActive

/-- `HEALTH_TICKS_PER_QUERY`. -/
def healthTicksPerQuery : ℕ := 12

/-- What becomes of the requests, and the sequence numbers that `MakeHeader` draws. -/
structure TrayEnvironment where
  deliveries : ℕ → Delivery
  numbers : ℕ → UInt32

/-- The tray agent, the registry and the driver. -/
structure TrayState where
  /-- The process runs. -/
  running : Bool
  session : Session
  /-- The handle of the session belongs to a driver that was unloaded. -/
  stale : Bool
  config : ConfigManager
  registry : Registry
  status : TrayStatus
  /-- `s_healthTick`. -/
  healthTick : ℕ

/-- A request on a stale handle fails, and nobody handles it. -/
def Delivery.lost (δ : Delivery) : Delivery := { δ with succeeds := false, handled := false }

/-- `MonitoringEnabled` of a reply buffer that was zeroed. -/
def replyMonitoring : Option RsReply → UInt8
  | some (.config _ _ _ monitoringEnabled _ _) => monitoringEnabled
  | _ => 0

namespace TrayState

variable (env : TrayEnvironment) (s : TrayState)

/-- What becomes of the requests on the handle. -/
def deliveries (n : ℕ) : Delivery :=
  if s.stale then (env.deliveries n).lost else env.deliveries n

/-- The sequence numbers of the next requests. -/
def numbers (n : ℕ) : UInt32 := env.numbers (s.session.requests + n)

/-- `NotificationManager::Instance().SetStatus(connected, paused)`. -/
def setStatus (connected paused : Bool) : TrayState := { s with status := ⟨connected, paused⟩ }

/-- `g_module.Connect()`: a connection that it opens is not stale. -/
def connect (answer : Except FailureCode PortHandle) : TrayState × HResult :=
  let opened := s.session.connect answer
  ({ s with
      session := opened.1
      stale := s.stale && (s.session.connected || opened.2.failed) }, opened.2)

/-- A request of `g_module.Comm()`. -/
def request (bytes : List UInt8) (replySize : ℕ) : TrayState × SendReply :=
  let sent := s.session.send (s.deliveries env) (bytes, replySize)
  ({ s with session := sent.1 }, sent.2)

/-- `g_module.PushToDriver()`, whose result is ignored. -/
def push : TrayState :=
  { s with
    session := ((pushToDriver s.session.connected (s.numbers env) s.config).run
      (Session.serve (s.deliveries env)) s.session).1 }

/-- What follows a successful `Connect`: `PushToDriver`, `StartListening` and
`SetStatus(true, false)`. -/
def goOnline : TrayState := (s.push env).setStatus true false

/-- `g_module.Comm().Disconnect()`: the driver that the handle belongs to is notified. -/
def disconnect : TrayState :=
  { s with
    session :=
      { s.session with
        connected := false
        driver :=
          if s.stale then s.session.driver
          else s.session.driver.map rsDisconnectNotifyCallback } }

/-- `wWinMain`, up to the message loop.  The answer of `Initialize` is ignored. -/
def start (configOpens allowlistOpens : Bool) (answer : Except FailureCode PortHandle) :
    Option TrayState :=
  (ConfigManager.new.runInitialize configOpens allowlistOpens s.registry).map fun (config, _) =>
    let s : TrayState :=
      { s with
        running := true
        session := { s.session with connected := false }
        config := config
        status := ⟨false, false⟩
        healthTick := 0 }
    let (s, hr) := s.connect answer
    if hr.failed then s.setStatus false false else s.goOnline env

/-- `WM_TIMER`. -/
def timer (answer : Except FailureCode PortHandle) : TrayState :=
  if !s.session.connected then
    let (s, hr) := s.connect answer
    if hr.failed then s else { s.goOnline env with healthTick := 0 }
  else if healthTicksPerQuery ≤ s.healthTick + 1 then
    let s : TrayState := { s with healthTick := 0 }
    let (s, hr, _) := s.request env (queryConfigRequest (s.numbers env 0)) sizeofReplyConfig
    if hr.failed then s.disconnect.setStatus false false else s
  else { s with healthTick := s.healthTick + 1 }

/-- The two branches of `TogglePauseMonitoring`: a request, and when it succeeds, the new status and
the setting that is saved. -/
def switchMonitoring (bytes : List UInt8) (enabled : Bool) (faults : SaveFaults) : TrayState :=
  let (s, hr, _) := s.request env bytes sizeofReplyGeneric
  if hr.failed then s
  else
    let s := s.setStatus true (!enabled)
    let (config, registry) := s.config.setMonitoringEnabled enabled faults s.registry
    { s with config := config, registry := registry }

/-- `TogglePauseMonitoring`. -/
def togglePause (faults : SaveFaults) : TrayState :=
  let (s, hr, reply) := s.request env (queryConfigRequest (s.numbers env 0)) sizeofReplyConfig
  if hr.failed then s
  else if replyMonitoring reply ≠ 0 then
    s.switchMonitoring env (pauseMonitoringRequest (s.numbers env 0)) false faults
  else s.switchMonitoring env (resumeMonitoringRequest (s.numbers env 0)) true faults

/-- `ShowStatusDialog`, without the dialog. -/
def showStatusDialog : TrayState :=
  (s.request env (queryConfigRequest (s.numbers env 0)) sizeofReplyConfig).1

/-- `WM_DESTROY`. -/
def destroy : TrayState := { s.disconnect with running := false }

end TrayState

/-- The events of the tray agent and of its surroundings. -/
inductive TrayEvent
  /-- The process starts. -/
  | start (configOpens allowlistOpens : Bool) (answer : Except FailureCode PortHandle)
  | timer (answer : Except FailureCode PortHandle)
  | togglePause (faults : SaveFaults)
  | showStatus
  | destroy
  /-- The listener sees that the connection is lost. -/
  | connectionLost
  | driverLoads
  | driverUnloads
  /-- The driver runs: it handles operations on files, which leave its parameters alone. -/
  | driverRuns (driver : DriverState)
  /-- Another program writes to the registry. -/
  | registryChanges (registry : Registry)

/-- The event is a startup, a timer tick or a toggle. -/
def TrayEvent.isHandled : TrayEvent → Bool
  | .start .. | .timer _ | .togglePause _ => true
  | _ => false

/-- The tray agent, with its surroundings. -/
def traySystem (env : TrayEnvironment) : Machine TrayState TrayEvent where
  step s
    | .start configOpens allowlistOpens answer =>
      if s.running then none else s.start env configOpens allowlistOpens answer
    | .timer answer => if s.running then some (s.timer env answer) else none
    | .togglePause faults => if s.running then some (s.togglePause env faults) else none
    | .showStatus => if s.running then some (s.showStatusDialog env) else none
    | .destroy => if s.running then some s.destroy else none
    | .connectionLost =>
      if s.running then some { s with session := { s.session with connected := false } } else none
    | .driverLoads =>
      if s.session.driver.isNone then
        some { s with session := { s.session with driver := some DriverState.init } }
      else none
    | .driverUnloads =>
      if s.session.driver.isSome then
        some { s with session := { s.session with driver := none }, stale := true }
      else none
    | .driverRuns driver =>
      match s.session.driver with
      | none => none
      | some old =>
        if driver.config = old.config then
          some { s with session := { s.session with driver := some driver } }
        else none
    | .registryChanges registry => some { s with registry := registry }

end RansomShield
