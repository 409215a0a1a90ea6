import RansomShield.Client.EventTexts
import RansomShield.Client.NotificationManager
import RansomShield.System.Basic

/-!
# From the driver to the tray

The whole way of an alert as one machine, `alertPipeline`: the driver with its concurrent calls, the
port that holds the messages until the client fetches them, the listener thread of the tray agent
(`AlertListener`) in `ListenerCallback` of `usermode/tray/TrayMain.cpp`, the window, and the log.

The port may refuse a message, since no client is connected, and `FltSendMessage` takes a message
back when its time is over.  The order in which the port hands out its messages is left open.
-/

namespace RansomShield

open Buffered (ListenerEvent listenerCallback appData appDataSize filterGetMessage
  notificationBytes)

/-- The `std::wstring` that is made of a terminated array. -/
def WString.ofArray {n : ℕ} (a : Fin n → UInt16) : WString :=
  ⟨wcs a, fun h => by simpa using List.mem_takeWhile_imp h⟩

/-- Where the listener thread of the tray agent is. -/
inductive AlertListener
  /-- In `FilterGetMessage`. -/
  | waiting
  /-- In the callback, before the locked section of `QueueAlert`. -/
  | queueing (processId : UInt32) (imageName : Fin rsMaxImageNameLen → UInt16)
      (operationCount : UInt32)
  /-- Before `PostMessageW`. -/
  | posting (processId : UInt32) (imageName : Fin rsMaxImageNameLen → UInt16)
      (operationCount : UInt32)
  /-- Before the call of the logger. -/
  | logging (event : ListenerEvent)

/-- `ListenerCallback` starts. -/
def AlertListener.callback : Option ListenerEvent → AlertListener
  | none => .waiting
  | some (.blockedPid processId imageName operationCount) =>
    .queueing processId imageName operationCount
  | some event => .logging event

/-- The driver, the port, the listener thread, the window and the log. -/
structure PipelineState where
  system : SystemState
  /-- The messages that the port holds. -/
  inbox : List RsNotificationBlockedPid
  listener : AlertListener
  notifications : NotificationState
  logger : EventLogger

/-- The driver is loaded, and the tray agent listens. -/
def PipelineState.init (logger : EventLogger) : PipelineState where
  system := SystemState.init
  inbox := []
  listener := .waiting
  notifications := NotificationState.init
  logger := logger

/-- The steps of the window procedure. -/
inductive WindowAction
  | dispatchMessage
  | drainAlert
  | showRansomwareAlert
  deriving DecidableEq

/-- The step of the `NotificationManager`. -/
def WindowAction.toNotificationAction : WindowAction → NotificationAction
  | .dispatchMessage => .dispatchMessage
  | .drainAlert => .drainAlert
  | .showRansomwareAlert => .showRansomwareAlert

inductive PipelineAction
  /-- A step of the driver; the port takes what it sends, or does not. -/
  | driver (a : Action) (arrives : Bool)
  /-- The time of `FltSendMessage` is over. -/
  | expire (i : ℕ)
  /-- `FilterGetMessage` returns a message, and the callback starts.  The header is that of the
  filter manager, and the memory what the driver and the listener find in their buffers. -/
  | getMessage (i : ℕ) (header : List UInt8) (stack buffer : Memory)
  /-- The locked section of `QueueAlert`. -/
  | queueAlert
  | postMessage
  /-- The logger, and the callback returns. -/
  | log (st : SystemTime)
  | window (a : WindowAction)

namespace PipelineState

variable (s : PipelineState)

/-- The driver has made a step. -/
def afterDriver (system : SystemState) (arrives : Bool) : PipelineState :=
  { s with
    system := system
    inbox :=
      if arrives then s.inbox ++ (system.sent.drop s.system.sent.length).map Prod.snd
      else s.inbox }

/-- The listener has fetched a message. -/
def afterGetMessage (i : ℕ) (m : RsNotificationBlockedPid) (header : List UInt8)
    (stack buffer : Memory) : PipelineState :=
  { s with
    inbox := s.inbox.eraseIdx i
    listener := .callback (listenerCallback
      (appData (filterGetMessage header (notificationBytes m stack) buffer)) appDataSize) }

/-- `QueueAlert` pushes the alert; the string is read up to its terminator. -/
def queueAlert (processId : UInt32) (imageName : Fin rsMaxImageNameLen → UInt16)
    (operationCount : UInt32) : Option PipelineState :=
  if 0 ∈ List.ofFn imageName then
    (notificationManager.step s.notifications
      (.queueAlert 0 ⟨processId, .ofArray imageName, operationCount⟩)).map fun notifications =>
        { s with
          notifications := notifications
          listener := .posting processId imageName operationCount }
  else none

end PipelineState

/-- The driver and the tray agent. -/
def alertPipeline (upcase : UInt16 → UInt16) : Machine PipelineState PipelineAction where
  step s
    | .driver a arrives =>
      ((system upcase).step s.system a).map fun system => s.afterDriver system arrives
    | .expire i =>
      if i < s.inbox.length then some { s with inbox := s.inbox.eraseIdx i } else none
    | .getMessage i header stack buffer =>
      match s.listener, s.inbox[i]? with
      | .waiting, some m =>
        if header.length = sizeofFilterMessageHeader then
          some (s.afterGetMessage i m header stack buffer)
        else none
      | _, _ => none
    | .queueAlert =>
      match s.listener with
      | .queueing processId imageName operationCount =>
        s.queueAlert processId imageName operationCount
      | _ => none
    | .postMessage =>
      match s.listener with
      | .posting processId imageName operationCount =>
        (notificationManager.step s.notifications (.postMessage 0)).map fun notifications =>
          { s with
            notifications := notifications
            listener := .logging (.blockedPid processId imageName operationCount) }
      | _ => none
    | .log st =>
      match s.listener with
      | .logging event =>
        (s.logger.logEvent st event).map fun logger =>
          { s with logger := logger, listener := .waiting }
      | _ => none
    | .window a =>
      (notificationManager.step s.notifications a.toNotificationAction).map fun notifications =>
        { s with notifications := notifications }

/-! ### What a step can do -/

/-- The steps of the machine, one case for each action. -/
inductive PipelineStep (upcase : UInt16 → UInt16) (s : PipelineState) :
    PipelineAction → PipelineState → Prop
  | driver {a system} (arrives) (h : (RansomShield.system upcase).step s.system a = some system) :
    PipelineStep upcase s (.driver a arrives) (s.afterDriver system arrives)
  | expire {i} (hi : i < s.inbox.length) :
    PipelineStep upcase s (.expire i) { s with inbox := s.inbox.eraseIdx i }
  | getMessage {i m header} (stack buffer) (hl : s.listener = .waiting) (hi : s.inbox[i]? = some m)
    (hheader : header.length = sizeofFilterMessageHeader) :
    PipelineStep upcase s (.getMessage i header stack buffer)
      (s.afterGetMessage i m header stack buffer)
  | queueAlert {processId imageName operationCount notifications}
    (hl : s.listener = .queueing processId imageName operationCount)
    (hname : 0 ∈ List.ofFn imageName)
    (h : notificationManager.step s.notifications
      (.queueAlert 0 ⟨processId, .ofArray imageName, operationCount⟩) = some notifications) :
    PipelineStep upcase s .queueAlert
      { s with
        notifications := notifications
        listener := .posting processId imageName operationCount }
  | postMessage {processId imageName operationCount notifications}
    (hl : s.listener = .posting processId imageName operationCount)
    (h : notificationManager.step s.notifications (.postMessage 0) = some notifications) :
    PipelineStep upcase s .postMessage
      { s with
        notifications := notifications
        listener := .logging (.blockedPid processId imageName operationCount) }
  | log {event st logger} (hl : s.listener = .logging event)
    (h : s.logger.logEvent st event = some logger) :
    PipelineStep upcase s (.log st) { s with logger := logger, listener := .waiting }
  | window {a notifications}
    (h : notificationManager.step s.notifications a.toNotificationAction = some notifications) :
    PipelineStep upcase s (.window a) { s with notifications := notifications }

theorem pipelineStep_of_step {upcase : UInt16 → UInt16} {s s' : PipelineState}
    {a : PipelineAction} (h : (alertPipeline upcase).step s a = some s') :
    PipelineStep upcase s a s' := by
  cases a with
  | driver a arrives =>
    obtain ⟨system, hsystem, rfl⟩ := Option.map_eq_some_iff.1 h
    exact .driver arrives hsystem
  | expire i =>
    simp only [alertPipeline, Option.ite_none_right_eq_some, Option.some.injEq] at h
    obtain ⟨hi, rfl⟩ := h
    exact .expire hi
  | getMessage i header stack buffer =>
    simp only [alertPipeline] at h
    split at h
    · next hl hi =>
      simp only [Option.ite_none_right_eq_some, Option.some.injEq] at h
      obtain ⟨hheader, rfl⟩ := h
      exact .getMessage stack buffer hl hi hheader
    · cases h
  | queueAlert =>
    simp only [alertPipeline] at h
    split at h
    · next hl =>
      simp only [PipelineState.queueAlert, Option.ite_none_right_eq_some] at h
      obtain ⟨hname, h⟩ := h
      obtain ⟨notifications, hstep, rfl⟩ := Option.map_eq_some_iff.1 h
      exact .queueAlert hl hname hstep
    · cases h
  | postMessage =>
    simp only [alertPipeline] at h
    split at h
    · next hl =>
      obtain ⟨notifications, hstep, rfl⟩ := Option.map_eq_some_iff.1 h
      exact .postMessage hl hstep
    · cases h
  | log st =>
    simp only [alertPipeline] at h
    split at h
    · next hl =>
      obtain ⟨logger, hlog, rfl⟩ := Option.map_eq_some_iff.1 h
      exact .log hl hlog
    · cases h
  | window a =>
    obtain ⟨notifications, hstep, rfl⟩ := Option.map_eq_some_iff.1 h
    exact .window hstep

end RansomShield
