import RansomShield.Client.CommManager

/-!
# The daemon

`RunDaemonMode` of `usermode/cli/Main.cpp`, with the destructor of the `CommManager` behind it: the
thread 0 of the `CommManager`, which calls its methods in the order that the source gives
(`DaemonPhase.next`), while the listener threads take their steps at any time.  `PushToDriver` sends
any number of requests, and gives up at the first that fails.
-/

namespace RansomShield

/-- What follows `StopListener` and `Disconnect`. -/
inductive DaemonGoal
  /-- The health check has failed. -/
  | reconnect
  /-- `Shutdown`. -/
  | leave
  /-- The destructor, when `RunDaemonMode` has returned. -/
  | destroy (code : ℕ)
  deriving DecidableEq, Repr

/-- Where the daemon is. -/
inductive DaemonPhase
  /-- Before a call of `Connect`, after some that have failed. -/
  | connecting (failures : ℕ)
  /-- In `PushToDriver`, at first or after a reconnect. -/
  | pushing (first : Bool)
  /-- In `StartListener`, or before it. -/
  | starting (first : Bool)
  /-- At the head of the loop. -/
  | polling (pollCounter : ℕ)
  /-- In `QueryConfig`. -/
  | checking
  /-- In `StopListener`, or before it. -/
  | stopping (goal : DaemonGoal)
  /-- In `Disconnect`, or before it. -/
  | disconnecting (goal : DaemonGoal)
  /-- Before the call of `Connect` in the loop. -/
  | reconnecting
  /-- The process ends. -/
  | returned (code : ℕ)
  deriving DecidableEq, Repr

/-- What follows `Disconnect`. -/
def DaemonGoal.phase : DaemonGoal → DaemonPhase
  | .reconnect => .reconnecting
  | .leave => .stopping (.destroy 0)
  | .destroy code => .returned code

/-- The number of attempts behind the first one. -/
def connectAttempts : ℕ := 12

/-- The number of rounds between two health checks. -/
def pollsPerCheck : ℕ := 12

/-- The calls that the daemon makes in a phase, and the phase that follows. -/
def DaemonPhase.afterCall (s : CommState) : DaemonPhase → CommAction → Option DaemonPhase
  | .connecting failures, a =>
    match a with
    | .connect _ hr =>
      some (if s.isConnected || !hr.failed then .pushing true
        else if failures < connectAttempts then .connecting (failures + 1)
        else .stopping (.destroy 1))
    | _ => none
  | .pushing first, a =>
    match a with
    | .sendRequest _ => some (if s.isConnected then .pushing first else .starting first)
    | .sendMessage _ hr =>
      some (if hr.failed && !hr.isDisconnect then .starting first else .pushing first)
    | .markSend _ => some (.starting first)
    | _ => none
  | .starting first, a =>
    match a with
    | .startListener _ =>
      some (if !s.isConnected then if first then .stopping (.destroy 1) else .polling 0
        else if s.listenerRunning then .polling 0
        else .starting first)
    | .createThread _ succeeds =>
      some (if succeeds || !first then .polling 0 else .stopping (.destroy 1))
    | _ => none
  | .checking, a =>
    match a with
    | .sendRequest _ => some (if s.isConnected then .checking else .stopping .reconnect)
    | .sendMessage _ hr =>
      some (if !hr.failed then .polling 0
        else if hr.isDisconnect then .checking
        else .stopping .reconnect)
    | .markSend _ => some (.stopping .reconnect)
    | _ => none
  | .stopping goal, a =>
    match a with
    | .stopListener _ => some (.stopping goal)
    | .disconnect _ => if s.calls 0 = .stopping then some (.stopping goal) else none
    | .closeHandle _ => some (.stopping goal)
    | .join _ => some (.disconnecting goal)
    | _ => none
  | .disconnecting goal, a =>
    match a with
    | .disconnect _ => some (if s.hPort.isSome then .disconnecting goal else goal.phase)
    | .closeHandle _ => some goal.phase
    | _ => none
  | .reconnecting, a =>
    match a with
    | .connect _ hr => some (if s.isConnected || !hr.failed then .pushing false else .polling 0)
    | _ => none
  | .polling _, _ | .returned _, _ => none

/-- The phase that follows an action.  The daemon is thread 0, and the listener threads leave it in
its phase. -/
def DaemonPhase.next (s : CommState) (phase : DaemonPhase) (a : CommAction) :
    Option DaemonPhase :=
  if a.caller = none then some phase
  else if a.caller = some 0 then phase.afterCall s a
  else none

/-- The daemon and the `CommManager`. -/
structure DaemonState where
  phase : DaemonPhase
  comm : CommState

/-- The daemon starts. -/
def DaemonState.init : DaemonState := ⟨.connecting 0, CommState.init⟩

inductive DaemonAction
  /-- A step in a call, or of a listener thread. -/
  | comm (a : CommAction)
  /-- `PushToDriver` has sent all requests. -/
  | pushed
  /-- `IsConnected` at the head of the loop, and the five seconds behind it. -/
  | poll
  deriving DecidableEq

/-- The daemon and the listener threads. -/
def daemon : Machine DaemonState DaemonAction where
  step s
    | .comm a =>
      (commManager.step s.comm a).bind fun comm =>
        (s.phase.next s.comm a).map fun phase => ⟨phase, comm⟩
    | .pushed =>
      match s.phase, s.comm.calls 0 with
      | .pushing first, .idle => some { s with phase := .starting first }
      | _, _ => none
    | .poll =>
      match s.phase with
      | .polling pollCounter =>
        some { s with
          phase :=
            if !s.comm.isConnected then .stopping .leave
            else if pollsPerCheck ≤ pollCounter + 1 then .checking
            else .polling (pollCounter + 1) }
      | _ => none

end RansomShield
