import RansomShield.Client.Defs
import RansomShield.Machine.Basic
import Mathlib.Logic.Function.Basic

/-!
# The connection of the client

`CommManager` of `usermode/common/CommManager.cpp` as the machine `commManager`, with any number of
threads that call its methods (`CallState`) and the listener threads that it starts
(`ListenerState`).  A step is a section under `m_mutex`, a system call outside of it, or an access
to the atomic `m_listenerRunning`; `Connect` holds `m_mutex` throughout and is a step of its own.
The result of every system call is part of the action, so that each of them may succeed or fail with
any error.  What a step can do is the relation `CommStep`, with one case for each branch of the
source (`commStep_of_step`).

Handles are numbered in the order in which `FilterConnectCommunicationPort` returns them, so that a
number stands for one connection even if Windows uses a handle value again.
-/

namespace RansomShield

/-- A thread that calls the methods of the `CommManager`. -/
abbrev ThreadId := ℕ

/-- A listener thread, in the order in which they are started. -/
abbrev ListenerId := ℕ

/-- Where a thread is in a call of a method. -/
inductive CallState
  | idle
  /-- In `SendRequest`, with the handle that was read under the lock. -/
  | sending (hPort : PortHandle)
  /-- In `SendRequest`, before `m_connected` is reset. -/
  | sendFailed (hPort : PortHandle)
  /-- In `StartListener`, before the thread is created. -/
  | starting
  /-- In `StopListener`, before its call of `Disconnect`. -/
  | stopping
  /-- In `Disconnect`, before `CloseHandle`; the caller may be `StopListener`. -/
  | closing (hPort : PortHandle) (stops : Bool)
  /-- In `StopListener`, before `join`. -/
  | joining
  deriving DecidableEq

/-- Where a listener thread is. -/
inductive ListenerState
  /-- Before its buffer is allocated. -/
  | starting
  /-- Before the test of `m_listenerRunning` at the head of the loop. -/
  | looping
  /-- Before `m_hPort` is read. -/
  | reading
  /-- In `FilterGetMessage`. -/
  | waiting (hPort : PortHandle)
  /-- Behind `FilterGetMessage`, before the next test of `m_listenerRunning`. -/
  | returned (hPort : PortHandle) (hr : HResult)
  /-- After an error that means that the port was closed, before `m_listenerRunning` is tested. -/
  | failed (hPort : PortHandle)
  /-- Before `m_connected` is reset. -/
  | marking (hPort : PortHandle)
  /-- In the callback. -/
  | dispatching
  | exited
  deriving DecidableEq

/-- The port and the connection of the `CommManager`, the handles that have been opened and closed,
and the threads: the callers of its functions and the listeners. -/
structure CommState where
  /-- `m_hPort`, `none` for `INVALID_HANDLE_VALUE`. -/
  hPort : Option PortHandle
  /-- `m_connected`. -/
  connected : Bool
  /-- `m_listenerRunning`. -/
  listenerRunning : Bool
  /-- `m_listenerThread`, `none` when it is not joinable. -/
  listenerThread : Option ListenerId
  /-- The number of handles that `FilterConnectCommunicationPort` has returned. -/
  opened : ℕ
  /-- The handles passed to `CloseHandle`. -/
  closed : List PortHandle
  calls : ThreadId → CallState
  /-- The number of listener threads that have been started. -/
  started : ℕ
  listeners : ListenerId → ListenerState

/-- The `CommManager` is constructed. -/
def CommState.init : CommState where
  hPort := none
  connected := false
  listenerRunning := false
  listenerThread := none
  opened := 0
  closed := []
  calls := fun _ => .idle
  started := 0
  listeners := fun _ => .exited

namespace CommState

variable (s : CommState) (t : ThreadId) (i : ListenerId)

/-- The call of a thread goes on. -/
def setCall (c : CallState) : CommState := { s with calls := Function.update s.calls t c }

/-- A listener thread goes on. -/
def setListener (l : ListenerState) : CommState :=
  { s with listeners := Function.update s.listeners i l }

@[simp] theorem setCall_calls (c : CallState) :
    (s.setCall t c).calls = Function.update s.calls t c := rfl

@[simp] theorem setListener_listeners (l : ListenerState) :
    (s.setListener i l).listeners = Function.update s.listeners i l := rfl

/-- `m_connected && m_hPort != INVALID_HANDLE_VALUE`. -/
def isConnected : Bool := s.connected && s.hPort.isSome

/-! ### Methods -/

/-- `Connect`, where `FilterConnectCommunicationPort` returns the result. -/
def connect (hr : HResult) : CommState :=
  if s.isConnected then s
  else if hr.failed then { s with hPort := none, connected := false }
  else { s with hPort := some s.opened, connected := true, opened := s.opened + 1 }

/-- The locked section of `Disconnect`. -/
def disconnect (stops : Bool) : CommState :=
  match s.hPort with
  | none => s.setCall t (if stops then .joining else .idle)
  | some h => { s.setCall t (.closing h stops) with hPort := none, connected := false }

/-- The rest of `Disconnect`. -/
def closeHandle (h : PortHandle) (stops : Bool) : CommState :=
  { s.setCall t (if stops then .joining else .idle) with closed := s.closed ++ [h] }

/-- The locked section of `SendRequest`. -/
def sendRequest : CommState :=
  match s.hPort with
  | some h => if s.connected then s.setCall t (.sending h) else s
  | none => s

/-- `FilterSendMessage` returns. -/
def sendMessage (h : PortHandle) (hr : HResult) : CommState :=
  s.setCall t (if hr.failed && hr.isDisconnect then .sendFailed h else .idle)

/-- The locked section of `StartListener`. -/
def startListener : CommState :=
  if s.isConnected && !s.listenerRunning then
    { s.setCall t .starting with listenerRunning := true }
  else s

/-- `StartListener` creates the thread.  Where `m_listenerThread` is joinable, the assignment ends
the process. -/
def createThread (succeeds : Bool) : Option CommState :=
  if succeeds then
    if s.listenerThread.isSome then none
    else
      some { (s.setCall t .idle).setListener s.started .starting with
        listenerThread := some s.started, started := s.started + 1 }
  else some { s.setCall t .idle with listenerRunning := false }

/-- `StopListener` joins the thread, once that has exited. -/
def join : Option CommState :=
  match s.listenerThread with
  | none => some (s.setCall t .idle)
  | some i =>
    if s.listeners i = .exited then some { s.setCall t .idle with listenerThread := none }
    else none

/-! ### The listener thread -/

/-- The allocation of the buffer. -/
def allocateBuffer (succeeds : Bool) : CommState :=
  if succeeds then s.setListener i .looping
  else { s.setListener i .exited with listenerRunning := false }

/-- The test at the head of the loop. -/
def testRunning : CommState := s.setListener i (if s.listenerRunning then .reading else .exited)

/-- The locked section that reads `m_hPort`. -/
def readPort : CommState :=
  match s.hPort with
  | none => s.setListener i .exited
  | some h => s.setListener i (.waiting h)

/-- What happens behind `FilterGetMessage`. -/
def afterGetMessage (h : PortHandle) (hr : HResult) : CommState :=
  s.setListener i
    (if !s.listenerRunning then .exited
    else if hr.failed then
      if hr.isDisconnect then .failed h else .exited
    else .dispatching)

/-- The test after an error. -/
def testAgain (h : PortHandle) : CommState :=
  s.setListener i (if s.listenerRunning then .marking h else .exited)

end CommState

/-! ### The machine -/

/-- The steps of the threads. -/
inductive CommAction
  | connect (t : ThreadId) (hr : HResult)
  | disconnect (t : ThreadId)
  | closeHandle (t : ThreadId)
  | sendRequest (t : ThreadId)
  /-- `FilterSendMessage` returns. -/
  | sendMessage (t : ThreadId) (hr : HResult)
  /-- `SendRequest` resets `m_connected`. -/
  | markSend (t : ThreadId)
  | startListener (t : ThreadId)
  | createThread (t : ThreadId) (succeeds : Bool)
  | stopListener (t : ThreadId)
  | join (t : ThreadId)
  | allocateBuffer (i : ListenerId) (succeeds : Bool)
  | testRunning (i : ListenerId)
  | readPort (i : ListenerId)
  /-- `FilterGetMessage` returns. -/
  | getMessage (i : ListenerId) (hr : HResult)
  | afterGetMessage (i : ListenerId)
  | testAgain (i : ListenerId)
  /-- The listener resets `m_connected`. -/
  | markListener (i : ListenerId)
  /-- The callback returns. -/
  | callback (i : ListenerId)
  deriving DecidableEq

/-- The thread that calls a method, `none` for a step of a listener thread. -/
def CommAction.caller : CommAction → Option ThreadId
  | .connect t _ | .disconnect t | .closeHandle t | .sendRequest t | .sendMessage t _ | .markSend t
  | .startListener t | .createThread t _ | .stopListener t | .join t => some t
  | _ => none

/-- The `CommManager` and its threads. -/
def commManager : Machine CommState CommAction where
  step s
    | .connect t hr =>
      match s.calls t with
      | .idle => some (s.connect hr)
      | _ => none
    | .disconnect t =>
      match s.calls t with
      | .idle => some (s.disconnect t false)
      | .stopping => some (s.disconnect t true)
      | _ => none
    | .closeHandle t =>
      match s.calls t with
      | .closing h stops => some (s.closeHandle t h stops)
      | _ => none
    | .sendRequest t =>
      match s.calls t with
      | .idle => some (s.sendRequest t)
      | _ => none
    | .sendMessage t hr =>
      match s.calls t with
      | .sending h => some (s.sendMessage t h hr)
      | _ => none
    | .markSend t =>
      match s.calls t with
      | .sendFailed _ => some { s.setCall t .idle with connected := false }
      | _ => none
    | .startListener t =>
      match s.calls t with
      | .idle => some (s.startListener t)
      | _ => none
    | .createThread t succeeds =>
      match s.calls t with
      | .starting => s.createThread t succeeds
      | _ => none
    | .stopListener t =>
      match s.calls t with
      | .idle => some { s.setCall t .stopping with listenerRunning := false }
      | _ => none
    | .join t =>
      match s.calls t with
      | .joining => s.join t
      | _ => none
    | .allocateBuffer i succeeds =>
      match s.listeners i with
      | .starting => some (s.allocateBuffer i succeeds)
      | _ => none
    | .testRunning i =>
      match s.listeners i with
      | .looping => some (s.testRunning i)
      | _ => none
    | .readPort i =>
      match s.listeners i with
      | .reading => some (s.readPort i)
      | _ => none
    | .getMessage i hr =>
      match s.listeners i with
      | .waiting h => some (s.setListener i (.returned h hr))
      | _ => none
    | .afterGetMessage i =>
      match s.listeners i with
      | .returned h hr => some (s.afterGetMessage i h hr)
      | _ => none
    | .testAgain i =>
      match s.listeners i with
      | .failed h => some (s.testAgain i h)
      | _ => none
    | .markListener i =>
      match s.listeners i with
      | .marking _ => some { s.setListener i .exited with connected := false }
      | _ => none
    | .callback i =>
      match s.listeners i with
      | .dispatching => some (s.setListener i .looping)
      | _ => none

/-! ### What a step can do -/

/-- The steps of the machine, one case for each branch of the source. -/
inductive CommStep (s : CommState) : CommAction → CommState → Prop
  | alreadyConnected {t hr} (hc : s.calls t = .idle) (h : s.isConnected = true) :
    CommStep s (.connect t hr) s
  | connectFails {t hr} (hc : s.calls t = .idle) (h : s.isConnected = false)
    (hr' : hr.failed = true) :
    CommStep s (.connect t hr) { s with hPort := none, connected := false }
  | connectOpens {t hr} (hc : s.calls t = .idle) (h : s.isConnected = false)
    (hr' : hr.failed = false) :
    CommStep s (.connect t hr)
      { s with hPort := some s.opened, connected := true, opened := s.opened + 1 }
  | notConnected {t} (stops : Bool) (hc : s.calls t = if stops then .stopping else .idle)
    (h : s.hPort = none) :
    CommStep s (.disconnect t) (s.setCall t (if stops then .joining else .idle))
  | disconnects {t p} (stops : Bool) (hc : s.calls t = if stops then .stopping else .idle)
    (h : s.hPort = some p) :
    CommStep s (.disconnect t)
      { s.setCall t (.closing p stops) with hPort := none, connected := false }
  | closes {t p stops} (hc : s.calls t = .closing p stops) :
    CommStep s (.closeHandle t)
      { s.setCall t (if stops then .joining else .idle) with closed := s.closed ++ [p] }
  | sends {t p} (hc : s.calls t = .idle) (hp : s.hPort = some p) (h : s.connected = true) :
    CommStep s (.sendRequest t) (s.setCall t (.sending p))
  | sendsNothing {t} (hc : s.calls t = .idle) (h : s.isConnected = false) :
    CommStep s (.sendRequest t) s
  | sendFails {t p hr} (hc : s.calls t = .sending p) (h : hr.isDisconnect = true) :
    CommStep s (.sendMessage t hr) (s.setCall t (.sendFailed p))
  | sent {t p hr} (hc : s.calls t = .sending p) (h : hr.isDisconnect = false) :
    CommStep s (.sendMessage t hr) (s.setCall t .idle)
  | marksSend {t p} (hc : s.calls t = .sendFailed p) :
    CommStep s (.markSend t) { s.setCall t .idle with connected := false }
  | cannotStart {t} (hc : s.calls t = .idle) (h : s.isConnected = false) :
    CommStep s (.startListener t) s
  | alreadyRunning {t} (hc : s.calls t = .idle) (h : s.isConnected = true)
    (hrun : s.listenerRunning = true) : CommStep s (.startListener t) s
  | starts {t} (hc : s.calls t = .idle) (h : s.isConnected = true)
    (hrun : s.listenerRunning = false) :
    CommStep s (.startListener t) { s.setCall t .starting with listenerRunning := true }
  | creates {t} (hc : s.calls t = .starting) (h : s.listenerThread = none) :
    CommStep s (.createThread t true)
      { (s.setCall t .idle).setListener s.started .starting with
        listenerThread := some s.started, started := s.started + 1 }
  | cannotCreate {t} (hc : s.calls t = .starting) :
    CommStep s (.createThread t false) { s.setCall t .idle with listenerRunning := false }
  | stops {t} (hc : s.calls t = .idle) :
    CommStep s (.stopListener t) { s.setCall t .stopping with listenerRunning := false }
  | notJoinable {t} (hc : s.calls t = .joining) (h : s.listenerThread = none) :
    CommStep s (.join t) (s.setCall t .idle)
  | joins {t i} (hc : s.calls t = .joining) (h : s.listenerThread = some i)
    (hi : s.listeners i = .exited) :
    CommStep s (.join t) { s.setCall t .idle with listenerThread := none }
  | allocates {i} (hl : s.listeners i = .starting) :
    CommStep s (.allocateBuffer i true) (s.setListener i .looping)
  | outOfMemory {i} (hl : s.listeners i = .starting) :
    CommStep s (.allocateBuffer i false)
      { s.setListener i .exited with listenerRunning := false }
  | goesOn {i} (hl : s.listeners i = .looping) (h : s.listenerRunning = true) :
    CommStep s (.testRunning i) (s.setListener i .reading)
  | leaves {i} (hl : s.listeners i = .looping) (h : s.listenerRunning = false) :
    CommStep s (.testRunning i) (s.setListener i .exited)
  | reads {i p} (hl : s.listeners i = .reading) (h : s.hPort = some p) :
    CommStep s (.readPort i) (s.setListener i (.waiting p))
  | readsNone {i} (hl : s.listeners i = .reading) (h : s.hPort = none) :
    CommStep s (.readPort i) (s.setListener i .exited)
  | gets {i p hr} (hl : s.listeners i = .waiting p) :
    CommStep s (.getMessage i hr) (s.setListener i (.returned p hr))
  | stopped {i p hr} (hl : s.listeners i = .returned p hr) (h : s.listenerRunning = false) :
    CommStep s (.afterGetMessage i) (s.setListener i .exited)
  | portClosed {i p hr} (hl : s.listeners i = .returned p hr) (h : s.listenerRunning = true)
    (hr' : hr.isDisconnect = true) : CommStep s (.afterGetMessage i) (s.setListener i (.failed p))
  | otherError {i p hr} (hl : s.listeners i = .returned p hr) (h : s.listenerRunning = true)
    (hr' : hr.failed = true) (hno : hr.isDisconnect = false) :
    CommStep s (.afterGetMessage i) (s.setListener i .exited)
  | dispatches {i p hr} (hl : s.listeners i = .returned p hr) (h : s.listenerRunning = true)
    (hr' : hr.failed = false) : CommStep s (.afterGetMessage i) (s.setListener i .dispatching)
  | unexpected {i p} (hl : s.listeners i = .failed p) (h : s.listenerRunning = true) :
    CommStep s (.testAgain i) (s.setListener i (.marking p))
  | expected {i p} (hl : s.listeners i = .failed p) (h : s.listenerRunning = false) :
    CommStep s (.testAgain i) (s.setListener i .exited)
  | marksListener {i p} (hl : s.listeners i = .marking p) :
    CommStep s (.markListener i) { s.setListener i .exited with connected := false }
  | calledBack {i} (hl : s.listeners i = .dispatching) :
    CommStep s (.callback i) (s.setListener i .looping)

section

variable {s s' : CommState} {t : ThreadId} {i : ListenerId} {p : PortHandle} {hr : HResult}

theorem commStep_connect (hc : s.calls t = .idle) : CommStep s (.connect t hr) (s.connect hr) := by
  unfold CommState.connect
  split_ifs with hcon hfail
  · exact .alreadyConnected hc hcon
  · exact .connectFails hc (by simpa using hcon) hfail
  · exact .connectOpens hc (by simpa using hcon) (by simpa using hfail)

/-- `Disconnect`, called from outside or by `StopListener`. -/
theorem commStep_disconnect (stops : Bool)
    (hc : s.calls t = if stops then .stopping else .idle) :
    CommStep s (.disconnect t) (s.disconnect t stops) := by
  unfold CommState.disconnect
  split
  · next hp => exact .notConnected stops hc hp
  · next hp => exact .disconnects stops hc hp

theorem commStep_sendRequest (hc : s.calls t = .idle) :
    CommStep s (.sendRequest t) (s.sendRequest t) := by
  unfold CommState.sendRequest
  split
  · next hp =>
    split_ifs with hcon
    · exact .sends hc hp hcon
    · exact .sendsNothing hc (by simp [CommState.isConnected, hcon])
  · next hp => exact .sendsNothing hc (by simp [CommState.isConnected, hp])

theorem commStep_sendMessage (hc : s.calls t = .sending p) :
    CommStep s (.sendMessage t hr) (s.sendMessage t p hr) := by
  unfold CommState.sendMessage
  cases hdis : hr.isDisconnect with
  | true =>
    rw [HResult.failed_of_isDisconnect hdis]
    exact .sendFails hc hdis
  | false =>
    rw [Bool.and_false]
    exact .sent hc hdis

theorem commStep_startListener (hc : s.calls t = .idle) :
    CommStep s (.startListener t) (s.startListener t) := by
  unfold CommState.startListener
  cases hcon : s.isConnected with
  | false => exact .cannotStart hc hcon
  | true =>
    cases hrun : s.listenerRunning with
    | false => exact .starts hc hcon hrun
    | true => exact .alreadyRunning hc hcon hrun

theorem commStep_createThread {succeeds : Bool} (hc : s.calls t = .starting)
    (h : s.createThread t succeeds = some s') : CommStep s (.createThread t succeeds) s' := by
  unfold CommState.createThread at h
  cases succeeds with
  | false =>
    cases h
    exact .cannotCreate hc
  | true =>
    cases hthread : s.listenerThread with
    | none =>
      rw [hthread] at h
      cases h
      exact .creates hc hthread
    | some i =>
      rw [hthread] at h
      cases h

theorem commStep_join (hc : s.calls t = .joining) (h : s.join t = some s') :
    CommStep s (.join t) s' := by
  unfold CommState.join at h
  split at h
  · next hthread =>
    cases h
    exact .notJoinable hc hthread
  · next hthread =>
    simp only [Option.ite_none_right_eq_some, Option.some.injEq] at h
    obtain ⟨hexited, rfl⟩ := h
    exact .joins hc hthread hexited

theorem commStep_testRunning (hl : s.listeners i = .looping) :
    CommStep s (.testRunning i) (s.testRunning i) := by
  unfold CommState.testRunning
  split_ifs with hrun
  · exact .goesOn hl hrun
  · exact .leaves hl (by simpa using hrun)

theorem commStep_readPort (hl : s.listeners i = .reading) :
    CommStep s (.readPort i) (s.readPort i) := by
  unfold CommState.readPort
  split
  · next hp => exact .readsNone hl hp
  · next hp => exact .reads hl hp

theorem commStep_afterGetMessage (hl : s.listeners i = .returned p hr) :
    CommStep s (.afterGetMessage i) (s.afterGetMessage i p hr) := by
  unfold CommState.afterGetMessage
  cases hrun : s.listenerRunning with
  | false => exact .stopped hl hrun
  | true =>
    simp only [Bool.not_true, Bool.false_eq_true, if_false]
    split_ifs with hfail hdis
    · exact .portClosed hl hrun hdis
    · exact .otherError hl hrun hfail (by simpa using hdis)
    · exact .dispatches hl hrun (by simpa using hfail)

theorem commStep_testAgain (hl : s.listeners i = .failed p) :
    CommStep s (.testAgain i) (s.testAgain i p) := by
  unfold CommState.testAgain
  split_ifs with hrun
  · exact .unexpected hl hrun
  · exact .expected hl (by simpa using hrun)

/-- **What a step can do.** -/
theorem commStep_of_step {a : CommAction} (h : commManager.step s a = some s') :
    CommStep s a s' := by
  cases a with
  | connect t hr =>
    simp only [commManager] at h
    split at h
    · next hc =>
      cases h
      exact commStep_connect hc
    · cases h
  | disconnect t =>
    simp only [commManager] at h
    split at h
    · next hc =>
      cases h
      exact commStep_disconnect false hc
    · next hc =>
      cases h
      exact commStep_disconnect true hc
    · cases h
  | closeHandle t =>
    simp only [commManager] at h
    split at h
    · next hc =>
      cases h
      exact .closes hc
    · cases h
  | sendRequest t =>
    simp only [commManager] at h
    split at h
    · next hc =>
      cases h
      exact commStep_sendRequest hc
    · cases h
  | sendMessage t hr =>
    simp only [commManager] at h
    split at h
    · next hc =>
      cases h
      exact commStep_sendMessage hc
    · cases h
  | markSend t =>
    simp only [commManager] at h
    split at h
    · next hc =>
      cases h
      exact .marksSend hc
    · cases h
  | startListener t =>
    simp only [commManager] at h
    split at h
    · next hc =>
      cases h
      exact commStep_startListener hc
    · cases h
  | createThread t succeeds =>
    simp only [commManager] at h
    split at h
    · next hc => exact commStep_createThread hc h
    · cases h
  | stopListener t =>
    simp only [commManager] at h
    split at h
    · next hc =>
      cases h
      exact .stops hc
    · cases h
  | join t =>
    simp only [commManager] at h
    split at h
    · next hc => exact commStep_join hc h
    · cases h
  | allocateBuffer i succeeds =>
    simp only [commManager] at h
    split at h
    · next hl =>
      cases h
      cases succeeds with
      | true => exact .allocates hl
      | false => exact .outOfMemory hl
    · cases h
  | testRunning i =>
    simp only [commManager] at h
    split at h
    · next hl =>
      cases h
      exact commStep_testRunning hl
    · cases h
  | readPort i =>
    simp only [commManager] at h
    split at h
    · next hl =>
      cases h
      exact commStep_readPort hl
    · cases h
  | getMessage i hr =>
    simp only [commManager] at h
    split at h
    · next hl =>
      cases h
      exact .gets hl
    · cases h
  | afterGetMessage i =>
    simp only [commManager] at h
    split at h
    · next hl =>
      cases h
      exact commStep_afterGetMessage hl
    · cases h
  | testAgain i =>
    simp only [commManager] at h
    split at h
    · next hl =>
      cases h
      exact commStep_testAgain hl
    · cases h
  | markListener i =>
    simp only [commManager] at h
    split at h
    · next hl =>
      cases h
      exact .marksListener hl
    · cases h
  | callback i =>
    simp only [commManager] at h
    split at h
    · next hl =>
      cases h
      exact .calledBack hl
    · cases h

end

end RansomShield
