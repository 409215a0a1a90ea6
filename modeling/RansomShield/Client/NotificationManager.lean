import RansomShield.Client.CommManager
import RansomShield.Client.Requests

/-!
# The alert queue of the tray agent

The listener threads queue alerts in `usermode/tray/NotificationManager.cpp`, and the thread of the
window shows them when it handles `WM_RSBLOCKED`; `notificationManager` is the machine, and
`NotificationStep` says what its steps can do.  The queue is changed under its mutex only, so a push
and a pop are one step each; the message is posted, and the alert is shown, outside of it.
`PostMessageW` succeeds.
-/

namespace RansomShield

/-- `RsAlertData`. -/
structure RsAlertData where
  pid : UInt32
  imageName : WString
  opCount : UInt32
  deriving DecidableEq

/-- The progress of `QueueAlert` on a listener thread. -/
inductive QueueCall
  | idle
  /-- Behind the push, before `PostMessageW`. -/
  | posting
  deriving DecidableEq, Repr

/-- The progress of the window procedure. -/
inductive WindowProc
  /-- It does not handle `WM_RSBLOCKED`. -/
  | idle
  /-- Before `DrainAlert`. -/
  | draining
  /-- Before `ShowRansomwareAlert`. -/
  | showing (alert : RsAlertData)
  deriving DecidableEq

/-- The queue, the messages and the threads. -/
structure NotificationState where
  /-- `m_alertQueue`. -/
  alertQueue : List RsAlertData
  /-- The number of `WM_RSBLOCKED` messages that wait for the window. -/
  posted : ℕ
  calls : ListenerId → QueueCall
  wndProc : WindowProc

/-- The agent starts. -/
def NotificationState.init : NotificationState where
  alertQueue := []
  posted := 0
  calls := fun _ => .idle
  wndProc := .idle

/-- The steps of the threads. -/
inductive NotificationAction
  /-- The locked section of `QueueAlert`. -/
  | queueAlert (i : ListenerId) (alert : RsAlertData)
  /-- `PostMessageW`. -/
  | postMessage (i : ListenerId)
  /-- The window gets `WM_RSBLOCKED`. -/
  | dispatchMessage
  | drainAlert
  | showRansomwareAlert
  deriving DecidableEq

namespace NotificationState

variable (s : NotificationState)

/-- The call of a listener thread goes on. -/
def setCall (i : ListenerId) (c : QueueCall) : NotificationState :=
  { s with calls := Function.update s.calls i c }

/-- `DrainAlert`, in the loop of the window procedure. -/
def drainAlert : NotificationState :=
  match s.alertQueue with
  | [] => { s with wndProc := .idle }
  | alert :: rest => { s with alertQueue := rest, wndProc := .showing alert }

end NotificationState

/-- The `NotificationManager`, the listener threads and the window. -/
def notificationManager : Machine NotificationState NotificationAction where
  step s
    | .queueAlert i alert =>
      match s.calls i with
      | .idle => some { s.setCall i .posting with alertQueue := s.alertQueue ++ [alert] }
      | .posting => none
    | .postMessage i =>
      match s.calls i with
      | .posting => some { s.setCall i .idle with posted := s.posted + 1 }
      | .idle => none
    | .dispatchMessage =>
      match s.wndProc, s.posted with
      | .idle, posted + 1 => some { s with wndProc := .draining, posted := posted }
      | _, _ => none
    | .drainAlert =>
      match s.wndProc with
      | .draining => some s.drainAlert
      | _ => none
    | .showRansomwareAlert =>
      match s.wndProc with
      | .showing _ => some { s with wndProc := .draining }
      | _ => none

/-! ### What a step can do -/

/-- The steps of the machine, one case for each branch of the source. -/
inductive NotificationStep (s : NotificationState) :
    NotificationAction → NotificationState → Prop
  | queueAlert {i} (alert) (hcall : s.calls i = .idle) :
    NotificationStep s (.queueAlert i alert)
      { s.setCall i .posting with alertQueue := s.alertQueue ++ [alert] }
  | postMessage {i} (hcall : s.calls i = .posting) :
    NotificationStep s (.postMessage i) { s.setCall i .idle with posted := s.posted + 1 }
  | dispatchMessage {posted} (hidle : s.wndProc = .idle) (hposted : s.posted = posted + 1) :
    NotificationStep s .dispatchMessage { s with wndProc := .draining, posted := posted }
  | drainEmpty (hdraining : s.wndProc = .draining) (hqueue : s.alertQueue = []) :
    NotificationStep s .drainAlert { s with wndProc := .idle }
  | drainAlert {alert rest} (hdraining : s.wndProc = .draining)
    (hqueue : s.alertQueue = alert :: rest) :
    NotificationStep s .drainAlert { s with alertQueue := rest, wndProc := .showing alert }
  | showRansomwareAlert {alert} (hshowing : s.wndProc = .showing alert) :
    NotificationStep s .showRansomwareAlert { s with wndProc := .draining }

theorem notificationStep_of_step {s s' : NotificationState} {a : NotificationAction}
    (h : notificationManager.step s a = some s') : NotificationStep s a s' := by
  cases a with
  | queueAlert i alert =>
    simp only [notificationManager] at h
    split at h
    · next hcall =>
      cases h
      exact .queueAlert alert hcall
    · cases h
  | postMessage i =>
    simp only [notificationManager] at h
    split at h
    · next hcall =>
      cases h
      exact .postMessage hcall
    · cases h
  | dispatchMessage =>
    simp only [notificationManager] at h
    split at h
    · next hidle hposted =>
      cases h
      exact .dispatchMessage hidle hposted
    · cases h
  | drainAlert =>
    simp only [notificationManager] at h
    split at h
    · next hdraining =>
      cases h
      rw [NotificationState.drainAlert]
      split
      · next hqueue => exact .drainEmpty hdraining hqueue
      · next hqueue => exact .drainAlert hdraining hqueue
    · cases h
  | showRansomwareAlert =>
    simp only [notificationManager] at h
    split at h
    · next hshowing =>
      cases h
      exact .showRansomwareAlert hshowing
    · cases h

end RansomShield
