import RansomShield.Client.NotificationManager

/-!
# Alerts in the tray

An alert that a listener thread has queued is in one of three places (`alerts_in_order`): in the
queue, in the hand of the window procedure, which has taken it out and not shown it yet, or among
the alerts that were shown.  So nothing is lost, shown twice or shown out of order.  The queue is
never forgotten either: while it holds an alert, a message is on its way, or a call that will post
one, or the loop that empties the queue.

Between `DrainAlert` and `ShowRansomwareAlert` an alert is neither in the queue nor shown
(`alert_in_hand`).
-/

namespace RansomShield

/-- The alerts that were pushed, in order. -/
def alertsPushed (as : List NotificationAction) : List RsAlertData :=
  as.filterMap fun
    | .queueAlert _ alert => some alert
    | _ => none

/-- The alert that a step shows. -/
def shownBy (s : NotificationState) (a : NotificationAction) (_ : NotificationState) :
    List RsAlertData :=
  match a, s.wndProc with
  | .showRansomwareAlert, .showing alert => [alert]
  | _, _ => []

/-- The alerts that were shown, in order. -/
def alertsShown (as : List NotificationAction) : List RsAlertData :=
  notificationManager.outputs shownBy NotificationState.init as

namespace NotificationState

variable (s : NotificationState)

/-- The alert that was taken out of the queue and not shown yet. -/
def inHand : List RsAlertData :=
  match s.wndProc with
  | .showing alert => [alert]
  | _ => []

/-- No `WM_RSBLOCKED` is pending, no `QueueAlert` is between its push and its post, and the window
procedure does not drain the queue. -/
structure Quiet : Prop where
  posted : s.posted = 0
  calls : ∀ i, s.calls i = .idle
  wndProc : s.wndProc = .idle

/-- While the queue holds an alert, somebody will come for it. -/
def Awake : Prop :=
  s.alertQueue ≠ [] → 0 < s.posted ∨ (∃ i, s.calls i = .posting) ∨ s.wndProc ≠ .idle

variable {s}

theorem Awake.alertQueue_eq_nil (h : s.Awake) (hquiet : s.Quiet) : s.alertQueue = [] := by
  by_contra hne
  rcases h hne with hposted | ⟨i, hi⟩ | hwndProc
  · rw [hquiet.posted] at hposted
    exact absurd hposted (lt_irrefl 0)
  · rw [hquiet.calls i] at hi
    cases hi
  · exact hwndProc hquiet.wndProc

/-- **A step forgets no alert**: it leaves a message, a call or a loop behind, or an empty queue. -/
theorem awake_of_step {a : NotificationAction} {s' : NotificationState}
    (hstep : NotificationStep s a s') : s'.Awake := by
  intro hne
  cases hstep with
  | @queueAlert i alert hcall =>
    exact Or.inr (Or.inl ⟨i, Function.update_self ..⟩)
  | postMessage hcall => exact Or.inl (Nat.succ_pos _)
  | dispatchMessage hidle hposted => exact Or.inr (Or.inr (by simp))
  | drainEmpty hdraining hqueue => exact absurd hqueue hne
  | drainAlert hdraining hqueue => exact Or.inr (Or.inr (by simp))
  | showRansomwareAlert hshowing => exact Or.inr (Or.inr (by simp))

/-- **A step loses, doubles and reorders no alert.** -/
theorem order_step {a : NotificationAction} {s' : NotificationState}
    {shown pushed : List RsAlertData} (h : shown ++ s.inHand ++ s.alertQueue = pushed)
    (hstep : NotificationStep s a s') :
    (shown ++ shownBy s a s') ++ s'.inHand ++ s'.alertQueue = pushed ++ alertsPushed [a] := by
  cases hstep with
  | queueAlert alert hcall =>
    rw [← h]
    simp [shownBy, inHand, alertsPushed, setCall]
  | postMessage hcall =>
    rw [← h]
    simp [shownBy, inHand, alertsPushed, setCall]
  | dispatchMessage hidle hposted =>
    rw [← h]
    simp [shownBy, inHand, alertsPushed, hidle]
  | drainEmpty hdraining hqueue =>
    rw [← h]
    simp [shownBy, inHand, alertsPushed, hdraining]
  | drainAlert hdraining hqueue =>
    rw [← h, hqueue]
    simp [shownBy, inHand, alertsPushed, hdraining]
  | showRansomwareAlert hshowing =>
    rw [← h]
    simp [shownBy, inHand, alertsPushed, hshowing]

end NotificationState

theorem alertQueue_run {as : List NotificationAction} {s : NotificationState}
    (hrun : notificationManager.run NotificationState.init as = some s) :
    alertsShown as ++ s.inHand ++ s.alertQueue = alertsPushed as ∧ s.Awake := by
  refine Machine.run_induction
    (I := fun as s => alertsShown as ++ s.inHand ++ s.alertQueue = alertsPushed as ∧ s.Awake)
    hrun ⟨rfl, fun hne => absurd rfl hne⟩ ?_
  rintro bs b s s' - hbs ⟨horder, -⟩ hstep
  have hcases := notificationStep_of_step hstep
  refine ⟨?_, NotificationState.awake_of_step hcases⟩
  have hshown : alertsShown (bs ++ [b]) = alertsShown bs ++ shownBy s b s' :=
    Machine.outputs_concat hbs hstep
  have hpushed : alertsPushed (bs ++ [b]) = alertsPushed bs ++ alertsPushed [b] :=
    List.filterMap_append
  rw [hshown, hpushed]
  exact NotificationState.order_step horder hcases

/-- **No alert is lost, shown twice or reordered.**  In every interleaving of the listener threads
and the window, after every step: the alerts that were shown, the one that was taken out of the
queue and not shown yet, and those in the queue are, in this order, the alerts that were pushed;
and when no message is pending, no call is between its push and its post and the window does not
drain the queue, the queue is empty. -/
theorem alerts_in_order (as : List NotificationAction) (s : NotificationState)
    (hrun : notificationManager.run NotificationState.init as = some s) :
    alertsShown as ++ s.inHand ++ s.alertQueue = alertsPushed as ∧
      (s.Quiet → s.alertQueue = []) :=
  ⟨(alertQueue_run hrun).1, (alertQueue_run hrun).2.alertQueue_eq_nil⟩

/-! ### An alert in the hand of the window procedure -/

/-- An alert. -/
def someAlert : RsAlertData := ⟨4, ⟨wide "evil.exe", by decide⟩, 25⟩

/-- One alert is pushed and posted, and taken out of the queue. -/
def drainedOnce : List NotificationAction :=
  [.queueAlert 0 someAlert, .postMessage 0, .dispatchMessage, .drainAlert]

/-- **Between the two calls** the alerts that were shown and the queue are not all alerts: the one
in the hand is missing. -/
theorem alert_in_hand :
    ∃ s, notificationManager.run NotificationState.init drainedOnce = some s ∧
      alertsShown drainedOnce ++ s.alertQueue ≠ alertsPushed drainedOnce := by
  obtain ⟨s, hrun, hqueue⟩ := Machine.exists_of_any notificationManager
    (fun s => decide (s.alertQueue = [])) NotificationState.init drainedOnce (by decide)
  refine ⟨s, hrun, ?_⟩
  rw [of_decide_eq_true hqueue]
  decide

/-- A whole drain of one alert. -/
def drainedWhole : List NotificationAction :=
  drainedOnce ++ [.showRansomwareAlert, .drainAlert]

theorem alerts_in_order_drainedWhole :
    ∃ s, notificationManager.run NotificationState.init drainedWhole = some s ∧ s.Quiet ∧
      alertsShown drainedWhole ++ s.inHand ++ s.alertQueue = alertsPushed drainedWhole ∧
      (s.Quiet → s.alertQueue = []) := by
  refine ⟨_, rfl, ⟨rfl, ?_, rfl⟩, alerts_in_order drainedWhole _ rfl⟩
  intro i
  change Function.update (Function.update (fun _ => QueueCall.idle) 0 .posting) 0 .idle i = .idle
  rw [Function.update_idem, Function.update_eq_self]

end RansomShield
